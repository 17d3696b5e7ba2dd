import CompilerFlags.Script.Source

/-!
# Reading words

The pieces of a word are read up to what ends it, which depends on where the word stands: blanks and
operators end a word of a command, a double quotation mark ends a text between such marks, and a
brace ends the word that belongs to a parameter.  Words may hold commands, so the readers below are
given readers for lists of commands.

Inside double quotes a backslash escapes only a few octets, and single quotation marks mean nothing.
This is also true of formulas and of texts below a line, where double quotation marks mean nothing
either.
-/

namespace CompilerFlags.Script

/-- Readers for the commands inside words. -/
structure Nested where
  /-- Reads commands up to a closing parenthesis, which is read as well. -/
  enclosed : Reads (Option Command)
  /-- Reads commands as far as there are any. -/
  unenclosed : Reads (Option Command)

/-- What ends the pieces that are read. -/
inductive Limit
  /-- The end of a word of a command. -/
  | word
  /-- A double quotation mark. -/
  | quote
  /-- A closing brace that does not stand between further double quotation marks. -/
  | brace (isInner : Bool)
  /-- Two closing parentheses, while so many others are open. -/
  | formula (opened : Nat)
  /-- The end of a text below a line. -/
  | text
deriving DecidableEq

/-- Where pieces are read. -/
structure Mode where
  limit : Limit
  /-- Whether the pieces are quoted, or stand where only double quotation marks could matter. -/
  isQuoted : Bool
  /-- Whether a closing brace is to come. -/
  inBraces : Bool
  /-- The text below a line of which the pieces are a part. -/
  below : Option Awaited
  /-- Whether the word names the end of such a text, in which parameters mean nothing. -/
  isLast : Bool

namespace Mode

/-- A word of a command. -/
def word (isLast : Bool) : Mode := ⟨.word, false, false, none, isLast⟩

/-- The mode between double quotation marks. -/
def quoted (m : Mode) : Mode := { m with limit := .quote, isQuoted := true }

/-- The mode of the word that belongs to a parameter.  A pattern is not quoted by the marks around
its parameter. -/
def braced (m : Mode) (isPattern : Bool) : Mode :=
  { m with limit := .brace false, isQuoted := m.isQuoted && !isPattern, inBraces := true }

/-- The mode of a formula. -/
def formula (m : Mode) : Mode :=
  { m with limit := .formula 0, isQuoted := true, inBraces := false }

/-- Fails because quotation marks are not closed.  Below a line these can only stand in braces. -/
def refuseOpen {α : Type} (m : Mode) : Reads α :=
  if m.below.isNone then Reads.refuse "Unterminated quoted string"
  else Reads.refuse "Missing '\x7d'"

/-- Fails if the script must not end here. -/
def allowEnd (m : Mode) : Reads Unit :=
  match m.limit with
  | .formula _ => Reads.refuse "Missing '))'"
  | .word => return ()
  | .text => return ()
  | .quote => m.refuseOpen
  | .brace _ => if m.isQuoted then m.refuseOpen else Reads.refuse "Missing '\x7d'"

/-- Whether a backslash between double quotation marks escapes an octet. -/
def isEscapable (m : Mode) (c : Char) : Bool :=
  c = '$' || c = '\x60' || c = '\\' || (c = '"' && (m.below.isNone || m.inBraces)) ||
    (c = '\x7d' && m.inBraces)

/-- What a backslash makes of the octet after it. -/
def escaped (m : Mode) (c : Char) : Word :=
  if m.isQuoted && !m.isEscapable c then [.octet '\\' true, .octet c true] else [.octet c true]

/-- The quotation marks that are left of a text; there are none below a line. -/
def marks (m : Mode) : Word := if m.below.isSome then [] else [.mark]

end Mode

/-- The octets that end a word. -/
def endsWord (c : Char) : Bool :=
  c = ' ' || c = '\t' || c = '\n' || c = ';' || c = '&' || c = '|' || c = '<' || c = '>' ||
    c = '(' || c = ')'

open Reads

/-! ### Texts below a line -/

/-- Reads tabs. -/
def skipTabs : Nat → Reads Unit
  | 0 => return ()
  | steps + 1 => do
    match ← next with
    | some '\t' => skipTabs steps
    | c => unread c

/-- Reads octets if they come next.  Otherwise the script is left as it was. -/
def skipExactly : Octets → Octets → Reads Bool
  | [], read => do
    match ← next with
    | none => return true
    | some '\n' => return true
    | some c =>
      putBack (read.reverse ++ [c])
      return false
  | c :: rest, read => do
    match ← next with
    | none =>
      putBack read.reverse
      return false
    | some d =>
      if c = d then skipExactly rest (d :: read)
      else
        putBack (read.reverse ++ [d])
        return false

/-- At the start of a line, whether it is the one that ends a text.  If so, it is read. -/
def endsBelow (below : Option Awaited) : Reads Bool := do
  match below with
  | none => return false
  | some a =>
    if a.dropsTabs then skipTabs (← get).budget
    if ← skipExactly a.last [] then
      countLine
      return true
    else return false

/-- Reads a text below a line in which nothing is expanded. -/
def plainBelow (a : Awaited) : Nat → Word → Reads Word
  | 0, _ => exhausted
  | steps + 1, done => do
    match ← next with
    | none => return done.reverse
    | some '\n' =>
      countLine
      if ← endsBelow (some a) then return (Piece.octet '\n' true :: done).reverse
      else plainBelow a steps (.octet '\n' true :: done)
    | some c => plainBelow a steps (.octet c true :: done)

/-! ### Quotes -/

/-- Reads a text between single quotation marks after the first one. -/
def singleQuoted (m : Mode) : Nat → Word → Reads Word
  | 0, _ => exhausted
  | steps + 1, done => do
    match ← next with
    | none => m.refuseOpen
    | some '\'' => return done.reverse
    | some '\n' =>
      countLine
      if ← endsBelow m.below then m.refuseOpen
      else singleQuoted m steps (.octet '\n' true :: done)
    | some c => singleQuoted m steps (.octet c true :: done)

/-- Reads the text between backquotes after the first one.  Some escapes are taken away. -/
def backquoteText (isQuoted : Bool) : Nat → Octets → Reads Octets
  | 0, _ => exhausted
  | steps + 1, done => do
    match ← nextJoined with
    | none => refuse "EOF in backquote substitution"
    | some '\x60' => return done.reverse
    | some '\\' =>
      match ← next with
      | none => refuse "EOF in backquote substitution"
      | some c =>
        if c = '\\' || c = '\x60' || c = '$' || (isQuoted && c = '"') then
          backquoteText isQuoted steps (c :: done)
        else backquoteText isQuoted steps (c :: '\\' :: done)
    | some '\n' =>
      countLine
      backquoteText isQuoted steps ('\n' :: done)
    | some c => backquoteText isQuoted steps (c :: done)

/-- Reads commands between backquotes after the first one.  They are a script of their own, whose
lines count from one, and what cannot be a part of it is left out. -/
def backquoted (n : Nested) (isQuoted : Bool) : Reads (Option Command) := do
  let text ← backquoteText isQuoted (← get).budget []
  let outside ← get
  set { Source.ofText text outside.aliases outside.nextText with texts := outside.texts }
  let body ← n.unenclosed
  modify fun inside =>
    { outside with texts := inside.texts, nextText := inside.nextText, pending := none }
  return body

/-! ### Parameters -/

/-- Reads octets with a property after some that were read already, and the octet after them. -/
def takeWhile (p : Char → Bool) : Nat → Octets → Reads (Octets × Option Char)
  | 0, _ => exhausted
  | steps + 1, done => do
    match ← nextJoined with
    | none => return (done.reverse, none)
    | some c => if p c then takeWhile p steps (c :: done) else return (done.reverse, some c)

/-- How the name of a parameter between braces is used, as far as the name tells. -/
inductive Start
  | value
  | length
  | meaningless
deriving DecidableEq

/-- Reads a name that starts with an octet, if one can start with it, and the octet after it. -/
def nameFrom? (c : Option Char) : Reads (Option (Octets × Option Char)) := do
  match c with
  | none => return none
  | some c =>
    let steps := (← get).budget
    if startsName c then return some (← takeWhile isNameChar steps [c])
    else if c.isDigit then return some (← takeWhile Char.isDigit steps [c])
    else return none

/-- Reads the name of a parameter that is an octet, of which the octet after it is known. -/
def specialName (c : Char) (after : Option Char) (start : Start) :
    Reads (Start × Octets × Option Char) := do
  if isSpecial c then return (start, [c], after)
  else
    unread after
    return (.meaningless, [], none)

/-- Reads the name of a parameter after the opening brace, and the octet after it.  A sharp in front
asks for the length, unless it is the name itself. -/
def bracedName : Reads (Start × Octets × Option Char) := do
  let c ← nextJoined
  if let some (name, after) ← nameFrom? c then return (.value, name, after)
  else
    match c with
    | none => return (.meaningless, [], none)
    | some '\x7d' =>
      unread c
      return (.meaningless, [], none)
    | some '#' =>
      let first ← nextJoined
      if let some (name, after) ← nameFrom? first then return (.length, name, after)
      else
        let second ← nextJoined
        if first = some '\x7d' || second ≠ some '\x7d' then
          unread second
          return (.value, ['#'], first)
        else specialName (first.getD '\x7d') second .length
    | some c => specialName c (← nextJoined) .value

/-- Reads what is made of a value, up to the closing brace.  The octet that tells was read already,
and `isNull` tells whether there was a colon in front of it. -/
def useAfter (word : Bool → Reads Word) (c : Option Char) (isNull : Bool) : Reads Use := do
  match c with
  | some '-' => return .otherwise isNull (← word false)
  | some '+' => return .instead isNull (← word false)
  | some '?' => return .insisting isNull (← word false)
  | some '=' => return .settling isNull (← word false)
  | _ =>
    let _ ← word false
    return .meaningless

/-- Reads what is made of a value that is cut, up to the closing brace. -/
def trimAfter (word : Bool → Reads Word) (c : Char) : Reads Use := do
  let d ← nextJoined
  if d = some c then return .trim (c = '%') true (← word true)
  else
    unread d
    return .trim (c = '%') false (← word true)

/-- Reads what is made of a value, up to the closing brace.  The octet after the name of the
parameter was read already. -/
def useOf (word : Bool → Reads Word) (start : Start) (c : Option Char) : Reads Use := do
  match start, c with
  | .meaningless, _ =>
    let _ ← word false
    return .meaningless
  | .length, some '\x7d' => return .length
  | .length, c =>
    unread c
    let _ ← word false
    return .meaningless
  | .value, some '\x7d' => return .plain
  | .value, some ':' => useAfter word (← nextJoined) true
  | .value, some '%' => trimAfter word '%'
  | .value, some '#' => trimAfter word '#'
  | .value, c => useAfter word c false

/-- Reads a parameter after the opening brace. -/
def braced (nested : Mode → Reads Word) (m : Mode) : Reads Piece := do
  let (start, name, after) ← bracedName
  return .value m.isQuoted name (← useOf (fun isPattern => nested (m.braced isPattern)) start after)

/-- Reads what follows a dollar sign.  Before anything else the sign stands for itself. -/
def dollar (n : Nested) (nested : Mode → Reads Word) (m : Mode) : Reads Piece := do
  let c ← nextJoined
  let itself : Reads Piece := do
    unread c
    return .octet '$' m.isQuoted
  if m.isLast then itself
  else
    match c with
    | none => itself
    | some '(' =>
      let d ← nextJoined
      if d = some '(' then return .number m.isQuoted (← nested m.formula)
      else
        unread d
        return .output m.isQuoted (← n.enclosed)
    | some '\x7b' => braced nested m
    | some c =>
      if startsName c then
        let (name, after) ← takeWhile isNameChar (← get).budget [c]
        unread after
        return .value m.isQuoted name .plain
      else if isSpecial c then return .value m.isQuoted [c] .plain
      else itself

/-! ### Pieces -/

/-- Reads pieces up to what ends them; those that were read already are given in the reverse
order. -/
def pieces (n : Nested) : Nat → Mode → Word → Reads Word
  | 0, _, _ => exhausted
  | steps + 1, m, done => do
    match ← nextJoined with
    | none =>
      m.allowEnd
      return done.reverse
    | some c =>
      match c, m.limit with
      | '\n', .word =>
        unread (some c)
        return done.reverse
      | '\n', _ =>
        countLine
        let done := .octet '\n' m.isQuoted :: done
        if ← endsBelow m.below then
          m.allowEnd
          return done.reverse
        else pieces n steps m done
      | '\\', _ =>
        match ← next with
        | none => pieces n steps m (.octet '\\' true :: done)
        | some d => pieces n steps m ((m.escaped d).reverse ++ done)
      | '$', _ =>
        let p ← dollar n (fun m => pieces n steps m []) m
        pieces n steps m (p :: done)
      | '\x60', _ =>
        if m.isLast then pieces n steps m (.octet c true :: done)
        else
          let body ← backquoted n m.isQuoted
          pieces n steps m (.output m.isQuoted body :: done)
      | '"', .quote => return done.reverse
      | '"', .brace isInner =>
        if m.isQuoted then
          pieces n steps { m with limit := .brace !isInner } (m.marks ++ done)
        else
          let inside ← pieces n steps m.quoted []
          pieces n steps m (m.marks ++ inside.reverse ++ m.marks ++ done)
      | '"', .word =>
        let inside ← pieces n steps m.quoted []
        pieces n steps m (m.marks ++ inside.reverse ++ m.marks ++ done)
      | '\x7d', .brace false => return done.reverse
      | '(', .formula opened =>
        pieces n steps { m with limit := .formula (opened + 1) } (.octet c true :: done)
      | ')', .formula (opened + 1) =>
        pieces n steps { m with limit := .formula opened } (.octet c true :: done)
      | ')', .formula 0 =>
        let d ← nextJoined
        if d = some ')' then return done.reverse
        else
          unread d
          pieces n steps m (.octet c true :: done)
      | c, .word =>
        if endsWord c then
          unread (some c)
          return done.reverse
        else if c = '\'' then
          let text ← singleQuoted m steps []
          pieces n steps m (m.marks ++ text.reverse ++ m.marks ++ done)
        else pieces n steps m (.octet c false :: done)
      | c, _ =>
        if c = '\'' && !m.isQuoted then
          let text ← singleQuoted m steps []
          pieces n steps m (m.marks ++ text.reverse ++ m.marks ++ done)
        else pieces n steps m (.octet c m.isQuoted :: done)

/-- Reads a word, which may be empty. -/
def word (n : Nested) (isLast : Bool) : Reads Word := do
  pieces n (← get).budget (.word isLast) []

/-- Reads a text below a line. -/
def below (n : Nested) (a : Awaited) : Reads Word := do
  if ← endsBelow (some a) then return []
  else
    let steps := (← get).budget
    if a.isPlain then plainBelow a steps []
    else pieces n steps ⟨.text, true, false, some a, false⟩ []

/-- Reads the texts below the line that has been read. -/
def belowAll (n : Nested) : List Awaited → Reads Unit
  | [] => return ()
  | a :: rest => do
    let w ← below n a
    modify fun s => { s with texts := (a.number, w) :: s.texts }
    belowAll n rest

/-- Reads the texts below the line that has been read. -/
def readTexts (n : Nested) : Reads Unit := do
  let awaited := (← get).awaited
  modify fun s => { s with awaited := [] }
  belowAll n awaited

/-- A text below a line that no line ends. -/
def Awaited.endless : Awaited := ⟨0, ['\x00'], false, false⟩

/-- Reads a text up to its end as if it stood below a line. -/
def parameterText (n : Nested) : Reads Word := do
  pieces n (← get).budget ⟨.text, true, false, some .endless, false⟩ []

end CompilerFlags.Script
