import CompilerFlags.Script.Word

/-!
# Tokens

A script is a row of tokens: operators, line breaks, signs of redirections and words.  Whether a
word is a keyword or an alias depends on where it stands, so the reader of tokens is told what to
look for.  The texts below a line are read together with its line break.
-/

namespace CompilerFlags.Script

/-- What a reader of tokens looks for. -/
structure Lookout where
  /-- Whether line breaks are passed over. -/
  skipsLines : Bool
  hasKeywords : Bool
  hasAliases : Bool

namespace Lookout

/-- Nothing is looked for. -/
def nothing : Lookout := ⟨false, false, false⟩

/-- Where a command may start on a later line. -/
def anywhere : Lookout := ⟨true, true, true⟩

/-- Where a command may start on the same line. -/
def onLine : Lookout := ⟨false, true, true⟩

end Lookout

namespace Token

open Reads

/-- The value of a digit. -/
def digit (c : Char) : Nat := c.toNat - 48

/-- Reads what follows the sign `>`. -/
def outward : Reads Arrow := do
  match ← nextJoined with
  | some '>' => return .file .append
  | some '|' => return .file .replace
  | some '&' => return .copy
  | c =>
    unread c
    return .file .write

/-- Reads what follows the sign `<`. -/
def inward : Reads Arrow := do
  match ← nextJoined with
  | some '<' =>
    let c ← nextJoined
    if c = some '-' then return .text true
    else
      unread c
      return .text false
  | some '&' => return .copy
  | some '>' => return .file .both
  | c =>
    unread c
    return .file .read

/-- Reads the sign of a redirection after the number of its channel, if there is one. -/
def redirection (channel : Option Nat) : Reads Token := do
  if (← nextJoined) = some '>' then return .arrow (channel.getD 1) (← outward)
  else return .arrow (channel.getD 0) (← inward)

/-- The number of a channel that a word is. -/
def channelOf? (w : Word) : Option (Option Nat) :=
  match w with
  | [] => some none
  | [.octet c false] => if c.isDigit then some (some (digit c)) else none
  | _ => none

/-- Reads a word, or a redirection that starts with a number. -/
def wordOrArrow (n : Nested) (isLast : Bool) : Reads Token := do
  let w ← Script.word n isLast
  let c ← peek
  if c = some '<' || c = some '>' then
    match channelOf? w with
    | some channel => redirection channel
    | none => return .word w
  else return .word w

/-- Reads an operator of one sign or of two equal ones. -/
def doubled (c : Char) (single double : Token) : Reads Token := do
  let d ← nextJoined
  if d = some c then return double
  else
    unread d
    return single

/-- Reads a token after blanks and comments. -/
def raw (n : Nested) (isLast : Bool) : Nat → Reads Token
  | 0 => exhausted
  | steps + 1 => do
    let c ← nextJoined
    match c with
    | none => return .ending
    | some ' ' => raw n isLast steps
    | some '\t' => raw n isLast steps
    | some '#' =>
      skipComment (← get).budget
      raw n isLast steps
    | some '\n' =>
      countLine
      return .lineBreak
    | some '&' => doubled '&' .background .both
    | some '|' => doubled '|' .pipe .either
    | some ';' => doubled ';' .semicolon .endCase
    | some '(' => return .opening
    | some ')' => return .closing
    | some c =>
      unread (some c)
      wordOrArrow n isLast

/-- Reads a token, or takes the one that was kept. -/
def take (n : Nested) (isLast : Bool) : Reads Token := do
  let s ← get
  match s.pending with
  | some t =>
    set { s with pending := none }
    return t
  | none => raw n isLast s.budget

/-- Reads a token that is no line break. -/
def takeBeyond (n : Nested) (isLast : Bool) : Nat → Reads Token
  | 0 => exhausted
  | steps + 1 => do
    match ← take n isLast with
    | .lineBreak =>
      readTexts n
      takeBeyond n isLast steps
    | t => return t

/-- Reads a token.  The text of an alias is read in its place. -/
def readWithin (n : Nested) (isLast : Bool) : Nat → Lookout → Reads Token
  | 0, _ => exhausted
  | steps + 1, look => do
    let t ← if look.skipsLines then takeBeyond n isLast (← get).budget else take n isLast
    let look := { look with hasAliases := look.hasAliases || (← get).allowsAlias }
    modify fun s => { s with allowsAlias := false }
    match t with
    | .word w =>
      match Word.bare? w with
      | none => return t
      | some name =>
        let text := String.ofList name
        if look.hasKeywords && keywords.contains text then return .keyword text
        else if look.hasAliases then
          match ← alias? name with
          | some value =>
            pushAlias name value
            readWithin n isLast steps look
          | none => return t
        else return t
    | t => return t

/-- Reads a token. -/
def read (n : Nested) (look : Lookout) : Reads Token := do
  modify fun s => { s with allowsAlias := false }
  readWithin n false (← get).budget look

/-- Reads the word that names the end of a text below the line. -/
def readLast (n : Nested) : Reads Token := do
  readWithin n true (← get).budget .nothing

/-- Fails because a token must not stand where it does. -/
def unexpected {α : Type} (t : Token) (wanted : Option Token) : Reads α :=
  match wanted with
  | some w => refuse (t.text ++ " unexpected (expecting " ++ w.text ++ ")")
  | none => refuse (t.text ++ " unexpected")

end Token

end CompilerFlags.Script
