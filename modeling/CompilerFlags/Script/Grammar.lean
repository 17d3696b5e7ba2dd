import CompilerFlags.Script.Token

/-!
# Reading commands

A script is read row by row: the commands of a line, with the lines that belong to them, are read
before the first of them runs.  So a line that cannot be read does not keep the lines in front of it
from running, and an alias that is set on one line holds on the next.

Commands hold lists of commands, also inside their words.  The readers below count steps down, and
`nestedAt` ties the knot for the commands inside words by the depth to which they are nested.
-/

namespace CompilerFlags.Script

open Reads

/-- How far a list of commands extends. -/
inductive Extent
  /-- To the end of the line. -/
  | line
  /-- To a token that ends lists; there has to be a command. -/
  | block
  /-- To a token that ends lists. -/
  | possibly
deriving DecidableEq

/-- The names that no other command can get. -/
def reservedNames : List String :=
  [".", ":", "break", "continue", "eval", "exec", "exit", "export", "local", "readonly", "return",
    "set", "shift", "times", "trap", "unset"]

/-- The command that a list of commands is, if there are any. -/
def commandOf : List Command → Option Command
  | [] => none
  | [c] => some c
  | cs => some (.sequence cs)

/-- The commands of a list, and whether the script was at its end before any of them. -/
structure CommandList where
  commands : List Command
  isOver : Bool

namespace Grammar

/-! ### Redirections -/

/-- Reads the word that names the end of a text below the line. -/
def textBelow (n : Nested) (channel : Nat) (dropsTabs : Bool) : Reads Redirection := do
  match ← Token.readLast n with
  | .word w =>
    let s ← get
    let a : Awaited := ⟨s.nextText, Word.plainText w, dropsTabs, Word.hasQuotes w⟩
    set { s with awaited := s.awaited ++ [a], nextText := s.nextText + 1 }
    return .text channel a.number
  | t => Token.unexpected t none

/-- Where a channel goes that is sent the way of another one. -/
def copyTo (channel : Nat) (w : Word) : Redirection :=
  match Word.bare? w with
  | some ['-'] => .close channel
  | some [c] => if c.isDigit then .copy channel (Token.digit c) else .copyNamed channel w
  | _ => .copyNamed channel w

/-- Reads what follows the sign of a redirection. -/
def redirection (n : Nested) (channel : Nat) (arrow : Arrow) : Reads Redirection := do
  match arrow with
  | .text dropsTabs => textBelow n channel dropsTabs
  | .file opening =>
    match ← Token.read n .nothing with
    | .word w => return .file channel opening w
    | t => Token.unexpected t none
  | .copy =>
    match ← Token.read n .nothing with
    | .word w => return copyTo channel w
    | t => Token.unexpected t none

/-- Reads redirections after a command. -/
def redirections (n : Nested) : Nat → Lookout → List Redirection → Reads (List Redirection)
  | 0, _, _ => exhausted
  | steps + 1, look, done => do
    match ← Token.read n look with
    | .arrow channel arrow =>
      let r ← redirection n channel arrow
      redirections n steps .nothing (r :: done)
    | t =>
      keep t
      return done.reverse

/-! ### Words -/

/-- Reads words, and the token after them. -/
def words (n : Nested) : Nat → List Word → Reads (List Word × Token)
  | 0, _ => exhausted
  | steps + 1, done => do
    match ← Token.read n .nothing with
    | .word w => words n steps (w :: done)
    | t => return (done.reverse, t)

/-- The word that a token is as a pattern; there keywords are words. -/
def patternOf : Token → Word
  | .word w => w
  | .keyword name => name.toList.map (.octet · false)
  | _ => []

/-- Reads the patterns of a case after the first token, and the token after them. -/
def patterns (n : Nested) : Nat → Token → List Word → Reads (List Word × Token)
  | 0, _, _ => exhausted
  | steps + 1, t, done => do
    let done := patternOf t :: done
    match ← Token.read n .nothing with
    | .pipe => patterns n steps (← Token.read n .nothing) done
    | t => return (done.reverse, t)

/-- Reads a token that has to be a certain keyword. -/
def require (n : Nested) (look : Lookout) (name : String) : Reads Unit := do
  let t ← Token.read n look
  if t.isKeyword name then return () else Token.unexpected t (some (.keyword name))

/-- The word for all parameters of the script. -/
def allParameters : Word := [.mark, .value true ['@'] .plain, .mark]

/-- Reads the words for which a repetition is done, after its name. -/
def eachWords (n : Nested) : Reads (List Word) := do
  let t ← Token.read n .anywhere
  if t.isKeyword "in" then
    let (ws, t) ← words n (← get).budget []
    match t with
    | .lineBreak => return ws
    | .semicolon => return ws
    | t => Token.unexpected t none
  else
    match t with
    | .semicolon => return [allParameters]
    | t =>
      keep t
      return [allParameters]

/-! ### Commands -/

/-- The parts of a simple command, in the reverse order. -/
structure Parts where
  assignments : List (Octets × Word)
  words : List Word
  changes : List Redirection

/-- The simple command with some parts. -/
def Parts.command (p : Parts) (line : Nat) : Command :=
  .simple line p.assignments.reverse p.words.reverse p.changes.reverse

/-- The name that a simple command of one word gives to another command. -/
def definedName (w : Word) : Reads Octets := do
  match Word.bare? w with
  | some name =>
    if isName name && !reservedNames.contains (String.ofList name) then return name
    else refuse "Bad function name"
  | none => refuse "Bad function name"

/-- A command with redirections after it. -/
def withChanges (line : Nat) (c : Command) (changes : List Redirection) : Command :=
  match c, changes with
  | .inner line body _, changes => .inner line body changes
  | c, [] => c
  | c, changes => .redirected line c changes

/-- A command that is not waited for. -/
def inBackground (line : Nat) : Command → Command
  | .redirected line body changes => .background line (.redirected line body changes)
  | c => .background line c

mutual

/-- Reads a list of commands after those that were read already, in the reverse order.  The flag
tells whether a token that ends lists may come now. -/
def list (n : Nested) : Nat → Extent → Bool → List Command → Reads CommandList
  | 0, _, _, _ => exhausted
  | steps + 1, extent, mayEnd, done => do
    match ← Token.read n ⟨extent ≠ .line, true, true⟩ with
    | .lineBreak =>
      readTexts n
      return ⟨done.reverse, false⟩
    | .ending =>
      readTexts n
      keep .ending
      return ⟨done.reverse, done.isEmpty⟩
    | t =>
      keep t
      if mayEnd && t.endsList then return ⟨done.reverse, false⟩
      else
        let line := (← get).line
        let c ← chain n steps (← pipeline n steps .nothing)
        match ← Token.read n .nothing with
        | .ending =>
          readTexts n
          keep .ending
          return ⟨(c :: done).reverse, false⟩
        | .lineBreak =>
          keep .lineBreak
          list n steps extent (extent ≠ .line) (c :: done)
        | .semicolon => list n steps extent (extent ≠ .line) (c :: done)
        | .background => list n steps extent (extent ≠ .line) (inBackground line c :: done)
        | t =>
          if extent = .line then Token.unexpected t none
          else
            keep t
            return ⟨(c :: done).reverse, false⟩

/-- Reads the commands that depend on how earlier ones ended; they are taken from the left. -/
def chain (n : Nested) : Nat → Command → Reads Command
  | 0, _ => exhausted
  | steps + 1, first => do
    match ← Token.read n .nothing with
    | .both => chain n steps (.both first (← pipeline n steps .anywhere))
    | .either => chain n steps (.either first (← pipeline n steps .anywhere))
    | t =>
      keep t
      return first

/-- Reads a row of commands that read what their neighbours write; it may be negated. -/
def pipeline (n : Nested) : Nat → Lookout → Reads Command
  | 0, _ => exhausted
  | steps + 1, look => do
    let t ← Token.read n look
    if t.isKeyword "!" then
      let first ← command n steps .onLine
      return .negated (← pipes n steps [first])
    else
      keep t
      let first ← command n steps .nothing
      pipes n steps [first]

/-- Reads the commands that read what earlier ones write, which are given in the reverse order. -/
def pipes (n : Nested) : Nat → List Command → Reads Command
  | 0, _ => exhausted
  | steps + 1, done => do
    match ← Token.read n .nothing with
    | .pipe =>
      let c ← command n steps .anywhere
      pipes n steps (c :: done)
    | t =>
      keep t
      match done with
      | [c] => return c
      | cs => return .pipe cs.reverse

/-- Reads a list of commands that has to be there. -/
def block (n : Nested) : Nat → Reads Command
  | 0 => exhausted
  | steps + 1 => do
    let l ← list n steps .block false []
    return .sequence l.commands

/-- Reads a command. -/
def command (n : Nested) : Nat → Lookout → Reads Command
  | 0, _ => exhausted
  | steps + 1, look => do
    let line := (← get).line
    match ← Token.read n look with
    | .word w =>
      keep (.word w)
      simple n steps (← get).line true ⟨[], [], []⟩
    | .arrow channel arrow =>
      keep (.arrow channel arrow)
      simple n steps (← get).line true ⟨[], [], []⟩
    | .opening =>
      let body ← block n steps
      match ← Token.read n .nothing with
      | .closing =>
        return withChanges line (.inner line body []) (← redirections n steps .onLine [])
      | t => Token.unexpected t (some .closing)
    | .keyword name =>
      let c ← compound n steps line name
      return withChanges line c (← redirections n steps .onLine [])
    | t => Token.unexpected t none

/-- Reads a command that starts with a keyword, after it. -/
def compound (n : Nested) : Nat → Nat → String → Reads Command
  | 0, _, _ => exhausted
  | steps + 1, line, name => do
    match name with
    | "\x7b" =>
      let body ← block n steps
      require n .nothing "\x7d"
      return body
    | "if" => branches n steps
    | "while" => loop n steps true
    | "until" => loop n steps false
    | "for" =>
      match ← Token.read n .nothing with
      | .word w =>
        match Word.bare? w with
        | some name =>
          if isName name then
            let ws ← eachWords n
            require n .anywhere "do"
            let body ← block n steps
            require n .nothing "done"
            return .each line name ws body
          else refuse "Bad for loop variable"
        | none => refuse "Bad for loop variable"
      | _ => refuse "Bad for loop variable"
    | "case" =>
      match ← Token.read n .nothing with
      | .word subject =>
        require n .anywhere "in"
        return .choose line subject (← cases n steps [])
      | t => Token.unexpected t (some (.word []))
    | name => Token.unexpected (.keyword name) none

/-- Reads a repetition after its keyword. -/
def loop (n : Nested) : Nat → Bool → Reads Command
  | 0, _ => exhausted
  | steps + 1, expected => do
    let condition ← block n steps
    require n .nothing "do"
    let body ← block n steps
    require n .nothing "done"
    return .loop expected condition body

/-- Reads the branches of a condition after its keyword. -/
def branches (n : Nested) : Nat → Reads Command
  | 0 => exhausted
  | steps + 1 => do
    let condition ← block n steps
    require n .nothing "then"
    let yes ← block n steps
    let t ← Token.read n .nothing
    if t.isKeyword "elif" then return .branch condition yes (some (← branches n steps))
    else if t.isKeyword "else" then
      let no ← block n steps
      require n .nothing "fi"
      return .branch condition yes (some no)
    else
      keep t
      require n .nothing "fi"
      return .branch condition yes none

/-- Reads cases up to the closing keyword, after those that were read already. -/
def cases (n : Nested) : Nat → List (List Word × Option Command) →
    Reads (List (List Word × Option Command))
  | 0, _ => exhausted
  | steps + 1, done => do
    let look : Lookout := ⟨true, true, false⟩
    let t ← Token.read n look
    if t.isKeyword "esac" then return done.reverse
    else
      let t ← match t with
        | .opening => Token.read n .nothing
        | t => pure t
      let (ps, t) ← patterns n (← get).budget t []
      match t with
      | .closing =>
        let body ← list n steps .possibly true []
        let done := (ps, commandOf body.commands) :: done
        let t ← Token.read n look
        if t.isKeyword "esac" then return done.reverse
        else
          match t with
          | .endCase => cases n steps done
          | t => Token.unexpected t (some .endCase)
      | t => Token.unexpected t (some .closing)

/-- Reads a simple command after parts that were read already.  The flag tells whether aliases and
assignments may still come. -/
def simple (n : Nested) : Nat → Nat → Bool → Parts → Reads Command
  | 0, _, _, _ => exhausted
  | steps + 1, line, isStart, p => do
    match ← Token.read n ⟨false, false, isStart⟩ with
    | .word w =>
      match (if isStart then Word.assignment? w else none) with
      | some a => simple n steps line true { p with assignments := a :: p.assignments }
      | none => simple n steps line false { p with words := w :: p.words }
    | .arrow channel arrow =>
      let r ← redirection n channel arrow
      simple n steps line isStart { p with changes := r :: p.changes }
    | .opening =>
      match p with
      | ⟨[], [w], []⟩ =>
        match ← Token.read n .nothing with
        | .closing =>
          let name ← definedName w
          let line := (← get).line
          return .define line name (← command n steps .anywhere)
        | t => Token.unexpected t (some .closing)
      | p =>
        keep .opening
        return p.command line
    | t =>
      keep t
      return p.command line

end

/-- Gives the texts that are still awaited nothing to read. -/
def forgetAwaited : Reads Unit := modify fun s =>
  { s with texts := s.awaited.map (fun a => (a.number, [])) ++ s.texts, awaited := [] }

/-- Reads the commands inside a word with a reader of lists. -/
def inside (list : Reads CommandList) : Reads (Option Command) := do
  let outside := (← get).awaited
  modify fun s => { s with awaited := [] }
  let l ← list
  forgetAwaited
  modify fun s => { s with awaited := outside }
  return commandOf l.commands

/-- Fails because words are nested too deep. -/
def tooDeep : Nested := ⟨exhausted, exhausted⟩

/-- Readers for the commands inside words that are nested less than so deep. -/
def nestedAt : Nat → Nested
  | 0 => tooDeep
  | depth + 1 =>
    { enclosed := inside do
        let l ← list (nestedAt depth) (← get).budget .possibly true []
        match ← Token.read (nestedAt depth) .nothing with
        | .closing => return l
        | t => Token.unexpected t (some .closing)
      unenclosed := inside do
        list (nestedAt depth) (← get).budget .possibly true [] }

/-- Words hold commands less deep than this. -/
def depthLimit : Nat := 1000

/-- The readers for the commands inside words. -/
def nested : Nested := nestedAt depthLimit

end Grammar

/-- What was read of a script. -/
inductive Row
  /-- The script is at its end. -/
  | ending
  | commands (c : Option Command)

/-- Reads the commands of the next row. -/
def Source.row (s : Source) : Except Refusal (Row × Source) := do
  let s := { s with pending := none, awaited := [] }
  let (l, s) ← (Grammar.list Grammar.nested s.budget .line false []).run s
  if l.isOver then .ok (.ending, s) else .ok (.commands (commandOf l.commands), s)

end CompilerFlags.Script
