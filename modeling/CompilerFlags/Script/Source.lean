import CompilerFlags.Script.Syntax

/-!
# The source of a script

A script is read octet by octet.  An alias that is found is read in the place of its name, so that
what is read lies in layers: the text of an alias lies above the rest of the text around it.  While
the text of an alias is read, and until the first octet after it was read, its name means nothing
special.  If the next alias is found before that octet, the name has to wait for the end of its
text, too.

`Reads` are the actions of readers.  They fail with a `Refusal`, which knows the line it is about.
-/

namespace CompilerFlags.Script

/-- Names that are read as other texts. -/
abbrev Aliases := List (Octets × Octets)

/-- A text that is read before all that lies below it. -/
structure Layer where
  rest : Octets
  /-- The aliases that mean nothing special before this text was read. -/
  aliases : List Octets
  /-- Whether a name after the text may be an alias, too. -/
  endsBlank : Bool

/-- A text of several lines that has to be read at the end of the line. -/
structure Awaited where
  number : Nat
  /-- The line that ends the text. -/
  last : Octets
  dropsTabs : Bool
  /-- Whether nothing in the text is expanded. -/
  isPlain : Bool

/-- What is left of a script, and what is known about it. -/
structure Source where
  /-- What comes next in front; the last layer is the script itself. -/
  layers : List Layer
  /-- The aliases whose texts came to their end at the last octet. -/
  spent : List Octets
  line : Nat
  aliases : Aliases
  /-- Whether the text of an alias has just allowed the next name to be one, too. -/
  allowsAlias : Bool
  /-- A token that was read already. -/
  pending : Option Token
  awaited : List Awaited
  /-- The texts below lines that were read, by their numbers. -/
  texts : List (Nat × Word)
  /-- The number of the next text below a line. -/
  nextText : Nat
  /-- More steps than reading takes. -/
  budget : Nat

/-- A complaint about a script that cannot be read. -/
structure Refusal where
  line : Nat
  message : String

/-- The actions of readers. -/
abbrev Reads (α : Type) := StateT Source (Except Refusal) α

namespace Source

/-- More steps than it takes to read a text with the given aliases in it. -/
def budgetFor (s : Octets) (aliases : Aliases) : Nat :=
  8 * (s.length + 16) * (aliases.foldl (fun n a => n + a.2.length) 1 + 16)

/-- The source of a text that starts on the first line. -/
def ofText (s : Octets) (aliases : Aliases) (nextText : Nat) : Source where
  layers := [⟨s, [], false⟩]
  spent := []
  line := 1
  aliases := aliases
  allowsAlias := false
  pending := none
  awaited := []
  texts := []
  nextText := nextText
  budget := budgetFor s aliases

/-- Whether an alias is being read. -/
def isInUse (s : Source) (name : Octets) : Bool :=
  s.spent.contains name || s.layers.any (·.aliases.contains name)

/-- The layers from the first one on that is not at its end, the aliases of the layers above it, and
whether one of these allows another alias. -/
def dropLayers : List Layer → List Layer × List Octets × Bool
  | [] => ([], [], false)
  | [last] => ([last], [], false)
  | l :: below =>
    if l.rest.isEmpty then
      let (layers, spent, allows) := dropLayers below
      (layers, l.aliases ++ spent, l.endsBlank || allows)
    else (l :: below, [], false)

end Source

namespace Reads

/-- Fails at the line that is being read. -/
def refuse {α : Type} (message : String) : Reads α := fun s => .error ⟨s.line, message⟩

/-- Fails because there are no steps left. -/
def exhausted {α : Type} : Reads α := refuse "Syntax error: too deep"

/-- Reads the next octet; at the end of the script there is none. -/
def next : Reads (Option Char) := fun s =>
  let (layers, spent, allows) := Source.dropLayers s.layers
  let s := { s with spent := spent, allowsAlias := s.allowsAlias || allows }
  match layers with
  | l :: below =>
    match l.rest with
    | c :: rest => .ok (some c, { s with layers := { l with rest := rest } :: below })
    | [] => .ok (none, { s with layers := layers })
  | [] => .ok (none, { s with layers := [] })

/-- Puts octets back. -/
def putBack (cs : Octets) : Reads Unit := modify fun s =>
  match s.layers with
  | l :: below => { s with layers := { l with rest := cs ++ l.rest } :: below }
  | [] => { s with layers := [⟨cs, [], false⟩] }

/-- Puts the octet back that was read last, if there was one. -/
def unread (c : Option Char) : Reads Unit := putBack c.toList

/-- Goes to the next line. -/
def countLine : Reads Unit := modify fun s => { s with line := s.line + 1 }

/-- Reads the next octet after line breaks that are escaped, in at most so many steps. -/
def nextWithin : Nat → Reads (Option Char)
  | 0 => next
  | steps + 1 => do
    let c ← next
    if c = some '\\' then
      let d ← next
      if d = some '\n' then
        countLine
        nextWithin steps
      else
        unread d
        return c
    else return c

/-- Reads the next octet after line breaks that are escaped. -/
def nextJoined : Reads (Option Char) := do nextWithin (← get).budget

/-- Shows the next octet after line breaks that are escaped.  It does not count as read. -/
def peek : Reads (Option Char) := do
  let spent := (← get).spent
  let c ← nextJoined
  unread c
  modify fun s => { s with spent := spent }
  return c

/-- Drops the rest of the line up to the line break. -/
def skipComment : Nat → Reads Unit
  | 0 => return ()
  | steps + 1 => do
    match ← next with
    | none => return ()
    | some '\n' => unread (some '\n')
    | some _ => skipComment steps

/-- Reads the text of an alias next. -/
def pushAlias (name value : Octets) : Reads Unit := modify fun s =>
  let blank := value.getLast?.any fun c => c = ' ' || c = '\t'
  if value.isEmpty then s
  else { s with layers := ⟨value, name :: s.spent, blank⟩ :: s.layers, spent := [] }

/-- The text that is read in the place of a name. -/
def alias? (name : Octets) : Reads (Option Octets) := do
  let s ← get
  return if s.isInUse name then none else s.aliases.lookup name

/-- Keeps a token to be read again. -/
def keep (t : Token) : Reads Unit := modify fun s => { s with pending := some t }

end Reads

end CompilerFlags.Script
