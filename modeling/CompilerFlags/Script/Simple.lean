import CompilerFlags.Script.Program

/-!
# Simple commands

A simple command has assignments, words and redirections.  Its first word tells what it stands for:
a command to which the script has given a name, one of the shell itself, or a program.  What the
first words come to decides how the other words and the assignments are expanded, so the words are
expanded one after another.
-/

namespace CompilerFlags.Script

namespace Run

/-- Commands with names of their own run less deep than this. -/
def callLimit : Nat := 1000

/-! ### What commands stand for -/

/-- What runs under the name of a command. -/
inductive Meaning
  /-- There is no name. -/
  | nothing
  | function (body : Command)
  | builtin (name : Octets)
  | program

/-- A simple command whose words are being expanded. -/
structure Invocation where
  /-- The words so far. -/
  words : List Octets
  /-- How many words in front only tell what the next one stands for. -/
  skipped : Nat
  /-- The words that are not expanded. -/
  left : List Word
  meaning : Meaning
  /-- Whether the first name is that of a special command, if it is one of the shell itself. -/
  special : Option Bool
  /-- Where programs are looked for, if not in the search path of the script. -/
  otherPath : Option Octets

namespace Invocation

/-- The name of the command and its arguments. -/
def command (i : Invocation) : List Octets := i.words.drop i.skipped

/-- Whether assignments in front hold only for the command. -/
def isLocal (i : Invocation) : Bool :=
  match i.meaning, i.special with
  | .nothing, _ => false
  | _, special => special ≠ some true

/-- Whether the command is one of the shell itself with a certain name. -/
def isBuiltin (i : Invocation) (name : String) : Bool :=
  match i.meaning with
  | .builtin found => found = name.toList
  | _ => false

end Invocation

/-- Expands words up to the first one that stands for anything. -/
def firstWords : List Word → Run (List Octets × List Word)
  | [] => return ([], [])
  | w :: rest => do
    match ← Expansion.arguments w with
    | [] => firstWords rest
    | found => return (found, rest)

/-- Goes to the next word of a command, which is expanded if need be. -/
def advance (i : Invocation) : Run (Option Invocation) := do
  if i.skipped + 1 < i.words.length then return some { i with skipped := i.skipped + 1 }
  else
    let (found, left) ← firstWords i.left
    if found.isEmpty then return none
    else
      return some { i with words := i.words ++ found, skipped := i.skipped + 1, left := left }

/-- Goes over the options of the command `command`, of which there are fewer than a number.  There
is no answer if it is not about another command. -/
def skipOptions : Nat → Invocation → Run (Option Invocation × Invocation)
  | 0, i => return (none, i)
  | steps + 1, i => do
    match ← advance i with
    | none => return (none, { i with left := [] })
    | some next =>
      let expanded := { i with words := next.words, left := next.left }
      match next.command.headD [] with
      | ['-', '-'] =>
        match ← advance next with
        | none => return (none, { expanded with left := [] })
        | some last => return (some last, { expanded with words := last.words, left := last.left })
      | '-' :: c :: letters =>
        if (c :: letters).all (· = 'p') then
          let path := some Builtin.usualPath
          let (found, i) ← skipOptions steps { next with otherPath := path }
          return (found, { i with skipped := expanded.skipped })
        else return (none, expanded)
      | _ => return (some next, expanded)

/-- Finds out what the name of a command stands for.  The flag tells whether commands of the script
count. -/
def resolve : Nat → Bool → Invocation → Run Invocation
  | 0, _, i => return i
  | steps + 1, hasFunctions, i => do
    let name := i.command.headD []
    let functions := (← get).functions
    match if hasFunctions then functions.lookup name else none, Builtin.kind? name with
    | some body, _ => return { i with meaning := .function body }
    | none, none => return { i with meaning := .program }
    | none, some isSpecial =>
      let special := i.special.or (some isSpecial)
      let found := { i with meaning := .builtin name, special := special }
      if name = "command".toList then
        match ← skipOptions (i.words.length + i.left.length + 1) found with
        | (some next, _) => resolve steps false next
        | (none, found) => return found
      else return found

/-- Expands the words of a simple command. -/
def invocation (words : List Word) : Run Invocation := do
  let (first, left) ← firstWords words
  let i : Invocation := ⟨first, 0, left, .nothing, none, none⟩
  if first.isEmpty then return i
  else
    let i ← resolve (words.length + first.length + 1) true i
    let takesAssignments := match i.meaning with
      | .builtin name => Builtin.takesAssignments name
      | _ => false
    let expandOne :=
      if takesAssignments then Expansion.assignmentArguments
      else Expansion.arguments
    let others ← i.left.mapM expandOne
    return { i with words := i.words ++ others.flatten, left := [] }

/-! ### Simple commands -/

/-- Runs a command to which the script has given a name. -/
def callFunction (runner : Runner) (isTested : Bool) (body : Command) (arguments : List Octets) :
    Run Unit := do
  let before ← get
  if callLimit ≤ before.calls then
    fail ("Maximum function recursion depth (" ++ toString callLimit ++ ") reached").toList
  set { before with
    parameters := arguments, nextOption := (1, none), calls := before.calls + 1, loops := 0 }
  let result ← attempt (runner ⟨isTested, false⟩ body)
  modify fun sh =>
    { sh with
      parameters := before.parameters, nextOption := before.nextOption
      calls := before.calls, loops := before.loops
      skip := match sh.skip with
        | .returning _ => .none
        | skip => skip }
  match result with
  | .ok () => return ()
  | .error stop => throw stop

/-- Runs a command of the shell itself. -/
def callBuiltin (runner : Runner) (isTested : Bool) (name : Octets) (arguments : List Octets) :
    Run Unit := do
  let before := (← get).running
  modify fun sh => { sh with running := some name }
  let action : Run Nat :=
    if name = "exec".toList then execCommand arguments
    else
      match Builtin.action? name with
      | some action => action runner isTested arguments
      | none => return 127
  match ← attempt action with
  | .ok status =>
    let isWritten ← flush
    if !isWritten then complain (name ++ ": I/O error".toList)
    modify fun sh =>
      { sh with running := before, status := if isWritten then status else status ||| 1 }
  | .error stop =>
    modify fun sh => { sh with running := before, unwritten := [] }
    throw stop

/-- Expands a text that the shell shows.  Failures are told, but they do not count. -/
def expandShown (text : Octets) : Run Octets := do
  let before ← get
  let source := Source.ofText text before.aliases before.nextText
  let action : Run Octets :=
    match (parameterText Grammar.nested).run source with
    | .error refusal => failReading refusal.line refusal.message
    | .ok (w, _) => Expansion.below w
  match ← attempt action with
  | .ok s => return s
  | .error .failed =>
    modify fun sh => { sh with line := before.line, status := before.status }
    return text
  | .error stop => throw stop

/-- The text that stands in front of commands that are shown. -/
def shownPrefix : Run Octets := do
  let text := (← value? "PS4".toList).getD []
  turn .showsCommands false
  let shown ← expandShown text
  turn .showsCommands true
  return shown

/-- Shows a command before it runs, if that is asked for. -/
def showCommand (handle : Option Nat) (words : List Octets) : Run Unit := do
  if ← has .showsCommands then
    let front ← shownPrefix
    match handle with
    | some h =>
      let _ ← writeToHandle h (front ++ List.intercalate [' '] words ++ ['\n'])
    | none => return ()

/-- Gives variables values in front of a command, and tells how this is shown. -/
def assignAll (isLocal isExported : Bool) :
    List (Octets × Word) → Run (List Octets)
  | [] => return []
  | (name, w) :: rest => do
    let value ← Expansion.assigned w
    let text := name ++ '=' :: value
    if isLocal then makeLocal text true
    else assign name ⟨some value, isExported, false, false⟩
    return text :: (← assignAll isLocal isExported rest)

/-- Runs what a name stands for with its arguments. -/
def invoke (runner : Runner) (m : Manner) (i : Invocation) : Run Unit := do
  match i.meaning, i.command with
  | .function body, _ :: arguments => callFunction runner m.isTested body arguments
  | .builtin name, _ :: arguments => callBuiltin runner m.isTested name arguments
  | .program, name :: arguments =>
    let index ← if name.contains '/' then pure (some 0) else Builtin.findProgram name i.otherPath
    match index with
    | none => setStatus 127
    | some index =>
      let path ← match i.otherPath with
        | some path => pure path
        | none => searchPath
      setStatus (← runProgram m.isLast path index name arguments)
  | _, _ => setStatus (← get).outputStatus

/-- Runs a simple command whose channels have been changed. -/
def runInvocation (runner : Runner) (m : Manner) (handle : Option Nat)
    (assignments : List (Octets × Word)) (i : Invocation) : Run Unit := do
  let isReplacement := i.isBuiltin "exec" && 1 < i.command.length
  let shown ← assignAll i.isLocal isReplacement assignments
  showCommand handle (shown ++ i.words)
  let isBuiltin := match i.meaning with
    | .builtin _ => true
    | _ => false
  match ← attempt (invoke runner m i) with
  | .ok () => return ()
  | .error .failed => if isBuiltin && i.special ≠ some true then return () else throw .failed
  | .error stop => throw stop

/-- Runs a simple command. -/
def simple (runner : Runner) (m : Manner) (assignments : List (Octets × Word))
    (words : List Word) (changes : List Redirection) : Run Unit := do
  modify fun sh => { sh with outputStatus := 0 }
  let before ← get
  let i ← invocation words
  let handle ← handleOf? 2
  let prepared ← changes.mapM Redirection.prepare
  if i.isLocal then startSaving
  if !changes.isEmpty then startReplacing
  if ← Redirection.applyAll prepared then
    runInvocation runner m handle assignments i
  else if i.special = some true then throw .failed
  if !changes.isEmpty then endReplacing (i.isBuiltin "exec")
  endReplacingTo before.replaced.length
  giveBackTo before.saved.length
  modify fun sh => { sh with lineRead := before.lineRead }
  learnAll none

end Run

end CompilerFlags.Script
