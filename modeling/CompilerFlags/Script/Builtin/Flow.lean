import CompilerFlags.Script.Builtin.Names
import CompilerFlags.Script.Redirect

/-!
# Commands that change what runs next
-/

namespace CompilerFlags.Script.Builtin

/-- Leaves repetitions, or goes on with the next turn of one. -/
def skipCommand (skip : Nat → Skip) (arguments : List Octets) : Run Nat := do
  let n ← match arguments with
    | [] => pure 1
    | s :: _ =>
      let n ← Run.count s
      if n = 0 then Run.failNumber s else pure n
  let n := min n (← get).loops
  if 0 < n then modify fun sh => { sh with skip := skip n }
  return 0

/-- The command `return`: leaves a command with a name of its own, or a file. -/
def returnCommand (arguments : List Octets) : Run Nat := do
  match arguments with
  | [] =>
    modify fun sh => { sh with skip := .returning false }
    return (← get).status
  | s :: _ =>
    let n ← Run.count s
    modify fun sh => { sh with skip := .returning true }
    return n

/-- The command `exit`: ends the script. -/
def exitCommand (arguments : List Octets) : Run Nat := do
  match arguments with
  | [] => throw .exited
  | s :: _ =>
    let n ← Run.count s
    modify fun sh => { sh with statusBefore := some n }
    throw .exited

/-- The command `eval`: its arguments are run as a text. -/
def evalCommand (runner : Runner) (isTested : Bool) (arguments : List Octets) : Run Nat :=
  match arguments with
  | [] => return 0
  | arguments => Run.text runner ⟨isTested, false⟩ (List.intercalate [' '] arguments)

/-- The path of the file that the command `.` runs. -/
def filePath (name : Octets) : Run Octets := do
  if name.contains '/' then return name
  else
    let sh ← get
    let isFile (path : Octets) : Bool :=
      match sh.find path with
      | .ok (_, .file _ _) => true
      | _ => false
    match (programPaths (← Run.searchPath) name).find? isFile with
    | some path => return path
    | none => Run.fail (name ++ ": not found".toList)

/-- The command `.`: a file is run as a part of the script. -/
def dotCommand (runner : Runner) (arguments : List Octets) : Run Nat := do
  match ← Options.after arguments with
  | [] => return 0
  | name :: _ =>
    let path ← filePath name
    let content ← Redirection.contentOf path
    modify fun sh => { sh with running := some path }
    let status ← Run.file runner content
    modify fun sh =>
      match sh.skip with
      | .returning _ => { sh with skip := .none }
      | _ => sh
    return status

/-- The command `times`. -/
def timesCommand (_ : List Octets) : Run Nat := do
  let line := "0m0.000000s 0m0.000000s".toList
  Run.writeLine line
  Run.writeLine line
  return 0

/-- What programs may use up, each with a letter, a name and the usual limit; none is no limit. -/
def limits : List (Char × String × Option Nat) :=
  [('t', "time(seconds)", none), ('f', "file(blocks)", none), ('d', "data(kbytes)", none),
    ('s', "stack(kbytes)", some 8192), ('c', "coredump(blocks)", some 0),
    ('m', "memory(kbytes)", none), ('l', "locked memory(kbytes)", some 8192),
    ('p', "process", none), ('n', "nofiles", some 20000), ('v', "vmemory(kbytes)", none),
    ('w', "locks", none), ('r', "rtprio", some 0)]

/-- How a limit is shown. -/
def limitText : Option Nat → String
  | none => "unlimited"
  | some n => toString n

/-- Fills a text with blanks up to the values in the list of limits. -/
def filledName (name : String) : String :=
  name ++ String.ofList (List.replicate (20 - name.length) ' ') ++ " "

/-- The command `ulimit`: shows limits.  Other limits are accepted but not kept. -/
def ulimitCommand (arguments : List Octets) : Run Nat := do
  let known := ['H', 'S', 'a'] ++ limits.map (·.1)
  let (options, values) ← Options.read (known.map fun c => (c, false)) arguments
  let asked := (options.map (·.1)).filter fun c => c ≠ 'H' && c ≠ 'S'
  let letter := (asked.filter (· ≠ 'a')).getLast?.getD 'f'
  match values with
  | _ :: _ :: _ => Run.fail "too many arguments".toList
  | [value] =>
    if asked.contains 'a' then Run.fail "too many arguments".toList
    else if value = "unlimited".toList || value.all Char.isDigit then return 0
    else Run.fail "bad number".toList
  | [] =>
    if asked.contains 'a' then
      limits.forM fun l => Run.writeLine (filledName l.2.1 ++ limitText l.2.2).toList
    else Run.writeLine (limitText ((limits.lookup letter).bind (·.2))).toList
    return 0

end CompilerFlags.Script.Builtin
