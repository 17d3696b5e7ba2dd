import CompilerFlags.Script.Builtin

/-!
# Scripts as programs

A program is a call of the shell: with a script and its arguments, with a text to be run, or with
neither, when what can be read is run.  It shares files and channels with the program that has
called it and gets its variables, as far as these are visible to other programs.

A command that is a program runs on its own while the script waits for it.  It takes the place of
the script if the script asks for this, or if nothing is left for the script to do.
-/

namespace CompilerFlags.Script

/-- What a program finds when it starts. -/
structure Outset where
  files : Files
  number : Nat
  /-- The number of the program that has started it. -/
  parent : Nat
  place : Place
  mask : Nat
  channels : List (Nat × Nat)
  /-- The signals that are ignored. -/
  ignored : List Nat
  environment : List (Octets × Octets)

namespace Outset

/-- The path of the directory: the one that the environment tells, if it is right. -/
def directory (s : Outset) : Octets :=
  match s.environment.lookup "PWD".toList with
  | some path =>
    let leads := match s.files.resolve [] path with
      | .ok p => p = s.place
      | .error _ => false
    if path.head? = some '/' && leads then path else s.place.path
  | none => s.place.path

/-- The variables, of which the first one with a name counts. -/
def bindings (s : Outset) : List (Octets × Variable) :=
  let given := s.environment.filterMap fun (name, value) =>
    if isName name then some (name, Variable.exported (some value)) else none
  let all : List (Octets × Variable) :=
    [("PWD".toList, .exported (some s.directory)), ("IFS".toList, .kept " \t\n"),
      ("PPID".toList, .plain (some (numberText s.parent)))] ++ given ++
    [("OPTIND".toList, .kept "1"), ("PS1".toList, .kept "# "), ("PS2".toList, .kept "> "),
      ("PS4".toList, .kept "+ "), ("PATH".toList, ⟨some Builtin.usualPath, false, false, true⟩)]
  all.eraseDupsBy fun a b => a.1 == b.1

/-- What a program keeps for itself when it starts. -/
def memory (s : Outset) (name : Octets) : Memory Unit where
  system := ()
  number := s.number
  scriptNumber := s.number
  isInner := false
  name := name
  place := s.place
  directory := s.directory
  mask := s.mask
  channels := s.channels
  replaced := []
  kept := []
  bindings := s.bindings
  saved := []
  functions := []
  aliases := []
  found := []
  settings := []
  parameters := []
  nextOption := (1, none)
  traps := []
  ignored := s.ignored
  caught := []
  status := 0
  outputStatus := 0
  statusBefore := none
  line := 0
  lineRead := 0
  running := none
  calls := 0
  loops := 0
  skip := .none
  jobs := .none
  lastJob := none
  texts := []
  nextText := 0
  unwritten := []
  commandsLeft := Memory.turnLength

/-- A call of the shell as a program that is to start. -/
def newcomer (s : Outset) (c : ShellCall) : Newcomer := ⟨s.memory c.name, .call c.arguments⟩

end Outset

namespace Run

/-! ### The shell as a program -/

/-- Sets the name of the script and its parameters. -/
def setCall (arguments : List Octets) : Run Unit := do
  match arguments with
  | [] => return ()
  | name :: parameters =>
    modify fun sh => { sh with name := name }
    setParameters parameters

/-- Runs what the arguments of the shell say. -/
def call (runner : Runner) (arguments : List Octets) : Run Unit := do
  let asked ← Setting.turnAll true arguments
  if ← has .isInteractive then turn .controlsJobs true
  let readsInput ← has .readsInput
  match asked.isText, asked.rest with
  | true, [] => fail "-c requires an argument".toList
  | true, s :: rest =>
    setCall rest
    Setting.settle
    let _ ← text runner ⟨false, true⟩ s
  | false, rest =>
    match readsInput, rest with
    | false, path :: rest =>
      let content ← Redirection.contentOf path
      setCall (path :: rest)
      Setting.settle
      let _ ← file runner content
    | _, rest =>
      setParameters rest
      turn .readsInput true
      Setting.settle
      let _ ← read runner ⟨.plain, true, ← handleOf? 0⟩ []

/-- Does what a program has to do. -/
def perform (runner : Runner) : Body → Run Unit
  | .part changes isTested c => do
    changes.forM Redirection.apply
    runner ⟨isTested, true⟩ c
  | .call arguments => call runner arguments
  | .writer s => do
    let _ ← writeTo 1 s

/-- Runs a program from its start to its end, and tells how it has ended, unless another program has
taken its place. -/
def life (runner : Runner) (body : Body) : Run (Option Ending) := do
  let result ← attempt do
    noticeSignals
    finish runner (← attempt (perform runner body))
  return match result with
  | .ok code => some (.exited code)
  | .error (.killed signal) => some (.killed signal)
  | .error .replaced => none
  | .error _ => some (.exited 2)

/-! ### Running other programs -/

/-- What a program finds that the script starts, with a number and the number of its parent. -/
def outset (number parent : Nat) : Run Outset := do
  let sh ← get
  return {
    files := sh.system.files
    number := number
    parent := parent
    place := sh.place
    mask := sh.mask
    channels := sh.channels
    ignored := sh.ignored ++ (sh.traps.filter (·.2.isEmpty)).map (·.1)
    environment := ← environment }

/-- The call of the shell for the program at a path.  A file that names no interpreter is taken as a
script. -/
def callAt (sh : Shell) (environment : List (Octets × Octets)) (path : Octets)
    (arguments : List Octets) : Except OsError ShellCall :=
  match sh.system.files.callAt sh.place environment path arguments with
  | .error .notExecutable => .ok ⟨shellPath.toList, path :: arguments⟩
  | answer => answer

/-- The call of the shell for the first of some paths that can be run. -/
def firstCall (sh : Shell) (environment : List (Octets × Octets)) (arguments : List Octets)
    (reason : OsError) : List Octets → Except OsError ShellCall
  | [] => .error reason
  | path :: rest =>
    match callAt sh environment path arguments with
    | .ok c => .ok c
    | .error .missing => firstCall sh environment arguments reason rest
    | .error .notDirectory => firstCall sh environment arguments reason rest
    | .error e => firstCall sh environment arguments e rest

/-- The call of the shell for a command, which is looked for in a search path from one of the
directories on. -/
def callOf (searchPath : Octets) (index : Nat) (name : Octets) (arguments : List Octets) :
    Run (Except OsError ShellCall) := do
  let sh ← get
  let environment ← environment
  if name.contains '/' then return callAt sh environment name arguments
  else
    let paths := (Builtin.programPaths searchPath name).drop index
    return firstCall sh environment arguments .missing paths

/-- The exit code for a program that cannot be run. -/
def refusedStatus : OsError → Nat
  | .missing => 127
  | .notDirectory => 127
  | .nameTooLong => 127
  | _ => 126

/-- Complains about a program that cannot be run, and tells the exit code. -/
def complainOfProgram (name : Octets) (e : OsError) : Run Nat := do
  complain (name ++ ": ".toList ++ Builtin.programReason e)
  return refusedStatus e

/-- Runs a program in the place of the script. -/
def become {α : Type} (c : ShellCall) : Run α := do
  let sh ← get
  let parent := ((sh.system.living.find? (·.number = sh.number)).map (·.parent)).getD System.foster
  let next ← outset sh.number parent
  changeSystem (·.replace (next.newcomer c))
  throw .replaced

/-- Runs another program and waits for it, or goes over to it if nothing else is left to do. -/
def runProgram (isLast : Bool) (searchPath : Octets) (index : Nat) (name : Octets)
    (arguments : List Octets) : Run Nat := do
  match ← callOf searchPath index name arguments with
  | .error e => complainOfProgram name e
  | .ok c =>
    let sh ← get
    if isLast && !sh.hasTraps then become c
    else
      let job ← newJob
      let next ← outset (← newNumber) sh.number
      start (some job) (next.newcomer c)
      awaitJob job

/-- The command `exec`: runs another program in the place of the script. -/
def execCommand (arguments : List Octets) : Run Nat := do
  match arguments with
  | [] => return 0
  | name :: arguments =>
    match ← callOf (← searchPath) 0 name arguments with
    | .error e =>
      setStatus (← complainOfProgram name e)
      throw .ended
    | .ok c => become c

end Run

end CompilerFlags.Script
