import CompilerFlags.Script.Builtin.Job
import CompilerFlags.Script.Options

/-!
# Commands that deal with signals
-/

namespace CompilerFlags.Script.Builtin

/-- Sends a signal to a program with a number, and tells whether there is one. -/
def send (signal target : Nat) : Run Bool := do
  let sh ← get
  if target = sh.number then
    if signal ≠ 0 then Run.receive signal
    return true
  else if sh.system.has target then
    if signal ≠ 0 then Run.changeSystem (·.send target signal)
    return true
  else return target = 0 && signal = 0

/-- Sends a signal to what an argument names, and tells the exit code.  Jobs are no groups of
programs that could get a signal. -/
def sendTo (signal : Nat) (target : Octets) : Run Nat := do
  let isSent ← match target with
    | '%' :: _ =>
      let _ ← namedJob false (some target)
      pure false
    | '-' :: number =>
      let _ ← Run.count number
      pure false
    | number => send signal (← Run.count number)
  if isSent then return 0
  else
    Run.complain "No such process\n".toList
    return 1

/-- Fails because of how a command is used. -/
def failUsage {α : Type} : Run α :=
  Run.fail (("Usage: kill [-s sigspec | -signum | -sigspec] [pid | job]... or\n" ++
    "kill -l [exitstatus]")).toList

/-- Sends a signal to what arguments name. -/
def sendAll (signal : Nat) (targets : List Octets) : Run Nat := do
  if targets.isEmpty then failUsage
  else
    let codes ← targets.mapM (sendTo signal)
    return codes.foldl max 0

/-- Tells the name of a signal, perhaps by an exit code, or the names of all signals. -/
def listSignals (arguments : List Octets) : Run Nat := do
  match arguments with
  | [] =>
    Run.writeLine ['0']
    Signal.all.forM fun n => Run.writeLine (Signal.name n).toList
  | s :: _ =>
    let n ← Run.count s
    let n := if 128 < n then n - 128 else n
    if 0 < n && n ≤ Signal.last then Run.writeLine (Signal.name n).toList
    else Run.fail ("invalid signal number or exit status: ".toList ++ s)
  return 0

/-- The signal that options name. -/
def optionSignal? : List (Char × Octets) → Run (Option Nat)
  | [] => return none
  | ('s', name) :: rest => do
    match Signal.ofText? 1 name with
    | some n => return (← optionSignal? rest).or (some n)
    | none => Run.fail ("invalid signal number or name: ".toList ++ name)
  | _ :: rest => optionSignal? rest

/-- The command `kill`: sends a signal, or tells the names of signals. -/
def killCommand (arguments : List Octets) : Run Nat := do
  match arguments with
  | [] => failUsage
  | first :: rest =>
    let named := match first with
      | '-' :: name => Signal.ofText? 1 name
      | _ => none
    match named with
    | some signal => sendAll signal rest
    | none =>
      let (options, rest) ←
        if first.head? = some '-' then Options.read [('l', false), ('s', true)] arguments
        else pure ([], arguments)
      let signal ← optionSignal? options
      if options.any (·.1 = 'l') then
        if signal.isSome then failUsage else listSignals rest
      else sendAll (signal.getD Signal.terminate) rest

/-! ### Actions for signals -/

/-- Arranges an action for a signal, or takes it away. -/
def arrange (action : Option Octets) (signal : Nat) : Run Unit := modify fun sh =>
  let others := sh.traps.filter (·.1 ≠ signal)
  { sh with traps := (action.toList.map fun s => (signal, s)) ++ others }

/-- Arranges an action for signals, up to one that there is not. -/
def arrangeAll (action : Option Octets) : List Octets → Run Nat
  | [] => return 0
  | s :: rest => do
    match Signal.ofText? 0 s with
    | none =>
      Run.writeError ("trap: ".toList ++ s ++ ": bad trap\n".toList)
      return 1
    | some n =>
      arrange action n
      arrangeAll action rest

/-- Lists the actions that are arranged. -/
def listTraps : Run Unit := do
  let traps := (← get).traps
  (Signal.atEnd :: Signal.all).forM fun n =>
    match traps.lookup n with
    | some action =>
      Run.writeLine ("trap -- ".toList ++ quoted action ++ ' ' :: (Signal.name n).toList)
    | none => return ()

/-- The command `trap`: arranges actions for signals, or lists them. -/
def trapCommand (arguments : List Octets) : Run Nat := do
  match ← Options.after arguments with
  | [] =>
    listTraps
    return 0
  | [s] => arrangeAll none [s]
  | action :: signals =>
    if !action.isEmpty && action.all Char.isDigit && (Signal.ofText? 0 action).isSome then
      arrangeAll none (action :: signals)
    else arrangeAll (if action = ['-'] then none else some action) signals

end CompilerFlags.Script.Builtin
