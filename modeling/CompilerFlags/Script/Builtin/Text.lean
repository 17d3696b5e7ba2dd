import CompilerFlags.Script.Format
import CompilerFlags.Script.Options
import CompilerFlags.Script.Test

/-!
# Commands that write and test texts

A command of the shell itself takes arguments and tells its exit code.
-/

namespace CompilerFlags.Script.Builtin

/-- A command that always ends in the same way. -/
def ending (status : Nat) (_ : List Octets) : Run Nat := return status

/-- The command `echo`. -/
def echoCommand (arguments : List Octets) : Run Nat := do
  Run.write (echo arguments)
  return 0

/-- The command `printf`. -/
def printfCommand (arguments : List Octets) : Run Nat := do
  match ← Options.after arguments with
  | [] => Run.fail "usage: printf format [arg ...]".toList
  | format :: arguments =>
    let printed := printf format arguments
    printed.complaints.forM Run.complain
    Run.write printed.text
    if printed.status = 2 then
      let _ ← Run.flush
      Run.setStatus 2
      throw .failed
    else return printed.status

/-- The command `test`. -/
def testCommand (arguments : List Octets) : Run Nat := do
  match Test.run (← get) arguments with
  | .ok answer => return if answer then 0 else 1
  | .error complaint => Run.fail complaint

/-- The command `[`, whose last argument closes it; only its first octet counts. -/
def bracketCommand (arguments : List Octets) : Run Nat := do
  if (arguments.getLast?.bind List.head?) = some ']' then testCommand arguments.dropLast
  else Run.fail "missing ]".toList

end CompilerFlags.Script.Builtin
