import CompilerFlags.Script.Builtin.Directory
import CompilerFlags.Script.Builtin.Flow
import CompilerFlags.Script.Builtin.Job
import CompilerFlags.Script.Builtin.Signals
import CompilerFlags.Script.Builtin.Text
import CompilerFlags.Script.Builtin.Variables

/-!
# The commands of the shell itself

Each of these commands is a function of its arguments that tells an exit code.  Some of them run
other commands, by means of a runner.

If a special command cannot go on, this is the end of the script, and what is assigned in front of
it stays assigned.
-/

namespace CompilerFlags.Script

namespace Builtin

/-- What a command of the shell itself does, apart from those that replace what runs. -/
abbrev Action := Runner → Bool → List Octets → Run Nat

/-- An action that runs no other commands. -/
def simple (action : List Octets → Run Nat) : Action := fun _ _ => action

/-- The commands that are not special, and that do not tell what names stand for. -/
def plainActions : List (String × Action) :=
  [("[", simple bracketCommand), ("alias", simple aliasCommand), ("bg", simple jobCommand),
    ("cd", simple cdCommand), ("chdir", simple cdCommand), ("echo", simple echoCommand),
    ("false", simple (ending 1)), ("fg", simple jobCommand), ("getopts", simple getoptsCommand),
    ("jobs", simple jobsCommand), ("kill", simple killCommand), ("printf", simple printfCommand),
    ("pwd", simple pwdCommand), ("read", simple readCommand), ("test", simple testCommand),
    ("true", simple (ending 0)), ("ulimit", simple ulimitCommand), ("umask", simple umaskCommand),
    ("unalias", simple unaliasCommand), ("wait", simple waitCommand)]

/-- The names of the commands that tell what names stand for. -/
def describingNames : List String := ["command", "hash", "type"]

/-- Whether a name is that of a command of the shell itself, and of a special one. -/
def kind? (name : Octets) : Option Bool :=
  let text := String.ofList name
  if reservedNames.contains text then some true
  else if describingNames.contains text || (plainActions.lookup text).isSome then some false
  else none

/-- The special commands, of which `exec` is dealt with where programs are run. -/
def specialActions : List (String × Action) :=
  [(".", fun runner _ => dotCommand runner), (":", simple (ending 0)),
    ("break", simple (skipCommand .breaking)), ("continue", simple (skipCommand .continuing)),
    ("eval", evalCommand), ("exit", simple exitCommand), ("export", simple exportCommand),
    ("local", simple localCommand), ("readonly", simple readonlyCommand),
    ("return", simple returnCommand), ("set", simple setCommand), ("shift", simple shiftCommand),
    ("times", simple timesCommand), ("trap", simple trapCommand), ("unset", simple unsetCommand)]

/-- The action of a command of the shell itself. -/
def action? (name : Octets) : Option Action :=
  match String.ofList name with
  | "command" => some (simple (commandCommand kind?))
  | "hash" => some (simple (hashCommand fun name => (kind? name).isSome))
  | "type" => some (simple (typeCommand kind?))
  | text => (specialActions.lookup text).or (plainActions.lookup text)

/-- Whether arguments of a command that look like assignments are expanded like these. -/
def takesAssignments (name : Octets) : Bool :=
  String.ofList name ∈ ["alias", "export", "local", "readonly"]

end Builtin

end CompilerFlags.Script
