import CompilerFlags.Console
import CompilerFlags.Path
import CompilerFlags.Setup

/-!
# Invocations

An invocation says which command a user runs, and with which options.  A command has an ending: it
succeeds or fails, it has written something, and it leaves the surroundings in a new state.
-/

namespace CompilerFlags

/-- The options that all commands have. -/
structure CommonOptions where
  quiet : Bool
  verbose : Bool
  color : ColorChoice
  json : Bool
  /-- The file of flags, if it is not that of the project. -/
  state : Option String
deriving DecidableEq, Repr

/-- A command with its own options. -/
inductive Task
  /-- Checks one request. -/
  | check (request : Request) (dryRun : Bool)
  /-- Checks the requests in a file. -/
  | configure (requests : Option String) (dryRun : Bool)
  /-- Shows the recorded flags, of one profile only if one is named. -/
  | flags (profile : Option String)
  /-- Shows the toolchain. -/
  | toolchain
deriving DecidableEq, Repr

/-- What a user runs. -/
structure Invocation where
  options : CommonOptions
  task : Task
deriving DecidableEq, Repr

/-- The console that events are shown on. -/
def CommonOptions.console {ω : Type} (o : CommonOptions) (w : World ω) : Console :=
  .ofFlags w.terminal o.quiet o.verbose o.color o.json

/-- The file of flags of the project in a directory. -/
def CommonOptions.statePath (o : CommonOptions) (root : String) : String :=
  o.state.getD (Path.stateFile root)

/-- How a command ended. -/
structure Ending (ω : Type) where
  result : Except Failure Unit
  output : Output
  world : ω

namespace Ending

variable {ω : Type}

/-- A command that failed after it had written something. -/
def failed (f : Failure) (output : Output) (s : ω) : Ending ω := ⟨.error f, output, s⟩

/-- A command that succeeded. -/
def succeeded (output : Output) (s : ω) : Ending ω := ⟨.ok (), output, s⟩

/-- The exit code of a command. -/
def exitCode (e : Ending ω) : Nat :=
  match e.result with
  | .ok () => 0
  | .error _ => 1

/-- What a command writes altogether: in the end it says why it failed. -/
def fullOutput (e : Ending ω) : Output :=
  match e.result with
  | .ok () => e.output
  | .error f => e.output ++ .errLine ("error: " ++ f.message)

end Ending

end CompilerFlags
