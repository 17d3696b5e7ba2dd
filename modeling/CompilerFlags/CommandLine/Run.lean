import CompilerFlags.CommandLine.Arguments
import CompilerFlags.CommandLine.Probing
import CompilerFlags.CommandLine.Showing

/-!
# Running the command line

A run reads its arguments and carries out the command that they describe.  It ends with an exit
code: zero for success, one for a failure, and two if the arguments make no sense.  It keeps no log.
-/

namespace CompilerFlags.CommandLine

variable {ω : Type} (w : World ω)

/-- What a run shows about itself. -/
def versionText : String := "flagprobe 0.1.0"

/-- What is said about arguments that make no sense. -/
def usageText : String := "error: invalid arguments"

/-- The variable that names the file of flags. -/
def stateVariable : String := "FLAGPROBE_STATE"

/-- Carries out a command. -/
def perform (invocation : Invocation) (s : ω) : Ending ω :=
  match invocation.task with
  | .check request dryRun => check w invocation.options request dryRun s
  | .configure requests dryRun => configure w invocation.options requests dryRun s
  | .flags profile => flags w invocation.options profile s
  | .toolchain => toolchain w s

/-- The exit code of a run, what it writes, and what it leaves. -/
structure Exit (ω : Type) where
  code : Nat
  output : Output
  world : ω

/-- Runs the command line with arguments. -/
def run (arguments : List String) (s : ω) : Exit ω :=
  match readArguments (w.valueOf? stateVariable) arguments with
  | .error .version => ⟨0, .outLine versionText, s⟩
  | .error .usage => ⟨2, .errLine usageText, s⟩
  | .ok invocation =>
    let ending := perform w invocation s
    ⟨ending.exitCode, ending.fullOutput, ending.world⟩

end CompilerFlags.CommandLine
