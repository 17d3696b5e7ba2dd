import CompilerFlags.Capability
import CompilerFlags.World

/-!
# Failures

A failure tells why something did not work and what was being done at the time.  The activities
are listed from the outermost to the innermost, and the cause comes last.
-/

namespace CompilerFlags

/-- What is being done when something fails. -/
inductive Activity
  | readFlags (path : String)
  /-- Making sense of the flags in a file. -/
  | loadFlags (path : String)
  | parseFlags
  | makeStateDirectory (path : String)
  | writeFlags (path : String)
  | readSettings (path : String)
  | parseSettings (path : String)
  | readRequests (path : String)
  | parseRequests (path : String)
  | makeScratch
  | writeSource (path : String)
  | runProgram (program : String)
  /-- Checking a request; the first one has the number one. -/
  | checkRequest (number : Nat) (capability : Capability)
deriving DecidableEq, Repr

/-- The wording of an activity in messages. -/
def Activity.message : Activity → String
  | readFlags path => "failed to read flag state: " ++ path
  | loadFlags path => "invalid flag state: " ++ path
  | parseFlags => "failed to parse flag buckets"
  | makeStateDirectory path => "failed to create state directory: " ++ path
  | writeFlags path => "failed to write flag state: " ++ path
  | readSettings path => "failed to read toolchain config: " ++ path
  | parseSettings path => "failed to parse toolchain config: " ++ path
  | readRequests path => "failed to read requests file: " ++ path
  | parseRequests path => "failed to parse requests file: " ++ path
  | makeScratch => "failed to create probe directory"
  | writeSource path => "failed to write " ++ path
  | runProgram program => "failed to run `" ++ program ++ "`"
  | checkRequest number capability =>
    "request #" ++ toString number ++ " (" ++ capability.name ++ ") failed"

/-- Why something did not work. -/
inductive Cause
  /-- A text is no TOML document of the right shape. -/
  | toml
  | os (e : OsError)
  | bucket (e : BucketError)
  | request (e : RequestError)
  /-- There is no C compiler. -/
  | noCompiler
  /-- The file of requests is missing. -/
  | noRequests (path : String)
  /-- A program that had to succeed did not. -/
  | unsuccessful (command : Command) (answer : Finished)
deriving DecidableEq, Repr

/-- An exit code as it is shown in messages. -/
def showCode : Option Nat → String
  | some code => "Some(" ++ toString code ++ ")"
  | none => "None"

/-- The wording of a cause in messages. -/
def Cause.message : Cause → String
  | toml => "TOML parse error"
  | os e => e.message
  | bucket e => e.message
  | request e => e.message
  | noCompiler =>
    "no C compiler found\n\nflagprobe requires a C compiler (gcc, clang, or cl).\n" ++
    "Set the CC environment variable, add `cc` to .flagprobe/toolchain.toml,\n" ++
    "or install a compiler."
  | noRequests path =>
    "requests file not found: " ++ path ++
    "\nhelp: list capabilities as [[request]] tables, e.g.\n\n[[request]]\n" ++
    "capability = \"warn-all\""
  | unsuccessful command answer =>
    "`" ++ command.display ++ "` failed with exit code " ++ showCode answer.code ++ "\n" ++
    answer.stderr

/-- Something did not work. -/
structure Failure where
  /-- What was being done, the outermost first. -/
  activities : List Activity
  cause : Cause
deriving DecidableEq, Repr

namespace Failure

/-- A failure without further explanation. -/
def ofCause (c : Cause) : Failure := ⟨[], c⟩

/-- The failure of an inner step as seen from what it was a part of. -/
def during (a : Activity) (f : Failure) : Failure := ⟨a :: f.activities, f.cause⟩

/-- The wording of a failure. -/
def message (f : Failure) : String :=
  Text.join ": " (f.activities.map Activity.message ++ [f.cause.message])

end Failure

end CompilerFlags
