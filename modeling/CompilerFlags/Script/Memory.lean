import CompilerFlags.Host.Executable
import CompilerFlags.Script.Jobs
import CompilerFlags.Script.Source

/-!
# What a running script keeps for itself

A running script has variables, parameters, a directory, channels and much more.  A part of the
script that runs on its own starts with a copy of all this, and what it changes there is forgotten.
So `Memory` is plain data: a program that is to start is a `Newcomer`, which has a memory and
something to do.

A memory has a place for the system that programs share.  While a program runs the system is there,
and otherwise nothing is.
-/

namespace CompilerFlags.Script

/-- What a script may ask the shell to do differently. -/
inductive Setting
  | endsOnFailure
  | keepsPatterns
  | ignoresEnd
  | isInteractive
  | controlsJobs
  | runsNothing
  | readsInput
  | showsCommands
  | showsLines
  | editsLikeVi
  | editsLikeEmacs
  | sparesFiles
  | exportsAll
  | tellsJobs
  | needsValues
  | isPrivileged
  | keepsNoLog
  | showsMore
deriving DecidableEq, Repr

/-- The settings with their names and letters. -/
def settings : List (Setting × String × Option Char) :=
  [(.endsOnFailure, "errexit", some 'e'), (.keepsPatterns, "noglob", some 'f'),
    (.ignoresEnd, "ignoreeof", some 'I'), (.isInteractive, "interactive", some 'i'),
    (.controlsJobs, "monitor", some 'm'), (.runsNothing, "noexec", some 'n'),
    (.readsInput, "stdin", some 's'), (.showsCommands, "xtrace", some 'x'),
    (.showsLines, "verbose", some 'v'), (.editsLikeVi, "vi", some 'V'),
    (.editsLikeEmacs, "emacs", some 'E'), (.sparesFiles, "noclobber", some 'C'),
    (.exportsAll, "allexport", some 'a'), (.tellsJobs, "notify", some 'b'),
    (.needsValues, "nounset", some 'u'), (.isPrivileged, "privileged", some 'p'),
    (.keepsNoLog, "nolog", none), (.showsMore, "debug", none)]

/-- A variable. -/
structure Variable where
  value : Option Octets
  /-- Whether other programs see it. -/
  isExported : Bool
  /-- Whether it keeps its value. -/
  isFixed : Bool
  /-- Whether it is still known without a value. -/
  isKept : Bool

/-- What is given back at the end of a command with a name of its own. -/
inductive Saved
  | settings (on : List Setting)
  | variable (name : Octets) (v : Option Variable)

/-- What has to be left before the next command runs. -/
inductive Skip
  | none
  /-- So many repetitions. -/
  | breaking (levels : Nat)
  /-- So many repetitions but for the last one, which goes on. -/
  | continuing (levels : Nat)
  /-- A command with a name of its own, or a file.  The flag tells whether the exit code was
  given. -/
  | returning (isGiven : Bool)
deriving DecidableEq, Repr

/-- Why what is running stops. -/
inductive Stop
  /-- Something is wrong. -/
  | failed
  /-- The script ends because a command failed, or because there is nothing left of it. -/
  | ended
  /-- The script has asked for its end. -/
  | exited
  | killed (signal : Nat)
  /-- Another program takes the place of the script. -/
  | replaced
deriving DecidableEq, Repr

/-- What is expected of a command that runs. -/
structure Manner where
  /-- Whether it is expected that the command may fail. -/
  isTested : Bool
  /-- Whether nothing else runs after the command. -/
  isLast : Bool

namespace Manner

/-- Nothing is expected. -/
def plain : Manner := ⟨false, false⟩

/-- A command that may fail. -/
def tested : Manner := ⟨true, false⟩

/-- The same for a command after which more may run. -/
def inside (m : Manner) : Manner := { m with isLast := false }

end Manner

/-- What a running script keeps for itself, together with a system. -/
structure Memory (σ : Type) where
  system : σ
  /-- The number of the program. -/
  number : Nat
  /-- The number that the script knows as its own: parts of it that run on their own have numbers
  that it does not know. -/
  scriptNumber : Nat
  /-- Whether this is a part of the script that runs on its own. -/
  isInner : Bool
  /-- The name under which the script was started. -/
  name : Octets
  place : Place
  /-- The path of the directory as the script knows it. -/
  directory : Octets
  /-- The rights that new files do not get. -/
  mask : Nat
  /-- The handles of the channels. -/
  channels : List (Nat × Nat)
  /-- The handles that channels get back after the commands that are running. -/
  replaced : List (List (Nat × Option Nat))
  /-- Other handles that are kept open. -/
  kept : List Nat
  bindings : List (Octets × Variable)
  /-- What is given back after the commands that are running. -/
  saved : List (List Saved)
  /-- The commands with a name of their own. -/
  functions : List (Octets × Command)
  aliases : Aliases
  /-- The programs that were found, with the number of the directory of the search path, and whether
  they have to be looked for again. -/
  found : List (Octets × Nat × Bool)
  settings : List Setting
  parameters : List Octets
  /-- The next parameter that is read as an option, and how many of its octets were read. -/
  nextOption : Nat × Option Nat
  /-- The commands that run at a signal or at the end. -/
  traps : List (Nat × Octets)
  /-- The signals that were ignored when the program started. -/
  ignored : List Nat
  /-- The signals that have come and for which commands have to run, with the last one in front. -/
  caught : List Nat
  /-- The exit code of the last command. -/
  status : Nat
  /-- The exit code of the last commands whose output was a part of a word. -/
  outputStatus : Nat
  /-- The exit code to go on with after the commands for a signal. -/
  statusBefore : Option Nat
  /-- The line of the command that runs, for complaints. -/
  line : Nat
  /-- The line up to which the script was read. -/
  lineRead : Nat
  /-- The command of the shell itself that runs. -/
  running : Option Octets
  /-- How many commands with a name of their own are running. -/
  calls : Nat
  /-- The number of repetitions around. -/
  loops : Nat
  skip : Skip
  jobs : Jobs
  /-- The number of the last program that was not waited for. -/
  lastJob : Option Nat
  /-- The texts below lines of the script, by their numbers. -/
  texts : List (Nat × Word)
  nextText : Nat
  /-- What the command of the shell itself writes when it comes to its end, the last part in
  front. -/
  unwritten : List Octets
  /-- How many commands may still run before other programs get their turn. -/
  commandsLeft : Nat

namespace Memory

variable {σ : Type}

/-- The memory without the system. -/
def alone (m : Memory σ) : Memory Unit := { m with system := () }

/-- The memory with a system. -/
def within {τ : Type} (m : Memory σ) (system : τ) : Memory τ := { m with system := system }

/-- So many commands run before other programs get their turn. -/
def turnLength : Nat := 128

/-- The handles that are kept to be given back to channels. -/
def aside (m : Memory σ) : List Nat := m.replaced.flatten.filterMap (·.2)

/-- The handles that a script keeps open. -/
def held (m : Memory σ) : List Nat := m.channels.map (·.2) ++ m.aside ++ m.kept

/-- The handle of a channel. -/
def handleOf? (channel : Nat) (m : Memory σ) : Option Nat := m.channels.lookup channel

/-- Gives a channel a handle, or takes its handle away. -/
def setChannel (channel : Nat) (handle : Option Nat) (m : Memory σ) : Memory σ :=
  let others := m.channels.filter (·.1 ≠ channel)
  { m with channels := (handle.toList.map fun h => (channel, h)) ++ others }

/-- Whether commands are arranged for a signal or for the end. -/
def hasTraps (m : Memory σ) : Bool := m.traps.any fun t => !t.2.isEmpty

/-- The memory with which a part of the script starts that runs on its own. -/
def forPart (number : Nat) (m : Memory σ) : Memory σ :=
  { m with
    number := number, isInner := true, replaced := [], kept := m.aside ++ m.kept, jobs := .none
    caught := [], traps := m.traps.filter (·.2.isEmpty), commandsLeft := turnLength }

end Memory

/-- A redirection whose words are expanded. -/
inductive Prepared
  | file (channel : Nat) (opening : Opening) (path : Octets)
  | text (channel : Nat) (number : Nat)
  | copy (channel : Nat) (source : Nat)
  | close (channel : Nat)

/-- What a program does that starts. -/
inductive Body
  /-- Commands of a script run after changes of channels. -/
  | part (changes : List Prepared) (isTested : Bool) (c : Command)
  /-- The shell is called. -/
  | call (arguments : List Octets)
  /-- A text is written. -/
  | writer (s : Octets)

/-- A program that is to start. -/
structure Newcomer where
  memory : Memory Unit
  body : Body

end CompilerFlags.Script
