import CompilerFlags.Script.Channel
import CompilerFlags.Script.Memory
import CompilerFlags.Script.Signal
import CompilerFlags.Script.Task

/-!
# What programs have in common

Programs that run side by side share files, handles and pipes.  The system knows which programs are
running and which handles each of them holds open, and how those have ended of which their parents
do not know yet.

What can be read from a pipe comes to its end when nothing is left in it and nobody holds a handle
any more with which it is written to.  In the same way a pipe that nobody reads takes nothing.
-/

namespace CompilerFlags.Script

/-- A program that is running. -/
structure Living where
  number : Nat
  /-- The number of the program that has started it. -/
  parent : Nat
  /-- The handles that it holds open. -/
  held : List Nat

/-- A program that has ended. -/
structure Ended where
  number : Nat
  parent : Nat
  ending : Ending

/-- What programs have in common. -/
structure System where
  files : Files
  handles : Array Handle
  pipes : Array Pipe
  living : List Living
  /-- The programs of whose end their parents do not know yet, in the order of their ends. -/
  ended : List Ended
  /-- Signals that were sent to programs, by their numbers, and that they have not noticed yet. -/
  sent : List (Nat × Nat)
  /-- Programs that are to start. -/
  newcomers : List Newcomer
  /-- The number of the next program. -/
  nextNumber : Nat

namespace System

/-! ### Handles and pipes -/

/-- A new handle. -/
def addHandle (h : Handle) (s : System) : Nat × System :=
  (s.handles.size, { s with handles := s.handles.push h })

/-- A new pipe. -/
def addPipe (p : Pipe) (s : System) : Nat × System :=
  (s.pipes.size, { s with pipes := s.pipes.push p })

/-- The pipe with a number. -/
def pipe (n : Nat) (s : System) : Pipe := s.pipes[n]?.getD .empty

/-- Changes a pipe. -/
def changePipe (n : Nat) (f : Pipe → Pipe) (s : System) : System :=
  { s with pipes := s.pipes.modify n f }

/-- Whether a handle leads to a pipe and can be used in a certain way. -/
def leadsTo (pipe : Nat) (use : Handle → Bool) (s : System) (h : Nat) : Bool :=
  match s.handles[h]? with
  | some h => h.pipe? = some pipe && use h
  | none => false

/-- Whether some program holds a handle to a pipe that can be used in a certain way. -/
def hasHolder (pipe : Nat) (use : Handle → Bool) (s : System) : Bool :=
  s.living.any fun l => l.held.any (s.leadsTo pipe use)

/-- Whether somebody may still write to a pipe. -/
def hasWriter (pipe : Nat) (s : System) : Bool := s.hasHolder pipe (·.canWrite)

/-- Whether somebody may still read from a pipe. -/
def hasReader (pipe : Nat) (s : System) : Bool :=
  (s.pipe pipe).isOutside || s.hasHolder pipe (·.canRead)

/-- Whether somebody may still write to a pipe that leads outside. -/
def isHeard (s : System) : Bool :=
  (List.range s.pipes.size).any fun n => (s.pipe n).isOutside && s.hasWriter n

/-! ### Programs -/

/-- Whether there is a program with a number. -/
def has (number : Nat) (s : System) : Bool :=
  s.living.any (·.number = number) || s.ended.any (·.number = number)

/-- Notes which handles a program holds open. -/
def publish (number : Nat) (held : List Nat) (s : System) : System :=
  { s with living := s.living.map fun l =>
      if l.number = number then { l with held := held } else l }

/-- Starts a program. -/
def start (parent : Nat) (n : Newcomer) (s : System) : System :=
  { s with
    living := s.living ++ [⟨n.memory.number, parent, n.memory.held⟩]
    newcomers := s.newcomers ++ [n] }

/-- Puts another program in the place of one. -/
def replace (n : Newcomer) (s : System) : System :=
  { s.publish n.memory.number n.memory.held with newcomers := s.newcomers ++ [n] }

/-- Sends a signal. -/
def send (target signal : Nat) (s : System) : System :=
  { s with sent := s.sent ++ [(target, signal)] }

/-- Whether a program has children that are running. -/
def hasChildren (number : Nat) (s : System) : Bool := s.living.any (·.parent = number)

/-- The child of a program that has ended first, of those of which it does not know yet. -/
def endedChild? (number : Nat) (s : System) : Option Ended :=
  s.ended.find? (·.parent = number)

/-- Forgets a program that has ended. -/
def bury (number : Nat) (s : System) : System :=
  { s with ended := s.ended.filter (·.number ≠ number) }

/-- The number of the program that takes care of those whose parents have ended. -/
def foster : Nat := 1

/-- Notes that a program has ended.  Its parent gets to know of it if it is still running. -/
def finish (number : Nat) (ending : Ending) (s : System) : System :=
  let parent := ((s.living.find? (·.number = number)).map (·.parent)).getD foster
  let others := s.living.filter (·.number ≠ number)
  let isKnown := others.any (·.number = parent)
  let ended := s.ended.filter (·.parent ≠ number)
  { s with
    living := others.map fun l => if l.parent = number then { l with parent := foster } else l
    ended := if isKnown then ended ++ [⟨number, parent, ending⟩] else ended
    sent := s.sent.filter (·.1 ≠ number) ++ if isKnown then [(parent, Signal.child)] else [] }

/-- Whether what a program waits for has come. -/
def isReady (number : Nat) (s : System) (w : Wait) : Bool :=
  s.sent.any (·.1 = number) ||
    match w with
    | .turn => true
    | .input p => (s.pipe p).size ≠ 0 || !s.hasWriter p
    | .room p n => (s.pipe p).takes n || !s.hasReader p
    | .child => (s.endedChild? number).isSome

end System

end CompilerFlags.Script
