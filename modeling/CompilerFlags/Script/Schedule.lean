import CompilerFlags.Script.Run

/-!
# Programs that run side by side

`Script.run` runs a call of the shell, with all programs that come out of it, and tells how it ended
and what was written.  The programs take turns: each of them runs until it pauses, and goes on when
what it waits for has come and the others that could go on have had their turns.

The answer is there when the first program has ended and nobody writes to its outputs any more.
There is a largest number of turns, so a run always comes to its end.
-/

namespace CompilerFlags.Script

/-- A program that pauses. -/
structure Resting where
  number : Nat
  wait : Wait
  /-- How it goes on. -/
  go : System → Task System (Option Ending × System)

/-- What a script has answered. -/
structure Answer where
  ending : Ending
  output : Octets
  errors : Octets
  files : Files

/-- The exit code of a script, if it was not stopped by a signal. -/
def Answer.code (a : Answer) : Option Nat :=
  match a.ending with
  | .exited code => some code
  | .killed _ => none

/-- The number of the first program. -/
def firstNumber : Nat := 4242

namespace Schedule

/-- Runs a program that is new until it ends, and tells how. -/
def begin (n : Newcomer) (s : System) : Task System (Option Ending × System) := do
  let (result, sh) ← (Run.life (Run.runnerOf Run.depthLimit) n.body).run.run (n.memory.within s)
  return (result.toOption.getD (some (.killed Signal.kill)), sh.system)

/-- A program that is new. -/
def resting (n : Newcomer) : Resting := ⟨n.memory.number, .turn, begin n⟩

/-- The first of some programs that can go on, and the others. -/
def takeReady (s : System) : List Resting → Option (Resting × List Resting)
  | [] => none
  | r :: rest =>
    if s.isReady r.number r.wait then some (r, rest)
    else (takeReady s rest).map fun (found, others) => (found, r :: others)

/-- Programs that take turns. -/
structure State where
  resting : List Resting
  system : System
  /-- How the first program has ended. -/
  ending : Option Ending

/-- Starts the programs that are new. -/
def State.welcome (s : State) : State :=
  { s with
    resting := s.resting ++ s.system.newcomers.map Schedule.resting
    system := { s.system with newcomers := [] } }

/-- Lets a program run until it pauses or ends. -/
def State.turn (s : State) (number : Nat) (go : System → Task System (Option Ending × System)) :
    State :=
  match go s.system with
  | .pause w system go =>
    let s := State.welcome { s with system := system }
    { s with resting := s.resting ++ [⟨number, w, go⟩] }
  | .done (none, system) => State.welcome { s with system := system }
  | .done (some ending, system) =>
    State.welcome { s with
      system := system.finish number ending
      ending := if number = firstNumber then some ending else s.ending }

/-- Lets programs take at most so many turns, until all is over. -/
def run (isOver : State → Bool) : Nat → State → State
  | 0, s => s
  | turns + 1, s =>
    if isOver s then s
    else
      match takeReady s.system s.resting with
      | none => s
      | some (r, others) => run isOver turns ({ s with resting := others }.turn r.number r.go)

/-- Programs take fewer turns than this. -/
def turnLimit : Nat := 1000000000

/-- Programs that nobody hears take at most so many turns. -/
def aftermath : Nat := 1000

end Schedule

/-- The rights that new files usually do not get. -/
def usualMask : Nat := 18

/-- Runs a call of the shell without input. -/
def run (c : ShellCall) (place : Place) (environment : List (Octets × Octets)) (files : Files) :
    Answer :=
  let outset : Outset :=
    { files := files
      number := firstNumber
      parent := System.foster
      place := place
      mask := usualMask
      channels := [(0, 0), (1, 1), (2, 2)]
      ignored := []
      environment := environment }
  let system : System :=
    { files := files
      handles := #[.empty, .writer 0, .writer 1]
      pipes := #[.outside, .outside]
      living := []
      ended := []
      sent := []
      newcomers := []
      nextNumber := firstNumber + 1 }
  let start := Schedule.State.welcome ⟨[], system.start System.foster (outset.newcomer c), none⟩
  let answered := Schedule.run (fun s => s.ending.isSome && !s.system.isHeard)
    Schedule.turnLimit start
  let after := Schedule.run (fun _ => false) Schedule.aftermath answered
  { ending := after.ending.getD (.killed Signal.kill)
    output := (after.system.pipe 0).content
    errors := (after.system.pipe 1).content
    files := after.system.files }

end CompilerFlags.Script
