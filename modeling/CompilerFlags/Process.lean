import CompilerFlags.Failure

/-!
# Running programs that may fail

The three ways to run a program differ in what counts as a failure: only that the program cannot be
run at all, or also that it does not succeed.
-/

namespace CompilerFlags.World

variable {ω : Type} (w : World ω)

/-- Runs a command.  It is a failure if the program cannot be run. -/
def execute (c : Command) (directory : Option String) (s : ω) : Except Failure Finished × ω :=
  let answer := w.run c directory s
  (answer.1.mapError fun e => ⟨[.runProgram c.program], .os e⟩, answer.2)

/-- The answer of a program that has to succeed. -/
def requireSuccess (c : Command) (answer : Finished) : Except Failure Finished :=
  if answer.isSuccess then .ok answer else .error (.ofCause (.unsuccessful c answer))

/-- Runs a command that has to succeed. -/
def executeChecked (c : Command) (directory : Option String) (s : ω) :
    Except Failure Finished × ω :=
  let answer := w.execute c directory s
  (answer.1.bind (requireSuccess c), answer.2)

/-- What a command that has to succeed writes, without outer blanks. -/
def readOutput (c : Command) (directory : Option String) (s : ω) : Except Failure String × ω :=
  let answer := w.executeChecked c directory s
  (answer.1.map fun f => Text.trim f.stdout, answer.2)

end CompilerFlags.World
