import CompilerFlags.Process
import CompilerFlags.Trial

/-!
# Trials with a real toolchain

A workshop answers trials by running compilers in a scratch directory.  It numbers its trials, and
each trial has files of its own there, which are named after its number.  A trial that cannot be
made counts as refused.
-/

namespace CompilerFlags

/-- The surroundings together with the scratch directory and the number of trials made so far. -/
structure Workshop (ω : Type) where
  world : ω
  scratch : String
  count : Nat

namespace Toolchain

/-- The name that all files of a trial have, up to their extensions. -/
def trialStem (number : Nat) : String := "probe" ++ toString number

/-- The source file of a trial. -/
def trialSource (scratch : String) (number : Nat) (l : Language) : String :=
  Path.join scratch (trialStem number ++ "." ++ l.sourceExtension)

/-- A name with an extension; an empty extension adds nothing. -/
def withExtension (stem extension : String) : String :=
  if extension.isEmpty then stem else stem ++ "." ++ extension

/-- The file that a trial makes. -/
def trialOutput (t : Toolchain) (scratch : String) (number : Nat) (link : Bool) : String :=
  Path.join scratch
    (withExtension (trialStem number) (if link then t.programExtension else t.objectExtension))

/-- What is built in a trial. -/
def trialJob (t : Toolchain) (scratch : String) (number : Nat) (trial : Trial) : Job where
  source := trialSource scratch number trial.language
  output := t.trialOutput scratch number trial.link
  compileArguments := trial.compileArguments
  linkArguments := if trial.link then trial.linkArguments else []
  link := trial.link

/-- Writes the source file of a trial and runs the compiler. -/
def tryBuild {ω : Type} (t : Toolchain) (w : World ω) (scratch : String) (number : Nat)
    (trial : Trial) (s : ω) : Except Failure Bool × ω :=
  let job := t.trialJob scratch number trial
  let written := w.writeText job.source trial.fragment s
  match written.1 with
  | .error e => (.error ⟨[.writeSource job.source], .os e⟩, written.2)
  | .ok () =>
    let answer := w.execute (t.command trial.language job) (some scratch) written.2
    (answer.1.map Finished.isSuccess, answer.2)

/-- The compiler that answers trials by running programs. -/
def compiler {ω : Type} (t : Toolchain) (w : World ω) : Compiler (Workshop ω) :=
  fun trial shop =>
    let number := shop.count + 1
    let built := t.tryBuild w shop.scratch number trial shop.world
    (built.1.toOption.getD false, { shop with world := built.2, count := number })

end Toolchain

/-- A workshop in a new scratch directory. -/
def World.openWorkshop {ω : Type} (w : World ω) (s : ω) : Except Failure (Workshop ω) × ω :=
  let made := w.makeScratch s
  match made.1 with
  | .error e => (.error ⟨[.makeScratch], .os e⟩, made.2)
  | .ok scratch => (.ok ⟨made.2, scratch, 0⟩, made.2)

end CompilerFlags
