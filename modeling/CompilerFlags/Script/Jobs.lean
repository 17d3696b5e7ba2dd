import CompilerFlags.Script.Syntax

/-!
# Jobs

A job is what one command has started: one program, or several that are joined by pipes.  A script
keeps its jobs in slots, whose numbers are those of the jobs, and in an order that starts with the
current one.

A slot is taken again when nobody asks for its job any more: when the job is forgotten, or when a
new job is needed and all programs of the old one have ended and were waited for.
-/

namespace CompilerFlags.Script

/-- How a program has ended. -/
inductive Ending
  | exited (code : Nat)
  | killed (signal : Nat)
deriving DecidableEq, Repr

/-- The exit code that the shell tells for an ending. -/
def Ending.status : Ending → Nat
  | exited code => code
  | killed signal => 128 + signal

/-- A program of a job. -/
structure Member where
  number : Nat
  ending : Option Ending

/-- What one command has started. -/
structure Job where
  members : List Member
  /-- Whether the script has waited for the job. -/
  isWaited : Bool

namespace Job

/-- A job of which nothing has started. -/
def fresh : Job := ⟨[], false⟩

/-- Whether programs of a job are running, or none has started yet. -/
def isRunning (j : Job) : Bool := j.members.isEmpty || j.members.any (·.ending.isNone)

/-- How the last program of a job has ended. -/
def ending (j : Job) : Ending := (j.members.getLast?.bind (·.ending)).getD (.exited 0)

/-- Whether a program belongs to a job. -/
def has (number : Nat) (j : Job) : Bool := j.members.any (·.number = number)

/-- Notes how a program has ended. -/
def note (number : Nat) (ending : Ending) (j : Job) : Job :=
  { j with members := j.members.map fun m =>
      if m.number = number then { m with ending := some ending } else m }

end Job

/-- The jobs of a script. -/
structure Jobs where
  /-- The jobs by their numbers, which start at one. -/
  slots : List (Option Job)
  /-- The numbers of the jobs, with the current one in front. -/
  order : List Nat

namespace Jobs

/-- No jobs. -/
def none : Jobs := ⟨[], []⟩

/-- The job with a number. -/
def get? (n : Nat) (js : Jobs) : Option Job := if n = 0 then .none else (js.slots[n - 1]?).join

/-- Puts a job into a slot, or takes it away. -/
def set (n : Nat) (j : Option Job) (js : Jobs) : Jobs :=
  { js with slots := js.slots.set (n - 1) j }

/-- Forgets a job. -/
def forget (n : Nat) (js : Jobs) : Jobs :=
  let js := js.set n .none
  { js with order := js.order.filter (· ≠ n) }

/-- Whether the slot of a job can be taken for another one. -/
def isFree (j : Option Job) : Bool := j.all fun j => !j.isRunning && j.isWaited

/-- Makes room for a new job, and tells its number.  It becomes the current one. -/
def add (js : Jobs) : Nat × Jobs :=
  match js.slots.findIdx? isFree with
  | some i =>
    let js := js.forget (i + 1)
    (i + 1, { (js.set (i + 1) (some .fresh)) with order := (i + 1) :: js.order })
  | .none =>
    let n := js.slots.length + 1
    (n, ⟨js.slots ++ [some .fresh], n :: js.order⟩)

/-- Changes the job with a number. -/
def change (n : Nat) (f : Job → Job) (js : Jobs) : Jobs := js.set n ((js.get? n).map f)

/-- Notes that a job has started a program. -/
def start (n number : Nat) : Jobs → Jobs :=
  change n fun j => { j with members := j.members ++ [⟨number, .none⟩] }

/-- The number of the job to which a program belongs. -/
def jobOf? (number : Nat) (js : Jobs) : Option Nat :=
  js.order.find? fun n => (js.get? n).any (·.has number)

/-- The number of the job whose last program has a number. -/
def jobEndingWith? (number : Nat) (js : Jobs) : Option Nat :=
  js.order.find? fun n =>
    (js.get? n).any fun j => (j.members.getLast?.map (·.number)) = some number

/-- Notes how a program has ended. -/
def note (number : Nat) (ending : Ending) (js : Jobs) : Jobs :=
  match js.jobOf? number with
  | some n => js.change n (·.note number ending)
  | .none => js

/-- Makes a job the current one. -/
def bringForward (n : Nat) (js : Jobs) : Jobs :=
  { js with order := n :: js.order.filter (· ≠ n) }

end Jobs

end CompilerFlags.Script
