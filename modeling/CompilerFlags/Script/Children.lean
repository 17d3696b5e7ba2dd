import CompilerFlags.Script.Variable

/-!
# The programs that a script starts

A script starts other programs, each of them as a part of a job, and may wait for them.  While it
waits, it learns of the end of all its programs, in the order in which they have ended.  What a
signal has stopped is said only of those for whose job the script is waiting.

A part of a script that runs on its own is such a program, too.  It starts with the memory of the
script.
-/

namespace CompilerFlags.Script

namespace Run

/-! ### Starting programs -/

/-- Changes the jobs. -/
def changeJobs (change : Jobs → Jobs) : Run Unit := modify fun sh =>
  { sh with jobs := change sh.jobs }

/-- The number of a new job. -/
def newJob : Run Nat := modifyGet fun sh =>
  let (n, jobs) := sh.jobs.add
  (n, { sh with jobs := jobs })

/-- There are fewer programs than this at a time. -/
def programLimit : Nat := 20000

/-- Starts a program as a part of a job, if there is one. -/
def start (job : Option Nat) (n : Newcomer) : Run Unit := do
  let sh ← get
  if programLimit ≤ sh.system.living.length then fail "Cannot fork".toList
  else
    changeSystem (·.start sh.number n)
    match job with
    | some job => changeJobs (·.start job n.memory.number)
    | none => return ()

/-- Starts a part of the script on its own, and tells its number. -/
def startPart (job : Option Nat) (change : Memory Unit → Memory Unit) (body : Body) : Run Nat := do
  let number ← newNumber
  let sh ← get
  start job ⟨change (sh.alone.forPart number), body⟩
  return number

/-! ### Learning of their ends -/

/-- What has stopped a program is said. -/
def sayEnding (ending : Ending) : Run Unit := do
  match ending with
  | .killed signal =>
    let remark := Signal.remark signal
    if !remark.isEmpty then writeError (remark ++ "\n").toList
  | .exited _ => return ()

/-- Learns that a program has ended, perhaps while waiting for a job. -/
def learn (awaited : Option Nat) (e : Ended) : Run Unit := do
  let job := (← get).jobs.jobOf? e.number
  changeSystem (·.bury e.number)
  changeJobs (·.note e.number e.ending)
  if job.isSome && job = awaited then sayEnding e.ending

/-- Learns of the ends of programs, of which there are at most so many. -/
def learnSome (awaited : Option Nat) : Nat → Run Unit
  | 0 => return ()
  | count + 1 => do
    let sh ← get
    match sh.system.endedChild? sh.number with
    | none => return ()
    | some e =>
      learn awaited e
      learnSome awaited count

/-- Learns of the ends of all programs that have ended. -/
def learnAll (awaited : Option Nat) : Run Unit := do
  learnSome awaited (← get).system.ended.length

/-- Learns of the ends of programs and tells whether those of a job have all ended. -/
def lookAtJob (job : Nat) : Run (Option Unit) := do
  learnAll (some job)
  let sh ← get
  let isRunning := (sh.jobs.get? job).any (·.isRunning)
  return if isRunning && sh.system.hasChildren sh.number then none else some ()

/-- Waits for a job, and tells its exit code.  The job is forgotten then. -/
def awaitJob (job : Nat) : Run Nat := do
  await .child (lookAtJob job) patience
  let ending := ((← get).jobs.get? job).map (·.ending)
  changeJobs (·.forget job)
  return (ending.map (·.status)).getD 0

/-! ### Waiting that a signal interrupts -/

/-- Receives signals up to one for which commands have to run, and tells whether there was one.  The
others are left.  News about children count only later. -/
def noticeOne (number : Nat) : List Nat → Run Bool
  | [] => return false
  | signal :: rest => do
    receive signal
    if signal ≠ Signal.child && (← get).caught.contains signal then
      changeSystem fun s => { s with sent := rest.map (fun n => (number, n)) ++ s.sent }
      return true
    else noticeOne number rest

/-- Waits until there is an answer, or until there is a signal for which commands have to run.  It
is looked for the answer at most so many times. -/
def awaitOrSignal {α : Type} (w : Wait) (look : Run (Option α)) : Nat → Run (Option α)
  | 0 => throw (.killed Signal.kill)
  | times + 1 => do
    match ← look with
    | some answer => return some answer
    | none =>
      if !(← get).caught.isEmpty then return none
      else
        publish
        hand w
        let sh ← get
        let mine := (sh.system.sent.filter (·.1 = sh.number)).map (·.2)
        changeSystem fun s => { s with sent := s.sent.filter (·.1 ≠ sh.number) }
        if ← noticeOne sh.number mine then return none
        else awaitOrSignal w look times

/-- What can be read from a handle; nothing at its end, or if there is a signal for which commands
have to run. -/
def availableOrSignal (n : Nat) : Run Octets := do
  match ((← get).system.handles[n]?).bind fun h => if h.canRead then h.pipe? else none with
  | some pipe => return (← awaitOrSignal (.input pipe) (lookInPipe pipe) patience).getD []
  | none => available n

end Run

end CompilerFlags.Script
