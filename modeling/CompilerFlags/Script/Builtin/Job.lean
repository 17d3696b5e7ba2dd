import CompilerFlags.Script.Children
import CompilerFlags.Script.Options

/-!
# Commands that deal with jobs

A job is named by its number after a percent sign, or by its place in the order of jobs.  It could
also be named by the start or by a part of its command, but the commands of jobs are not known: they
all count as empty.
-/

namespace CompilerFlags.Script.Builtin

/-! ### The names of jobs -/

/-- The numbers of the jobs that a text names after the percent sign, and what is said if there is
not exactly one. -/
def jobsNamed (js : Jobs) (name : Octets) : List Nat × String :=
  match name with
  | [] => (js.order.take 1, "No current job")
  | ['+'] => (js.order.take 1, "No current job")
  | ['%'] => (js.order.take 1, "No current job")
  | ['-'] => ((js.order.drop 1).take 1, "No previous job")
  | ['?'] => (js.order, if js.order.isEmpty then "No such job: " else ": ambiguous")
  | s =>
    let n := if s.all Char.isDigit then Numeral.valueIn 10 s else 0
    (if (js.get? n).isSome then [n] else [], "No such job: ")

/-- What is said of a job that cannot be found. -/
def jobComplaint (name : Octets) (reason : String) : Octets :=
  if reason = ": ambiguous" then name ++ reason.toList
  else if reason = "No such job: " then reason.toList ++ name
  else reason.toList

/-- The number of the job that a text names; without a text it is the current one.  There may be the
further demand that jobs are under control, which they never are. -/
def namedJob (needsControl : Bool) (name : Option Octets) : Run Nat := do
  let js := (← get).jobs
  let (found, reason) := match name with
    | none => jobsNamed js []
    | some ('%' :: name) => jobsNamed js name
    | some _ => ([], "No such job: ")
  match found with
  | [n] =>
    if needsControl then
      Run.fail ("job ".toList ++ name.getD "(null)".toList ++
        " not created under job control".toList)
    else return n
  | _ => Run.fail (jobComplaint (name.getD []) reason)

/-! ### Lists of jobs -/

/-- How a program has ended, in words. -/
def endingText : Ending → String
  | .exited 0 => "Done"
  | .exited code => "Done(" ++ toString code ++ ")"
  | .killed signal => Signal.description signal

/-- What is told of a job besides its state. -/
inductive Detail
  | nothing
  /-- The numbers of its programs. -/
  | numbers
  /-- Nothing but the number of its first program. -/
  | first
deriving DecidableEq, Repr

/-- Blanks up to a column, at least one of them. -/
def blanksAfter (length : Nat) : Octets := List.replicate (max 1 (33 - length)) ' '

/-- The text for a job with a number. -/
def jobText (js : Jobs) (detail : Detail) (n : Nat) (j : Job) : Octets :=
  let numbers := j.members.map (·.number)
  let mark := if js.order.head? = some n then '+'
    else if js.order[1]? = some n then '-' else ' '
  let start := '[' :: numberText n ++ [']', ' ', mark, ' ']
  let state := if j.isRunning then "Running".toList else (endingText j.ending).toList
  match detail, numbers with
  | .first, number :: _ => numberText number ++ ['\n']
  | .numbers, number :: others =>
    let line := start ++ numberText number ++ ' ' :: state
    let rest := others.flatMap fun number =>
      let line := List.replicate start.length ' ' ++ numberText number ++ [' ']
      " |\n".toList ++ line ++ blanksAfter line.length
    line ++ blanksAfter line.length ++ rest ++ ['\n']
  | _, numbers =>
    let line := start ++ state
    line ++ blanksAfter line.length ++ numbers.tail.flatMap (fun _ => " | ".toList) ++ ['\n']

/-- Tells about a job.  One that has ended is forgotten after that. -/
def showJob (detail : Detail) (n : Nat) : Run Unit := do
  let js := (← get).jobs
  match js.get? n with
  | none => return ()
  | some j =>
    Run.write (jobText js detail n j)
    if detail ≠ .first && !j.isRunning then Run.changeJobs (·.forget n)

/-- The command `jobs`. -/
def jobsCommand (arguments : List Octets) : Run Nat := do
  let (options, rest) ← Options.read [('l', false), ('p', false)] arguments
  let detail := match options.getLast? with
    | some ('l', _) => .numbers
    | some _ => .first
    | none => .nothing
  if rest.isEmpty then
    Run.learnAll none
    (← get).jobs.order.forM (showJob detail)
  else rest.forM fun name => do showJob detail (← namedJob false (some name))
  return 0

/-- A command that brings a job to the front or back; there is never one that can be. -/
def jobCommand (arguments : List Octets) : Run Nat := do
  let _ ← namedJob true (← Options.after arguments).head?
  return 0

/-! ### Waiting -/

/-- The exit code of a command that waits and was interrupted. -/
def interruptedStatus : Run Nat := do return 128 + (← get).caught.headD 0

/-- Waits for a job and tells whether nothing has interrupted this. -/
def awaitNamed (job : Nat) : Run Bool := do
  let answer ← Run.awaitOrSignal .child (Run.lookAtJob job) Run.patience
  if answer.isSome then Run.changeJobs (·.change job fun j => { j with isWaited := true })
  return answer.isSome

/-- The job that an argument of a command that waits is about, if there is one. -/
def awaitedJob? (s : Octets) : Run (Option Nat) := do
  if s.head? = some '%' then return some (← namedJob false (some s))
  else return (← get).jobs.jobEndingWith? (← Run.count s)

/-- Waits for jobs, and tells the exit code of the last one. -/
def waitForEach : List Octets → Nat → Run Nat
  | [], status => return status
  | s :: rest, status => do
    match ← awaitedJob? s with
    | none => waitForEach rest status
    | some job =>
      if ← awaitNamed job then
        let ending := ((← get).jobs.get? job).map (·.ending)
        waitForEach rest ((ending.map (·.status)).getD 0)
      else interruptedStatus

/-- Marks jobs as waited for up to the first one that is running, and tells whether there is
none. -/
def markWaited : List Nat → Run (Option Unit)
  | [] => return some ()
  | n :: rest => do
    if ((← get).jobs.get? n).any (·.isRunning) then return none
    else
      Run.changeJobs (·.change n fun j => { j with isWaited := true })
      markWaited rest

/-- Learns of the ends of programs and tells whether all jobs have ended. -/
def lookAtJobs : Run (Option Unit) := do
  Run.learnAll none
  let sh ← get
  let isOver ← markWaited sh.jobs.order
  return if sh.system.hasChildren sh.number then isOver else some ()

/-- The command `wait`. -/
def waitCommand (arguments : List Octets) : Run Nat := do
  match ← Options.after arguments with
  | [] =>
    match ← Run.awaitOrSignal .child lookAtJobs Run.patience with
    | some _ => return 0
    | none => interruptedStatus
  | names => waitForEach names 127

end CompilerFlags.Script.Builtin
