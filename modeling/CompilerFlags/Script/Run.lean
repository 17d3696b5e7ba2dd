import CompilerFlags.Script.Simple

/-!
# Running commands

Commands run one inside another up to a certain depth, and repetitions have a largest number of
turns; a script that needs more is stopped by force.

A script may ask for its end when a command fails.  This does not count where a failure is expected:
in conditions, and in front of `&&` and `||`.

Parts of a script that run on their own start as programs of their own.  The last command of such a
part needs no further program: it runs in the place of the part.
-/

namespace CompilerFlags.Script

namespace Run

/-- Repetitions have fewer turns than this. -/
def turnLimit : Nat := 4000000

/-- Runs commands one after another, up to one that leaves the row. -/
def sequence (runner : Runner) (m : Manner) : List Command → Run Unit
  | [] => return ()
  | [c] => runner m c
  | c :: rest => do
    runner m.inside c
    if (← get).skip = .none then sequence runner m rest

/-- Ends a turn of a repetition, and tells what has to be left then. -/
def endTurn : Run Skip := do
  let skip := (← get).skip
  let after : Skip := match skip with
    | .breaking n => if n ≤ 1 then .none else .breaking (n - 1)
    | .continuing n => if n ≤ 1 then .none else .continuing (n - 1)
    | skip => skip
  modify fun sh => { sh with skip := after }
  return match skip with
    | .continuing n => if n ≤ 1 then skip else .breaking (n - 1)
    | skip => skip

/-- Whether a repetition goes on after a turn. -/
def goesOn : Skip → Bool
  | .none => true
  | .continuing _ => true
  | _ => false

/-- Repeats commands as long as a condition ends as is expected, and tells the exit code. -/
def repeated (runner : Runner) (isTested expected : Bool) (condition body : Command) :
    Nat → Nat → Run Nat
  | 0, _ => throw (.killed Signal.kill)
  | turns + 1, status => do
    runner .tested condition
    let asked := (← get).status
    let skip ← endTurn
    match skip with
    | .returning _ => return asked
    | .breaking _ => return status
    | .continuing _ => repeated runner isTested expected condition body turns status
    | .none =>
      if (asked = 0) = expected then
        runner ⟨isTested, false⟩ body
        let status := (← get).status
        if goesOn (← endTurn) then
          repeated runner isTested expected condition body turns status
        else return status
      else return status

/-- Repeats commands for values of a variable, and tells the exit code. -/
def forEach (runner : Runner) (isTested : Bool) (name : Octets) (body : Command) :
    List Octets → Nat → Run Nat
  | [], status => return status
  | value :: rest, _ => do
    setValue name value
    runner ⟨isTested, false⟩ body
    let status := (← get).status
    if goesOn (← endTurn) then forEach runner isTested name body rest status else return status

/-- Runs a repetition inside those that are around. -/
def inLoop (x : Run Nat) : Run Unit := do
  modify fun sh => { sh with loops := sh.loops + 1 }
  let status ← x
  modify fun sh => { sh with loops := sh.loops - 1, status := status }

/-- Whether octets match one of some patterns. -/
def matchesAny (s : Octets) : List Word → Run Bool
  | [] => return false
  | w :: rest => do
    if Pattern.isMatch (← Expansion.pattern w) s then return true
    else matchesAny s rest

/-- Runs the commands of the first case that octets match. -/
def cases (runner : Runner) (m : Manner) (s : Octets) :
    List (List Word × Option Command) → Run Unit
  | [] => setStatus 0
  | (patterns, body) :: rest => do
    if ← matchesAny s patterns then
      match body with
      | none => setStatus 0
      | some c => runner m c
    else cases runner m s rest

/-- Remembers where the program is that a command of a pipe runs. -/
def prepareProgram (c : Command) : Run Unit := do
  match c with
  | .simple _ _ (w :: _) _ =>
    match Word.bare? w with
    | some name =>
      let isKnown := (Builtin.kind? name).isSome || ((← get).functions.lookup name).isSome
      if isName name && !isKnown then
        let _ ← Builtin.locate name none
    | none => return ()
  | _ => return ()

/-! ### Parts that run on their own -/

/-- What a part finds that runs in the background. -/
def forBackground (m : Memory Unit) : Memory Unit := { m with ignored := 2 :: 3 :: m.ignored }

/-- Starts commands of a job of which each reads what the one before it writes, and tells the number
of the last one.  The first one reads what is left of the channel for input, or nothing if the job
runs in the background. -/
def startAll (isTested isBackground : Bool) (job : Nat) : Option Nat → List Command → Nat → Run Nat
  | _, [], last => return last
  | input, c :: rest, _ => do
    prepareProgram c
    let pipe ← if rest.isEmpty then pure none else some <$> addPipe .empty
    let writer ← pipe.mapM fun p => addHandle (.writer p)
    let reader ← pipe.mapM fun p => addHandle (.reader p)
    let change (m : Memory Unit) : Memory Unit :=
      let m := if input.isSome then m.setChannel 0 input else m
      let m := if writer.isSome then m.setChannel 1 writer else m
      if isBackground then forBackground m else m
    let number ← startPart (some job) change (.part [] isTested c)
    startAll isTested isBackground job reader rest number

/-- Runs commands of which each reads what the one before it writes, and tells the exit code of the
last one. -/
def pipe (isTested : Bool) (commands : List Command) : Run Nat := do
  let job ← newJob
  let _ ← startAll isTested false job none commands 0
  awaitJob job

/-- Starts commands that are not waited for.  The words of redirections around them are expanded
before. -/
def background (body : Command) : Run Unit := do
  let empty ← addHandle .empty
  let (job, number) ← match body with
    | .pipe commands =>
      let job ← newJob
      pure (job, ← startAll false true job (some empty) commands 0)
    | body =>
      let (body, changes) := match body with
        | .redirected _ body changes => (body, changes)
        | body => (body, [])
      let prepared ← changes.mapM Redirection.prepare
      let job ← newJob
      let change (m : Memory Unit) := forBackground (m.setChannel 0 (some empty))
      pure (job, ← startPart (some job) change (.part prepared false body))
  changeJobs (·.bringForward job)
  modify fun sh => { sh with lastJob := some number, status := 0 }

/-- Runs commands whose changes to variables are forgotten. -/
def innerCommands (runner : Runner) (m : Manner) (body : Command) (changes : List Redirection) :
    Run Unit := do
  let prepared ← changes.mapM Redirection.prepare
  let sh ← get
  if m.isLast && !sh.hasTraps then
    modify fun sh => { sh.forPart sh.number with jobs := sh.jobs }
    prepared.forM Redirection.apply
    runner m body
    throw .ended
  else
    let job ← newJob
    let _ ← startPart (some job) id (.part prepared m.isTested body)
    setStatus (← awaitJob job)

/-- Runs a command whose channels are changed, and tells whether this was possible. -/
def redirected (runner : Runner) (isTested : Bool) (body : Command)
    (changes : List Redirection) : Run Bool := do
  let prepared ← changes.mapM Redirection.prepare
  startReplacing
  let isPossible ← Redirection.applyAll prepared
  if isPossible then runner ⟨isTested, false⟩ body
  endReplacing false
  return isPossible

/-- Notes on which line a command starts. -/
def atLine (line : Nat) : Run Unit := modify fun sh => { sh with line := line }

/-- Runs a command by means of a runner for the commands inside it, and tells whether its failure
counts. -/
def command (runner : Runner) (m : Manner) (c : Command) : Run Bool := do
  match c with
  | .simple line assignments words changes =>
    atLine line
    simple runner m assignments words changes
    return true
  | .redirected line body changes =>
    atLine line
    return !(← redirected runner m.isTested body changes)
  | .sequence commands =>
    sequence runner m commands
    return false
  | .both first second =>
    runner .tested first
    let sh ← get
    if sh.status = 0 && sh.skip = .none then runner m second
    return false
  | .either first second =>
    runner .tested first
    let sh ← get
    if sh.status ≠ 0 && sh.skip = .none then runner m second
    return false
  | .negated body =>
    runner .tested body
    modify fun sh =>
      if sh.skip = .none then { sh with status := if sh.status = 0 then 1 else 0 } else sh
    return false
  | .pipe commands =>
    setStatus (← pipe m.isTested commands)
    return true
  | .background line body =>
    atLine line
    background body
    return true
  | .inner line body changes =>
    atLine line
    innerCommands runner m body changes
    return true
  | .branch condition yes no =>
    runner .tested condition
    let sh ← get
    if sh.skip = .none then
      if sh.status = 0 then runner m yes
      else
        match no with
        | some no => runner m no
        | none => setStatus 0
    return false
  | .loop expected condition body =>
    inLoop (repeated runner m.isTested expected condition body turnLimit 0)
    return false
  | .each line name words body =>
    atLine line
    let values ← words.mapM (Expansion.arguments)
    inLoop (forEach runner m.isTested name body values.flatten 0)
    return false
  | .choose line subject cs =>
    atLine line
    let s ← Expansion.whole subject
    cases runner m s cs
    return false
  | .define line name body =>
    atLine line
    modify fun sh =>
      { sh with
        functions := (name, body) :: sh.functions.filter (·.1 ≠ name)
        found := sh.found.filter (·.1 ≠ name), status := 0 }
    return false

/-- Notices signals, and lets other programs run if it is their turn. -/
def takeTurn : Run Unit := do
  let sh ← get
  if sh.commandsLeft = 0 then
    set { sh with commandsLeft := Memory.turnLength }
    if 1 < sh.system.living.length then pause .turn
  else set { sh with commandsLeft := sh.commandsLeft - 1 }
  noticeSignals

/-- Runs a command by means of a runner for the commands inside it.  Signals that have come are
dealt with, and the script ends if it has asked for this in case of a failure. -/
def step (runner : Runner) (m : Manner) (c : Command) : Run Unit := do
  if !(← has .runsNothing) then
    takeTurn
    runTraps runner
    let counts ← command runner m c
    let status := (← get).status
    runTraps runner
    if counts && !m.isTested && status ≠ 0 && (← has .endsOnFailure) then throw .ended

/-- Runs commands that are nested less than the given depth deep. -/
def runnerOf : Nat → Manner → Command → Run Unit
  | 0, _, _ => throw (.killed Signal.kill)
  | depth + 1, m, c => step (runnerOf depth) m c

/-- Commands are nested less deep than this while they run. -/
def depthLimit : Nat := 100000

end Run

end CompilerFlags.Script
