import CompilerFlags.Script.Children

/-!
# Texts that are run, and how scripts end

A text is run row by row, and perhaps there is more of it to be read when the rows so far have run.
Signals and the end of a script have texts of their own that are run then.

A script comes to its end when nothing is left of it, when it asks for this, or when something stops
it.  In any case the text for the end is run, unless a signal has stopped the script or another
program takes its place.
-/

namespace CompilerFlags.Script

/-- A source with more octets at its end. -/
def Source.extend (s : Octets) (source : Source) : Source :=
  match source.layers.getLast? with
  | none => source
  | some last =>
    let last := { last with rest := last.rest ++ s }
    { source with
      layers := source.layers.dropLast ++ [last]
      budget := budgetFor last.rest source.aliases }

/-- The octets of a source that were not read. -/
def Source.unread (s : Source) : Octets := (s.layers.getLast?.map (·.rest)).getD []

/-- The number of lines that are at their end in a text. -/
def lineCount (s : Octets) : Nat := s.count '\n'

namespace Run

/-! ### Rows -/

/-- The first lines of a text. -/
def firstLines : Nat → Octets → Octets
  | 0, _ => []
  | lines + 1, s =>
    match s.span (· ≠ '\n') with
    | (line, _ :: rest) => line ++ '\n' :: firstLines lines rest
    | (line, []) => line

/-- A text that is run. -/
structure Reading where
  manner : Manner
  /-- Whether the text is that of a file. -/
  isFile : Bool
  /-- The handle from which more of the text can be read. -/
  handle : Option Nat

/-- So many octets of a text are read at a time. -/
def blockLength : Nat := 8192

/-- Reads the next octets of a text; there are none at its end. -/
def nextBlock (handle : Option Nat) : Run Octets := do
  match handle with
  | none => return []
  | some n =>
    let s := (← available n).take blockLength
    skip n s.length
    return s

/-- Shows lines that were read if that is asked for. -/
def showLines (r : Reading) (lines : Octets) : Run Unit := do
  if r.isFile && (← has .showsLines) then writeError lines

/-- Whether nothing comes after what was read of a source on the same line. -/
def endsInLine (source next : Source) : Bool :=
  next.unread.isEmpty && source.unread.getLast? ≠ some '\n'

/-- Whether more of a text can change how a row is read. -/
def isCut (source : Source) : Except Refusal (Row × Source) → Bool
  | .error refusal => source.line + lineCount source.unread ≤ refusal.line
  | .ok (_, next) => endsInLine source next || (next.unread.isEmpty && !next.texts.isEmpty)

/-- Runs the rows of a source, of which there are at most so many, and tells the exit code of the
last command. -/
def rows (runner : Runner) (r : Reading) : Nat → Source → Nat → Run Nat
  | 0, _, status => return status
  | steps + 1, source, status => do
    let sh ← get
    let source := { source with aliases := sh.aliases, texts := [], nextText := sh.nextText }
    let answer := source.row
    let more ← if r.handle.isSome && isCut source answer then nextBlock r.handle else pure []
    if !more.isEmpty then
      rows runner r steps (source.extend (more.filter (· ≠ '\x00'))) status
    else
      match answer with
      | .error refusal =>
        showLines r (firstLines (refusal.line + 1 - source.line) source.unread)
        modify fun sh => { sh with lineRead := refusal.line }
        failReading refusal.line refusal.message
      | .ok (row, next) =>
        showLines r (source.unread.take (source.unread.length - next.unread.length))
        modify fun sh =>
          { sh with
            lineRead := next.line, texts := next.texts ++ sh.texts, nextText := next.nextText }
        match row with
        | .ending => return status
        | .commands none => rows runner r steps next status
        | .commands (some c) =>
          runner { r.manner with isLast := r.manner.isLast && endsInLine source next } c
          let sh ← get
          if sh.skip = .none then rows runner r steps next sh.status
          else return sh.status

/-- Runs the rows of what is read, after a text in front, and tells the exit code of the last
command.  Octets that end texts are passed over. -/
def read (runner : Runner) (r : Reading) (s : Octets) : Run Nat := do
  let sh ← get
  let source := Source.ofText (s.filter (· ≠ '\x00')) sh.aliases sh.nextText
  let status ← rows runner r patience source 0
  modify fun after => { after with lineRead := sh.lineRead }
  return status

/-- Runs the rows of a text and tells the exit code of the last command. -/
def text (runner : Runner) (manner : Manner) (s : Octets) : Run Nat :=
  read runner ⟨manner, false, none⟩ s

/-- Runs the rows of a file and tells the exit code of the last command. -/
def file (runner : Runner) (s : Octets) : Run Nat := read runner ⟨.plain, true, none⟩ s

/-! ### Signals -/

/-- Runs the commands for a signal if it was caught, and goes on with an exit code. -/
def runTrap (runner : Runner) (status signal : Nat) : Run Unit := do
  let sh ← get
  if sh.skip = .none && sh.caught.contains signal then
    set { sh with caught := sh.caught.filter (· ≠ signal) }
    match sh.traps.lookup signal with
    | none => return ()
    | some action =>
      let _ ← text runner .plain action
      modify fun sh => if sh.skip = .returning true then sh else { sh with status := status }

/-- Runs the commands for the signals that were caught. -/
def runTraps (runner : Runner) : Run Unit := do
  let sh ← get
  if !sh.caught.isEmpty then
    let status := sh.statusBefore.getD sh.status
    modify fun sh => { sh with statusBefore := some status }
    Signal.all.forM (runTrap runner status)
    modify fun after => { after with statusBefore := sh.statusBefore }

/-! ### Channels for a while -/

/-- Starts to keep the handles of channels that are changed. -/
def startReplacing : Run Unit := modify fun sh => { sh with replaced := [] :: sh.replaced }

/-- Gives a channel another handle for a while, or takes its handle away. -/
def replace (channel : Nat) (handle : Option Nat) : Run Unit := do
  modify fun sh =>
    match sh.replaced with
    | first :: rest =>
      let first := if (first.lookup channel).isSome then first
        else (channel, sh.channels.lookup channel) :: first
      { sh with replaced := first :: rest }
    | [] => sh
  setChannel channel handle

/-- Gives channels their handles back that were kept last.  It may be that the new handles are to
stay. -/
def endReplacing (isForGood : Bool) : Run Unit := do
  match (← get).replaced with
  | [] => return ()
  | first :: rest =>
    modify fun sh => { sh with replaced := rest }
    if !isForGood then first.forM fun c => setChannel c.1 c.2

/-- Gives channels their handles back that were kept since there were so many commands that keep
some. -/
def endReplacingTo (depth : Nat) : Run Unit := do
  let n := (← get).replaced.length - depth
  (List.range n).forM fun _ => endReplacing false

/-! ### The end -/

/-- Brings the state into the form in which a script ends. -/
def reset (isExit : Bool) : Run Unit := do
  modify fun sh =>
    match sh.statusBefore with
    | some status =>
      let takesBack := isExit || sh.skip = .returning false
      { sh with status := if takesBack then status else sh.status, statusBefore := none }
    | none => sh
  modify fun sh => { sh with skip := .none, loops := 0 }
  endReplacingTo 0
  giveBackTo 0

/-- Runs the text for the end. -/
def runEnd (runner : Runner) (action : Octets) : Run Unit := do
  modify fun sh =>
    { sh with statusBefore := some sh.status, traps := sh.traps.filter (·.1 ≠ Signal.atEnd) }
  match ← attempt (text runner .plain action) with
  | .error (.killed signal) => throw (.killed signal)
  | .error .replaced => throw .replaced
  | .error stop => reset (stop = .exited)
  | .ok _ =>
    modify fun sh => { sh with skip := .returning false }
    reset false

/-- Comes to the end, and tells the exit code. -/
def finish (runner : Runner) (result : Except Stop Unit) : Run Nat := do
  match result with
  | .error (.killed signal) => throw (.killed signal)
  | .error .replaced => throw .replaced
  | result =>
    reset (match result with
      | .error .exited => true
      | _ => false)
    match (← get).traps.lookup Signal.atEnd with
    | none => pure ()
    | some action => runEnd runner action
    return (← get).status % 256

/-! ### Output as a part of a word -/

/-- Runs commands on their own and tells what they write. -/
def outputOf (body : Option Command) : Run Octets := do
  match body with
  | none => return []
  | some c =>
    let pipe ← addPipe .empty
    let reader ← addHandle (.reader pipe)
    let writer ← addHandle (.writer pipe)
    let job ← newJob
    let kept := (← get).kept
    let _ ← startPart (some job) (·.setChannel 1 (some writer)) (.part [] false c)
    modify fun sh => { sh with kept := reader :: kept }
    let s ← readAll reader partLimit []
    modify fun sh => { sh with kept := kept }
    let status ← awaitJob job
    modify fun sh => { sh with outputStatus := status }
    return s

end Run

end CompilerFlags.Script
