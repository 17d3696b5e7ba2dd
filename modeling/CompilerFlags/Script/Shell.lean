import CompilerFlags.Script.Grammar
import CompilerFlags.Script.System

/-!
# The state of a running script

A running script has a memory of its own and shares the system with other programs.  `Run` are the
actions that change this state.  An action may stop what is running: because something is wrong,
because the script ends, or because a signal has stopped it.  What was changed before stays changed.
An action may also pause, so that other programs change the system before it goes on.

Leaving repetitions or commands with a name of their own is no such stop.  It is a part of the state
that the commands in between look at.
-/

namespace CompilerFlags.Script

/-- The state of a running script. -/
abbrev Shell := Memory System

/-- The actions of a running script. -/
abbrev Run (α : Type) := ExceptT Stop (StateT Shell (Task System)) α

/-- Runs a command in a manner. -/
abbrev Runner := Manner → Command → Run Unit

/-- A number as octets. -/
def numberText (n : Nat) : Octets := (toString n).toList

namespace Shell

/-- The handle of the channel for which a place stands, if it stands for one.  The channel may be
closed. -/
def channelAt? (sh : Shell) (p : Place) (e : Option Entry) : Option (Option Nat) :=
  match e with
  | some (.device (.channel n)) => some (sh.handleOf? n)
  | _ =>
    if p.dropLast ∈ Files.channelDirectories then
      some ((sh.channels.find? fun c => p.getLast? = some (numberText c.1)).map (·.2))
    else none

/-- What is found where a handle leads. -/
def entryOf (sh : Shell) (p : Place) (h : Handle) : Except OsError (Place × Entry) :=
  match h.stream with
  | .file p _ => .ok (p, (sh.system.files.at? p).getD (.file [] false))
  | .device d => .ok (p, .device d)
  | .pipe _ => .ok (p, .device .pipe)

/-- What a file name in a script leads to. -/
def find (sh : Shell) (path : Octets) : Except OsError (Place × Entry) := do
  let (p, e) ← sh.system.files.locate sh.place path
  match sh.channelAt? p e, e with
  | some handle, _ =>
    match handle.bind fun n => sh.system.handles[n]? with
    | some h => sh.entryOf p h
    | none => .error .missing
  | none, some e => .ok (p, e)
  | none, none => .error .missing

/-- The names of what is found in a directory. -/
def namesIn (sh : Shell) (p : Place) : List Octets :=
  if p ∈ Files.channelDirectories then sh.channels.map fun c => numberText c.1
  else sh.system.files.namesIn p

end Shell

namespace Run

/-- Runs an action and tells how it has ended. -/
def attempt {α : Type} (x : Run α) : Run (Except Stop α) := ExceptT.mk (do return .ok (← x.run))

/-- Sets the exit code. -/
def setStatus (n : Nat) : Run Unit := modify fun sh => { sh with status := n }

/-- Changes the system. -/
def changeSystem (change : System → System) : Run Unit := modify fun sh =>
  { sh with system := change sh.system }

/-! ### Signals and pauses -/

/-- Receives a signal. -/
def receive (signal : Nat) : Run Unit := do
  let sh ← get
  if signal = Signal.kill then throw (.killed signal)
  else if !sh.ignored.contains signal then
    match sh.traps.lookup signal with
    | some [] => return ()
    | some _ => modify fun sh => { sh with caught := signal :: sh.caught.filter (· ≠ signal) }
    | none => if !Signal.isHarmless signal then throw (.killed signal)

/-- Receives the signals that were sent to the program. -/
def noticeSignals : Run Unit := do
  let sh ← get
  if sh.system.sent.any (·.1 = sh.number) then
    let mine := sh.system.sent.filter (·.1 = sh.number)
    changeSystem fun s => { s with sent := s.sent.filter (·.1 ≠ sh.number) }
    mine.forM fun s => receive s.2

/-- Tells other programs which handles are held open. -/
def publish : Run Unit := modify fun sh =>
  { sh with system := sh.system.publish sh.number sh.held }

/-- Lets other programs run. -/
def hand (w : Wait) : Run Unit := ExceptT.mk fun sh =>
  let system := sh.system
  let memory := sh.alone
  .pause w system fun system => .done (.ok (), memory.within system)

/-- Lets other programs run, at least until what is waited for has come or there is a signal. -/
def pause (w : Wait) : Run Unit := do
  publish
  hand w
  noticeSignals

/-- Waits until there is an answer, for which it is looked at most so many times. -/
def await {α : Type} (w : Wait) (look : Run (Option α)) : Nat → Run α
  | 0 => throw (.killed Signal.kill)
  | times + 1 => do
    match ← look with
    | some answer => return answer
    | none =>
      pause w
      await w look times

/-- It is looked for an answer at most so many times. -/
def patience : Nat := 1000000000

/-! ### Channels -/

/-- The number of the handle of a channel. -/
def handleOf? (channel : Nat) : Run (Option Nat) := do return (← get).handleOf? channel

/-- A new handle. -/
def addHandle (h : Handle) : Run Nat := modifyGet fun sh =>
  let (n, system) := sh.system.addHandle h
  (n, { sh with system := system })

/-- A new pipe. -/
def addPipe (p : Pipe) : Run Nat := modifyGet fun sh =>
  let (n, system) := sh.system.addPipe p
  (n, { sh with system := system })

/-- Gives a channel a handle, or takes its handle away. -/
def setChannel (channel : Nat) (handle : Option Nat) : Run Unit :=
  modify (·.setChannel channel handle)

/-- Puts a part of some octets into a pipe, and tells what is left of them, if it can still be
read. -/
def fillPipe (pipe : Nat) (s : Octets) : Run (Option (Option Octets)) := do
  publish
  let system := (← get).system
  let p := system.pipe pipe
  if p.isOutside then
    changeSystem fun system => system.changePipe pipe (·.push s)
    return some (some [])
  else if !system.hasReader pipe then return some none
  else if !p.takes s.length then return none
  else
    changeSystem fun system => system.changePipe pipe (·.push (s.take p.room))
    return some (some (s.drop p.room))

/-- Writes octets to a pipe, in at most so many parts, and tells whether this was possible.  If
nobody reads the pipe, there is a signal. -/
def writePipe (pipe : Nat) : Nat → Octets → Run Bool
  | 0, _ => return false
  | parts + 1, s => do
    match ← await (.room pipe s.length) (fillPipe pipe s) patience with
    | none =>
      receive Signal.pipe
      return false
    | some [] => return true
    | some rest => writePipe pipe parts rest

/-- Writes octets to the handle with a number, and tells whether this was possible. -/
def writeToHandle (n : Nat) (s : Octets) : Run Bool := do
  let sh ← get
  match sh.system.handles[n]? with
  | none => return false
  | some h =>
    match if h.canWrite then h.pipe? else none with
    | some pipe => writePipe pipe (s.length + 1) s
    | none =>
      match h.write? s sh.system.files with
      | none => return false
      | some (files, h) =>
        changeSystem fun system =>
          { system with files := files, handles := system.handles.setIfInBounds n h }
        return true

/-- Writes octets to a channel, and tells whether this was possible. -/
def writeTo (channel : Nat) (s : Octets) : Run Bool := do
  match ← handleOf? channel with
  | none => return false
  | some n => writeToHandle n s

/-- Writes octets to the channel for errors. -/
def writeError (s : Octets) : Run Unit := do
  let _ ← writeTo 2 s

/-- Writes octets when the command comes to its end. -/
def write (s : Octets) : Run Unit := modify fun sh => { sh with unwritten := s :: sh.unwritten }

/-- Writes a line when the command comes to its end. -/
def writeLine (s : Octets) : Run Unit := write (s ++ ['\n'])

/-- Writes what was not written yet, and tells whether this was possible. -/
def flush : Run Bool := do
  let s := (← get).unwritten.reverse.flatten
  modify fun sh => { sh with unwritten := [] }
  if s.isEmpty then return true else writeTo 1 s

/-- What is in a pipe, or nothing if nobody writes to it any more. -/
def lookInPipe (pipe : Nat) : Run (Option Octets) := do
  publish
  let system := (← get).system
  if (system.pipe pipe).size ≠ 0 then
    changeSystem fun system => system.changePipe pipe (·.settled)
    return some ((← get).system.pipe pipe).front
  else if system.hasWriter pipe then return none
  else return some []

/-- What can be read from a handle; nothing at its end. -/
def available (n : Nat) : Run Octets := do
  let sh ← get
  match sh.system.handles[n]? with
  | none => return []
  | some h =>
    if !h.canRead then return []
    else
      match h.stream with
      | .file p offset => return (Handle.contentAt sh.system.files p).drop offset
      | .device _ => return []
      | .pipe pipe => await (.input pipe) (lookInPipe pipe) patience

/-- Leaves octets behind that were read. -/
def skip (n count : Nat) : Run Unit := changeSystem fun system =>
  match system.handles[n]? with
  | none => system
  | some h =>
    match h.stream with
    | .file p offset =>
      let h := { h with stream := .file p (offset + count) }
      { system with handles := system.handles.setIfInBounds n h }
    | .device _ => system
    | .pipe pipe => system.changePipe pipe (·.drop count)

/-- Reads all from a handle after some parts that were read, of which the last one is in front.
There are at most so many parts. -/
def readAll (n : Nat) : Nat → List Octets → Run Octets
  | 0, parts => return parts.reverse.flatten
  | count + 1, parts => do
    match ← available n with
    | [] => return parts.reverse.flatten
    | s =>
      skip n s.length
      readAll n count (s :: parts)

/-- There are fewer parts than this of what is read from a handle. -/
def partLimit : Nat := 1000000000

/-! ### Complaints -/

/-- Writes a complaint: the script, the line and the command in front of the message. -/
def complain (message : Octets) : Run Unit := do
  let sh ← get
  let command := match sh.running with
    | some name => name ++ ": ".toList
    | none => []
  writeError (sh.name ++ ": ".toList ++ numberText sh.line ++ ": ".toList ++ command ++ message ++
    ['\n'])

/-- Stops with an exit code after a complaint. -/
def stopWith {α : Type} (status : Nat) (stop : Stop) (message : Octets) : Run α := do
  complain message
  let _ ← flush
  setStatus status
  throw stop

/-- Fails after a complaint. -/
def fail {α : Type} (message : Octets) : Run α := stopWith 2 .failed message

/-- Fails because of a text that is no number. -/
def failNumber {α : Type} (s : Octets) : Run α := fail ("Illegal number: ".toList ++ s)

/-- Fails because the script cannot be read. -/
def failReading {α : Type} (line : Nat) (message : String) : Run α := do
  modify fun sh => { sh with line := line }
  fail ("Syntax error: " ++ message).toList

/-! ### Settings -/

/-- Whether a setting is on. -/
def has (s : Setting) : Run Bool := do return (← get).settings.contains s

/-- Turns a setting on or off.  The two ways to edit exclude each other. -/
def turn (s : Setting) (isOn : Bool) : Run Unit := modify fun sh =>
  let others := sh.settings.filter fun t =>
    t ≠ s && !(isOn && s = .editsLikeVi && t = .editsLikeEmacs) &&
      !(isOn && s = .editsLikeEmacs && t = .editsLikeVi)
  { sh with settings := if isOn then s :: others else others }

/-- The number of a new program. -/
def newNumber : Run Nat := modifyGet fun sh =>
  let n := sh.system.nextNumber
  (n, { sh with system := { sh.system with nextNumber := n + 1 } })

end Run

end CompilerFlags.Script
