import CompilerFlags.Script.Expansion

/-!
# Redirections

A redirection changes where a channel leads while a command runs.  First the words of all
redirections are expanded, then the files are opened one after another.  A file that cannot be
opened keeps the command from running.
-/

namespace CompilerFlags.Script

namespace Redirection

/-- What is said of a file that cannot be opened. -/
def openReason (opening : Opening) (e : OsError) : Octets :=
  match e, opening with
  | .missing, .read => "No such file".toList
  | .missing, _ => "Directory nonexistent".toList
  | .notDirectory, .read => "No such file".toList
  | .notDirectory, _ => "Directory nonexistent".toList
  | e, _ => reasonOf e

/-- The complaint about a file that cannot be opened. -/
def openComplaint (opening : Opening) (path : Octets) (e : OsError) : Octets :=
  (if opening = .read then "cannot open " else "cannot create ").toList ++ path ++
    ": ".toList ++ openReason opening e

/-- Expands the words of a redirection. -/
def prepare : Redirection → Run Prepared
  | .file channel opening name => return .file channel opening (← Expansion.whole name)
  | .text channel number => return .text channel number
  | .copy channel source => return .copy channel source
  | .close channel => return .close channel
  | .copyNamed channel source => do
    match ← Expansion.whole source with
    | ['-'] => return .close channel
    | [c] =>
      if c.isDigit then return .copy channel (Numeral.digit c)
      else Run.failReading (← get).lineRead "Bad fd number"
    | _ => Run.failReading (← get).lineRead "Bad fd number"

/-- The handle that results when what is found at a place is opened, and the files after that.  A
file may have to be spared if it is there. -/
def openEntry (sh : Shell) (opening : Opening) (p : Place) (e : Option Entry) :
    Except OsError (Files × Handle) := do
  let files := sh.system.files
  let handle := Handle.opened p (e.getD (.file [] false)) (opening = .read || opening = .both)
    (opening ≠ .read) (opening = .append)
  match e with
  | some (.file _ _) =>
    if opening = .write && sh.settings.contains .sparesFiles then .error .present else .ok ()
  | some (.device .terminal) => .error .noDevice
  | none => if opening = .read then .error .missing else .ok ()
  | _ => .ok ()
  if opening = .write || opening = .replace then .ok (files.modify p fun _ => [], handle)
  else if opening = .read then .ok (files, handle)
  else .ok (files.modify p id, handle)

/-- The handle that results when another one is opened once more, and the files after that. -/
def openAgain (sh : Shell) (opening : Opening) (h : Handle) : Except OsError (Files × Handle) :=
  match h.stream with
  | .file p _ => openEntry sh opening p (sh.system.files.at? p)
  | stream =>
    .ok (sh.system.files, ⟨stream, opening = .read || opening = .both, opening ≠ .read, false⟩)

/-- The handle that results when a path is opened, and the files after that. -/
def openPath (sh : Shell) (opening : Opening) (path : Octets) :
    Except OsError (Files × Handle) := do
  let files := sh.system.files
  let p ← if opening = .read then files.resolve sh.place path
    else files.placeToWrite sh.place path
  let e := files.at? p
  match sh.channelAt? p e with
  | none => openEntry sh opening p e
  | some handle =>
    match handle.bind fun n => sh.system.handles[n]? with
    | some h => openAgain sh opening h
    | none => .error .missing

/-- Opens a file for a channel. -/
def openFile (channel : Nat) (opening : Opening) (path : Octets) : Run Unit := do
  match openPath (← get) opening path with
  | .error e => Run.fail (openComplaint opening path e)
  | .ok (files, h) =>
    Run.changeSystem fun system => { system with files := files }
    Run.replace channel (some (← Run.addHandle h))

/-- The handle from which a text is read.  A text that is too long for a pipe needs a program that
writes it. -/
def openText (s : Octets) : Run Nat := do
  let pipe ← Run.addPipe .empty
  if s.length ≤ Pipe.unit then
    Run.changeSystem fun system => system.changePipe pipe (·.push s)
  else
    let writer ← Run.addHandle (.writer pipe)
    let ignored := [1, 2, 3, 20]
    let _ ← Run.startPart none
      (fun m => { m.setChannel 1 (some writer) with ignored := ignored ++ m.ignored }) (.writer s)
  Run.addHandle (.reader pipe)

/-- What can be read from the file at a path. -/
def contentOf (path : Octets) : Run Octets := do
  match openPath (← get) .read path with
  | .error e => Run.fail (openComplaint .read path e)
  | .ok (_, h) =>
    let n ← Run.addHandle h
    Run.readAll n Run.partLimit []

/-- Fails because there is nothing where a channel should lead.  If the channel gets its handle back
later, it is closed by then, even if it is the one for complaints. -/
def failToCopy (channel source : Nat) : Run Unit := do
  if ((← get).replaced.head?.any fun first => (first.lookup channel).isNone) then
    Run.replace channel none
  Run.fail (numberText source ++ ": Bad file descriptor".toList)

/-- Changes a channel. -/
def apply : Prepared → Run Unit
  | .file channel opening path => openFile channel opening path
  | .text channel number => do
    let w := ((← get).texts.lookup number).getD []
    let s ← Expansion.below w
    Run.replace channel (some (← openText s))
  | .copy channel source => do
    if channel ≠ source then
      match ← Run.handleOf? source with
      | some h => Run.replace channel (some h)
      | none => failToCopy channel source
  | .close channel => Run.replace channel none

/-- Changes channels one after another, as long as this is possible, and tells whether it was. -/
def applyAll (changes : List Prepared) : Run Bool := do
  match ← Run.attempt (changes.forM apply) with
  | .ok _ => return true
  | .error .failed => return false
  | .error stop => throw stop

end Redirection

end CompilerFlags.Script
