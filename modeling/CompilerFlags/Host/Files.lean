import CompilerFlags.Data.Octets
import CompilerFlags.Path
import CompilerFlags.World

/-!
# Files in memory

`Files` is a tree of files and directories that is kept in memory.  An entry has a place, the list
of names that lead to it from the root, and paths lead to places.  Names and paths are rows of
octets, which need not be texts.  `Files.resolve` walks along a path as an operating system does:
each name on the way has to be a directory, and two dots lead back to the directory above.

There are no links, so that a place is reached by the names in it and by no others.
-/

namespace CompilerFlags

/-- The names that lead from the root to an entry. -/
abbrev Place := List Octets

/-- The path of a place from the root. -/
def Place.path (p : Place) : Octets :=
  if p.isEmpty then ['/'] else p.flatMap ('/' :: ·)

/-- The place to which a path leads from the root if it makes no detours. -/
def Place.ofPath (path : Octets) : Place := (path.splitOn '/').filter (!·.isEmpty)

/-- What is no file but behaves like one. -/
inductive Device
  /-- What is written here is forgotten, and nothing can be read. -/
  | sink
  /-- There is no end of zeros to read. -/
  | zeros
  /-- Nothing fits in here. -/
  | full
  /-- The terminal, which there is not. -/
  | terminal
  /-- What is written here is read elsewhere. -/
  | pipe
  /-- What a channel of the program that asks leads to. -/
  | channel (n : Nat)
deriving DecidableEq, Repr

/-- Something that is found at a place. -/
inductive Entry
  /-- A directory with what is in it, by name. -/
  | directory (entries : List (Octets × Entry))
  | file (content : Octets) (executable : Bool)
  | device (d : Device)

namespace Entry

/-- A directory with nothing in it. -/
def emptyDirectory : Entry := directory []

/-- What is found below an entry. -/
def at? : Entry → Place → Option Entry
  | e, [] => some e
  | directory entries, name :: p => (entries.lookup name).bind fun e => e.at? p
  | _, _ :: _ => none

/-- Puts an entry under a name, instead of the one that is there. -/
def putNamed (name : Octets) (e : Entry) : List (Octets × Entry) → List (Octets × Entry)
  | [] => [(name, e)]
  | d :: rest => if d.1 = name then (name, e) :: rest else d :: putNamed name e rest

/-- Puts an entry at a place below another one.  All that lead to it have to be directories. -/
def put (new : Entry) : Place → Entry → Entry
  | [], _ => new
  | name :: p, directory entries =>
    directory (putNamed name (put new p ((entries.lookup name).getD emptyDirectory)) entries)
  | _ :: _, e => e

mutual

/-- An entry at a place with all that is found below it. -/
def listing (place : Place) : Entry → List (Place × Entry)
  | directory entries => (place, directory []) :: listings place entries
  | e => [(place, e)]
termination_by structural e => e

/-- The entries of a directory at a place with all that is found below them. -/
def listings (place : Place) : List (Octets × Entry) → List (Place × Entry)
  | [] => []
  | e :: rest => listingOf place e ++ listings place rest
termination_by structural entries => entries

/-- A named entry of a directory at a place with all that is found below it. -/
def listingOf (place : Place) : Octets × Entry → List (Place × Entry)
  | (name, e) => listing (place ++ [name]) e
termination_by structural e => e

end

/-- Whether two entries are alike.  What is in directories does not matter. -/
def isLike : Entry → Entry → Bool
  | directory _, directory _ => true
  | file content executable, file content' executable' =>
    content = content' && executable = executable'
  | device d, device d' => d = d'
  | _, _ => false

end Entry

/-- Files and directories in memory. -/
structure Files where
  /-- What is in the directory at the root. -/
  entries : List (Octets × Entry)

namespace Files

/-- The directory at the root. -/
def root (f : Files) : Entry := .directory f.entries

/-- The directories of the channels of whoever looks. -/
def channelDirectories : List Place :=
  [["dev".toList, "fd".toList], ["proc".toList, "self".toList, "fd".toList]]

/-- What is found at a place. -/
def at? (f : Files) (p : Place) : Option Entry := f.root.at? p

/-- Puts an entry at a place, instead of the one that is there. -/
def put (f : Files) (p : Place) (e : Entry) : Files :=
  match Entry.put e p f.root with
  | .directory entries => ⟨entries⟩
  | _ => f

/-- The devices, by their names. -/
def devices : List (String × Device) :=
  [("null", .sink), ("zero", .zeros), ("full", .full), ("tty", .terminal), ("stdin", .channel 0),
    ("stdout", .channel 1), ("stderr", .channel 2)]

/-- No files, apart from the devices at their usual places. -/
def empty : Files :=
  let devices := devices.map fun d => (d.1.toList, Entry.device d.2)
  channelDirectories.foldl (·.put · .emptyDirectory) ⟨[("dev".toList, .directory devices)]⟩

/-- All entries with their places. -/
def listing (f : Files) : List (Place × Entry) := Entry.listings [] f.entries

/-- The names of what is in the directory at a place. -/
def namesIn (f : Files) (p : Place) : List Octets :=
  match f.at? p with
  | some (.directory entries) => entries.map (·.1)
  | _ => []

/-- Fails unless there is a directory at a place. -/
def requireDirectory (f : Files) (p : Place) : Except OsError Unit :=
  match f.at? p with
  | some (.directory _) => .ok ()
  | some _ => .error .notDirectory
  | none => .error .missing

/-- The number of octets that a name may have. -/
def nameLimit : Nat := 255

/-- Paths have fewer octets than this. -/
def pathLimit : Nat := 4096

/-- A piece of a path that stays where it is. -/
def isIdle (piece : Octets) : Bool := piece.isEmpty || piece = ['.']

/-- The piece of a path that leads back. -/
def up : Octets := ['.', '.']

/-- Walks from a place along the pieces of a path.  All pieces but the last lead through
directories; what the last one leads to need not be there.  The names that lead to where the walk is
are kept in the reverse order, together with what is found there. -/
def walk (f : Files) : List Octets → Option Entry → List Octets →
    Except OsError (Place × Option Entry)
  | names, e, [] => .ok (names.reverse, e)
  | _, none, _ :: _ => .error .missing
  | names, some (.directory entries), piece :: rest =>
    if isIdle piece then f.walk names (some (.directory entries)) rest
    else if piece = up then
      let above := names.drop 1
      f.walk above (f.at? above.reverse) rest
    else if nameLimit < piece.length then .error .nameTooLong
    else f.walk (piece :: names) (entries.lookup piece) rest
  | _, some _, _ :: _ => .error .notDirectory

/-- The pieces of a path and the place where they start. -/
def start (base : Place) (path : Octets) : Except OsError (Place × List Octets) :=
  if path.isEmpty then .error .missing
  else if path.contains '\x00' then .error .nulInName
  else if pathLimit ≤ path.length then .error .nameTooLong
  else .ok (if path.head? = some '/' then [] else base, path.splitOn '/')

/-- Walks along some pieces of a path from a place. -/
def follow (f : Files) (base : Place) (pieces : List Octets) :
    Except OsError (Place × Option Entry) :=
  f.walk base.reverse (f.at? base) pieces

/-- The place that a path leads to from a base, with what is found there, if there is anything. -/
def locate (f : Files) (base : Place) (path : Octets) : Except OsError (Place × Option Entry) :=
  (start base path).bind fun s => f.follow s.1 s.2

/-- The place that a path leads to from a base.  There need not be anything. -/
def resolve (f : Files) (base : Place) (path : Octets) : Except OsError Place :=
  (f.locate base path).map (·.1)

/-- What a path leads to. -/
def find (f : Files) (base : Place) (path : Octets) : Except OsError (Place × Entry) := do
  match ← f.locate base path with
  | (p, some e) => .ok (p, e)
  | (_, none) => .error .missing

/-- Whether a path leads to something. -/
def isPresent (f : Files) (base : Place) (path : Octets) : Bool :=
  (f.find base path).isOk

/-- The octets of a file. -/
def read (f : Files) (base : Place) (path : Octets) : Except OsError Octets := do
  match (← f.find base path).2 with
  | .directory _ => .error .isDirectory
  | .file content _ => .ok content
  | .device .terminal => .error .noDevice
  | .device _ => .ok []

/-- The text of a file. -/
def readText (f : Files) (base : Place) (path : Octets) : Except OsError String := do
  match Octets.decode? (← f.read base path) with
  | some s => .ok s
  | none => .error .notText

/-- The directory that a path leads to up to its last piece, and the last piece if it is a name. -/
def parentOf (f : Files) (base : Place) (path : Octets) :
    Except OsError (Place × Option Octets) := do
  let (p, pieces) ← start base path
  let last := pieces.getLast?.getD []
  let (parent, e) ← f.follow p pieces.dropLast
  match e with
  | some (.directory _) => .ok ()
  | some _ => .error .notDirectory
  | none => .error .missing
  if isIdle last || last = up then .ok (parent, none)
  else if nameLimit < last.length then .error .nameTooLong
  else .ok (parent, some last)

/-- A path without the slashes at its end. -/
def withoutSlashes (path : Octets) : Octets :=
  match (path.reverse.dropWhile (· = '/')).reverse with
  | [] => path.take 1
  | cs => cs

/-- The place of a file that is to be written.  A slash at the end says that it is a directory. -/
def placeToWrite (f : Files) (base : Place) (path : Octets) : Except OsError Place := do
  let (parent, name) ← f.parentOf base (withoutSlashes path)
  match name with
  | none => .error .isDirectory
  | some name =>
    match f.at? (parent ++ [name]) with
    | some (.directory _) => .error .isDirectory
    | _ => if path.getLast? = some '/' then .error .isDirectory else .ok (parent ++ [name])

/-- Replaces the octets of the file at a place by a function of them.  A file that was not there
was empty, and cannot be run. -/
def modify (f : Files) (p : Place) (change : Octets → Octets) : Files :=
  match f.at? p with
  | some (.file content executable) => f.put p (.file (change content) executable)
  | none => f.put p (.file (change []) false)
  | some _ => f

/-- Writes octets to a file, in the place of the earlier ones. -/
def write (f : Files) (base : Place) (path content : Octets) : Except OsError Unit × Files :=
  match f.placeToWrite base path with
  | .error e => (.error e, f)
  | .ok p => (.ok (), f.modify p fun _ => content)

/-- The place of a directory that is to be made. -/
def placeToMake (f : Files) (base : Place) (path : Octets) : Except OsError Place := do
  let (parent, name) ← f.parentOf base (withoutSlashes path)
  match name with
  | none => .error .present
  | some name =>
    match f.at? (parent ++ [name]) with
    | some _ => .error .present
    | none => .ok (parent ++ [name])

/-- Makes a directory. -/
def makeDirectory (f : Files) (base : Place) (path : Octets) : Except OsError Unit × Files :=
  match f.placeToMake base path with
  | .error e => (.error e, f)
  | .ok p => (.ok (), f.put p .emptyDirectory)

/-- Whether a path leads to a directory. -/
def isDirectory (f : Files) (base : Place) (path : Octets) : Bool :=
  match f.find base path with
  | .ok (_, .directory _) => true
  | _ => false

/-- Makes a directory unless it is there. -/
def ensureDirectory (f : Files) (base : Place) (path : Octets) : Except OsError Unit × Files :=
  let made := f.makeDirectory base path
  if made.1.isOk || made.2.isDirectory base path then (.ok (), made.2) else made

/-- Makes a directory and those that lead to it, of which there are fewer than `steps`. -/
def makeDirectoriesWithin (base : Place) : Nat → String → Files → Except OsError Unit × Files
  | 0, _, f => (.error .missing, f)
  | steps + 1, path, f =>
    if path.isEmpty then (.ok (), f)
    else
      let made := f.ensureDirectory base (Octets.encode path)
      match made.1 with
      | .error .missing =>
        let above := makeDirectoriesWithin base steps ((Path.parent? path).getD "") made.2
        match above.1 with
        | .error e => (.error e, above.2)
        | .ok () => above.2.ensureDirectory base (Octets.encode path)
      | _ => made

/-- Makes a directory and those that lead to it. -/
def makeDirectories (f : Files) (base : Place) (path : String) : Except OsError Unit × Files :=
  makeDirectoriesWithin base (path.length + 1) path f

end Files

end CompilerFlags
