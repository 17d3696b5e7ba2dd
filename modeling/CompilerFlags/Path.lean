import CompilerFlags.Text

/-!
# Paths

A path is a text whose pieces are separated by slashes.  Empty pieces and pieces that are a single
dot lead nowhere and are passed over, except that a leading dot in a relative path is a part of it.
These functions read and build paths as texts; no file is looked at.
-/

namespace CompilerFlags.Path

/-- Whether a path starts at the root. -/
def isAbsolute (p : String) : Bool := Text.starts "/" p

/-- The path `p` as seen from the directory `base`. -/
def join (base p : String) : String :=
  if isAbsolute p then p
  else if base.isEmpty || Text.ends "/" base then base ++ p
  else base ++ "/" ++ p

/-- A part of a path. -/
inductive Part
  | root
  /-- The dot that a relative path starts with. -/
  | here
  | up
  | name (s : String)
deriving DecidableEq, Repr

/-- The part that a piece between slashes stands for. -/
def partOf? (piece : String) : Option Part :=
  if piece.isEmpty || piece = "." then none
  else if piece = ".." then some .up
  else some (.name piece)

/-- The parts of a path. -/
def parts (p : String) : List Part :=
  let pieces := Text.splitAt '/' p
  (if isAbsolute p then [Part.root] else if pieces.head? = some "." then [.here] else []) ++
    pieces.filterMap partOf?

/-- The name at the end of a path. -/
def fileName? (p : String) : Option String :=
  match (parts p).getLast? with
  | some (.name s) => some s
  | _ => none

/-- A name without its extension: the part before the last dot, unless the name starts with it. -/
def stem (name : String) : String :=
  match (name.toList.reverse.dropWhile (· ≠ '.')).tail.reverse with
  | [] => name
  | cs => String.ofList cs

/-- The name at the end of a path without its extension. -/
def fileStem? (p : String) : Option String :=
  (fileName? p).map stem

/-- The pieces of a path without those at the end that lead nowhere; `first` tells whether the list
starts with the first piece of a relative path. -/
def dropIdle (first : Bool) (pieces : List String) : List String :=
  match pieces with
  | [] => []
  | piece :: rest =>
    match dropIdle false rest with
    | [] => if piece.isEmpty || (piece = "." && !first) then [] else [piece]
    | rest => piece :: rest

/-- The path without its last part, as it is written. -/
def parent? (p : String) : Option String :=
  let absolute := isAbsolute p
  let pieces := Text.splitAt '/' p
  let body := dropIdle (!absolute) (if absolute then pieces.tail else pieces)
  if body.isEmpty then none
  else
    some ((if absolute then "/" else "") ++
      Text.join "/" (dropIdle (!absolute) body.dropLast))

/-- The directory that holds the settings of a project or of a user. -/
def settingsDirectory : String := ".flagprobe"

/-- A file in the settings directory under `root`. -/
def settingsFile (root name : String) : String :=
  join (join root settingsDirectory) name

/-- The file with the toolchain settings under `root`. -/
def toolchainFile (root : String) : String := settingsFile root "toolchain.toml"

/-- The file with the requests of the project under `root`. -/
def requestsFile (root : String) : String := settingsFile root "requests.toml"

/-- The file with the flags recorded for the project under `root`. -/
def stateFile (root : String) : String := settingsFile root "flags.toml"

end CompilerFlags.Path
