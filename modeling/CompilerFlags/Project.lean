import CompilerFlags.Decode
import CompilerFlags.Failure
import CompilerFlags.Path
import CompilerFlags.Store.File

/-!
# The files of a project

A project keeps its toolchain settings, its requests and the flags that were found in a directory
of its own.  A user may have settings too; those of the project are stronger.

Settings that cannot be read are passed over: an unusable layer is like a missing one.  Flags and
requests that cannot be read are failures, except that flags which were never written are none.
-/

namespace CompilerFlags

namespace World

variable {ω : Type} (w : World ω)

/-- Reads a TOML file and decodes its fields; reading and parsing are different activities. -/
def readToml {α : Type} (reading parsing : Activity) (decode : Value → Option α) (path : String)
    (s : ω) : Except Failure α :=
  match w.readText path s with
  | .error e => .error ⟨[reading], .os e⟩
  | .ok text =>
    match (Toml.parse? text).bind fun fields => decode (.table fields) with
    | none => .error ⟨[parsing], .toml⟩
    | some x => .ok x

/-! ### Settings -/

/-- Reads settings from a file. -/
def loadSettings (path : String) (s : ω) : Except Failure Settings :=
  w.readToml (.readSettings path) (.parseSettings path) (Decode.settingsFile? .toml) path s

/-- The layer of settings in a file, which says nothing if it is missing or unusable. -/
def settingsLayer (path : String) (s : ω) : Settings :=
  if w.isPresent path s then
    match w.loadSettings path s with
    | .ok settings => settings
    | .error _ => .none
  else .none

/-- The settings of a project file over those of the user's file, if there is one. -/
def layeredSettings (user : Option String) (project : String) (s : ω) : Settings :=
  .mergeAll (user.toList.map (w.settingsLayer · s) ++ [w.settingsLayer project s])

/-- The file with the settings of the user, who needs a home directory for it.  Only the variable tells
where that is. -/
def userSettings? : Option String :=
  ((w.valueOf? "HOME").filter (!·.isEmpty)).map Path.toolchainFile

/-- The settings that apply to a project. -/
def projectSettings (root : String) (s : ω) : Settings :=
  w.layeredSettings w.userSettings? (Path.toolchainFile root) s

/-! ### Requests -/

/-- Reads a file of requests. -/
def loadRequests (path : String) (s : ω) : Except Failure (List Request) :=
  w.readToml (.readRequests path) (.parseRequests path) (Decode.requests? .toml) path s

/-! ### Flags -/

/-- The failure of making sense of written flags. -/
def ofFileError : Store.FileError → Failure
  | .notLists => ⟨[.parseFlags], .toml⟩
  | .bucket e => .ofCause (.bucket e)

/-- Reads the flags in a file. -/
def readFlags (path : String) (s : ω) : Except Failure Store :=
  match w.readText path s with
  | .error e => .error ⟨[.readFlags path], .os e⟩
  | .ok text => (Store.ofToml text).mapError fun e => (ofFileError e).during (.loadFlags path)

/-- The flags in a file; none if there is no such file. -/
def loadFlags (path : String) (s : ω) : Except Failure Store :=
  if w.isPresent path s then w.readFlags path s else .ok .empty

/-- Makes the directory that a file of flags is to be written to. -/
def makeStateDirectory (path : String) (s : ω) : Except Failure Unit × ω :=
  match (Path.parent? path).filter (!·.isEmpty) with
  | none => (.ok (), s)
  | some parent =>
    let made := w.makeDirectories parent s
    (made.1.mapError fun e => ⟨[.makeStateDirectory parent], .os e⟩, made.2)

/-- Writes flags to a file, together with the directories that lead to it. -/
def saveFlags (path : String) (store : Store) (s : ω) : Except Failure Unit × ω :=
  let made := w.makeStateDirectory path s
  match made.1 with
  | .error f => (.error f, made.2)
  | .ok () =>
    let written := w.writeText path store.toToml made.2
    (written.1.mapError fun e => ⟨[.writeFlags path], .os e⟩, written.2)

end World

end CompilerFlags
