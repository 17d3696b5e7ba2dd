import CompilerFlags.Host.Lookup
import CompilerFlags.Script.Schedule

/-!
# A machine in memory

A machine has files in memory and runs scripts.  It is the surroundings of a run whose state is the
tree of files; its variables and its working directory do not change.
-/

namespace CompilerFlags

/-- What does not change on a machine. -/
structure Machine where
  arch : String
  os : String
  /-- The path of the working directory from the root, without detours. -/
  directory : String
  terminal : Bool
  environment : List (String × String)
  /-- The name of the scratch directory. -/
  scratchName : String

namespace Machine

variable (m : Machine)

/-- The place of the working directory. -/
def place : Place := .ofPath (Octets.encode m.directory)

/-- The value of a variable. -/
def valueOf? (name : String) : Option String := m.environment.lookup name

/-- The variables in octets. -/
def octets : List (Octets × Octets) :=
  m.environment.map fun v => (Octets.encode v.1, Octets.encode v.2)

/-- The home directory. -/
def home : Option String := (m.valueOf? "HOME").filter (!·.isEmpty)

/-- The program that is found under a name. -/
def findProgram? (name : String) (f : Files) : Option String :=
  ((Files.programPaths m.directory m.home (m.valueOf? "PATH") name).find?
    fun path => f.isProgram m.place (Octets.encode path)).map (Path.absolute m.directory)

/-- The place in which a command runs. -/
def placeOf (directory : Option String) (f : Files) : Except OsError Place :=
  match directory with
  | none => .ok m.place
  | some d => do
    let p ← f.resolve m.place (Octets.encode d)
    f.requireDirectory p
    .ok p

/-- Fails if a text holds the character that ends texts. -/
def requireNoNul (texts : List String) : Except OsError Unit :=
  if texts.any fun s => s.toList.contains '\x00' then .error .nulInName else .ok ()

/-- The call of the shell for a command, and the place in which it runs. -/
def prepare (c : Command) (directory : Option String) (f : Files) :
    Except OsError (Place × ShellCall) := do
  requireNoNul (c.program :: c.arguments)
  let p ← m.placeOf directory f
  let searchPath := (m.valueOf? "PATH").map Octets.encode
  let call ← f.callOf p m.octets searchPath (Octets.encode c.program)
    (c.arguments.map Octets.encode)
  .ok (p, call)

/-- What a script has answered, as texts. -/
def finished (a : Script.Answer) : Finished :=
  ⟨a.code, Octets.decodeLossy a.output, Octets.decodeLossy a.errors⟩

/-- Runs a command. -/
def run (c : Command) (directory : Option String) (f : Files) : Except OsError Finished × Files :=
  match m.prepare c directory f with
  | .error e => (.error e, f)
  | .ok (p, call) =>
    let answer := Script.run call p m.octets f
    (.ok (finished answer), answer.files)

/-- The path of the scratch directory. -/
def scratchPath : String :=
  Path.join (Path.absolute m.directory ((m.valueOf? "TMPDIR").getD "/tmp")) m.scratchName

/-- Makes the scratch directory. -/
def makeScratch (f : Files) : Except OsError String × Files :=
  let made := f.makeDirectory m.place (Octets.encode m.scratchPath)
  (made.1.map fun _ => m.scratchPath, made.2)

/-- The machine as the surroundings of a run. -/
def world : World Files where
  arch := m.arch
  os := m.os
  directory := m.directory
  terminal := m.terminal
  valueOf? := m.valueOf?
  isPresent path f := f.isPresent m.place (Octets.encode path)
  readText path f := f.readText m.place (Octets.encode path)
  makeDirectories path f := f.makeDirectories m.place path
  writeText path text f := f.write m.place (Octets.encode path) (Octets.encode text)
  makeScratch := m.makeScratch
  findProgram? := m.findProgram?
  run := m.run

end Machine

end CompilerFlags
