import CompilerFlags.Host.Snapshot

/-!
# The program

Copies what a run needs into memory, runs the command line there, writes the changes back, and
prints what the run has written.
-/

namespace CompilerFlags.Program

/-- The values of the variables that a run looks at. -/
def readVariables : IO (List (String × String)) := do
  let values ← wantedVariables.mapM fun name => do
    return (← IO.getEnv name).map fun value => (name, value)
  return values.filterMap id

/-- The octets of a file, if it can be read. -/
def readOctets (path : String) : IO (Option Octets) := do
  try
    let bytes ← IO.FS.readBinFile path
    return some (bytes.toList.map fun b => Char.ofNat b.toNat)
  catch _ => return none

/-- Copies files into memory as far as they can be read. -/
def copyAll (m : Machine) (executable : Bool) (paths : List String) (f : Files) : IO Files :=
  paths.foldlM (fun f path => do
    match ← readOctets path with
    | some content => return m.copyIn path content executable f
    | none => return f) f

/-- Copies what a command needs into memory. -/
def copyIn (m : Machine) (invocation : Invocation) : IO Files := do
  let data ← copyAll m false (m.dataPaths invocation) m.bare
  let settings := m.world.projectSettings m.directory data
  copyAll m true (m.programPaths (usualPrograms ++ m.namedCompilers settings)) data

/-- Writes a change back. -/
def writeBack (change : Place × Entry) : IO Unit := do
  let path := Octets.decodeLossy change.1.path
  match change.2 with
  | .directory _ => IO.FS.createDirAll path
  | .file content _ =>
    IO.FS.writeBinFile path ⟨(content.map fun c => UInt8.ofNat c.toNat).toArray⟩
  | .device _ => return ()

/-- The machine that the program runs on. -/
def thisMachine : IO Machine := do
  let directory ← IO.currentDir
  let terminal ← (← IO.getStderr).isTty
  return ⟨"x86_64", "linux", directory.toString, terminal, ← readVariables, "flagprobe-scratch"⟩

/-- Prints what a run has written. -/
def printOutput (o : Output) : IO Unit := do
  IO.print o.stdout
  IO.eprint o.stderr

/-- Runs the command line. -/
def run (arguments : List String) : IO UInt32 := do
  let m ← thisMachine
  let state := m.valueOf? CommandLine.stateVariable
  let before ← match CommandLine.readArguments state arguments with
    | .ok invocation => copyIn m invocation
    | .error _ => pure m.bare
  let ended := CommandLine.run m.world arguments before
  (m.changes before ended.world).forM writeBack
  printOutput ended.output
  return UInt32.ofNat ended.code

end CompilerFlags.Program

/-- Runs the command line with the arguments of the program. -/
def main (arguments : List String) : IO UInt32 :=
  CompilerFlags.Program.run arguments
