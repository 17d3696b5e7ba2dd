import CompilerFlags.CommandLine.Run
import CompilerFlags.Host.Machine

/-!
# What a run needs to see of a machine

Before a run the files that it may look at are copied into memory, and afterwards the changes are
written back.  `wantedFiles` names the files to copy: those of settings, requests and flags, and the
programs under the names that a run looks for.  `changes` lists what is different afterwards; the
scratch directory is forgotten.
-/

namespace CompilerFlags

/-- The variables that a run looks at. -/
def wantedVariables : List String :=
  ["PATH", "HOME", "TMPDIR", "CC", "CXX", "PTHREAD_CFLAGS", "PTHREAD_LIBS",
    CommandLine.stateVariable]

/-- The names of the programs that a run looks for by itself. -/
def usualPrograms : List String :=
  ["cc", "gcc", "clang", "c++", "g++", "clang++", "pthread-config"]

namespace Machine

variable (m : Machine)

/-- The paths to the files of settings, requests and flags that a command looks at. -/
def dataPaths (invocation : Invocation) : List String :=
  let root := m.directory
  let requests := match invocation.task with
    | .configure path _ => path.toList
    | _ => []
  m.world.userSettings?.toList ++ requests ++
    [Path.toolchainFile root, Path.requestsFile root, invocation.options.statePath root]

/-- The paths to programs with some names. -/
def programPaths (names : List String) : List String :=
  names.flatMap fun name =>
    (Files.programPaths m.directory m.home (m.valueOf? "PATH") name).map
      (Path.absolute m.directory)

/-- The compilers that settings or the environment name. -/
def namedCompilers (settings : Settings) : List String :=
  settings.cc.toList ++ settings.cxx.toList ++ (m.valueOf? "CC").toList ++
    (m.valueOf? "CXX").toList

/-- The directory in which the scratch directory is made. -/
def scratchParent : String :=
  (Path.parent? m.scratchPath).getD "/"

/-- Copies a file from outside, together with the directories that lead to it. -/
def copyIn (path : String) (content : Octets) (executable : Bool) (f : Files) : Files :=
  let f := (f.makeDirectories m.place ((Path.parent? path).getD "")).2
  match f.placeToWrite m.place (Octets.encode path) with
  | .ok p => f.put p (.file content executable)
  | .error _ => f

/-- The files of a machine on which nothing but its directories is known. -/
def bare : Files :=
  ((Files.empty.makeDirectories [] m.directory).2.makeDirectories [] m.scratchParent).2

/-- Whether a place is in the scratch directory. -/
def isScratch (p : Place) : Bool :=
  (Place.ofPath (Octets.encode m.scratchPath)).isPrefixOf p

/-- What is different after a run: directories that were made, and files with new contents. -/
def changes (before after : Files) : List (Place × Entry) :=
  after.listing.filter fun e =>
    !m.isScratch e.1 && !(before.at? e.1).any fun old => old.isLike e.2

end Machine

end CompilerFlags
