import CompilerFlags.Host.Executable

/-!
# Finding programs by name

A name of more than one part is a path, seen from the working directory.  Any other name is looked
for in the directories of the search path, in their order.  What is found is told as a path that
starts at the root, and it counts only if it is a file that is marked as a program.

In a directory of the search path a tilde in front stands for the home directory.
-/

namespace CompilerFlags

namespace Path

/-- A part of a path as it is written. -/
def Part.text : Part → String
  | .root => "/"
  | .here => "."
  | .up => ".."
  | .name s => s

/-- A path with more parts at its end. -/
def extend (p : String) (more : List Part) : String :=
  more.foldl (fun p part => join p part.text) p

/-- The parts of a path without the dot in front. -/
def partsWithoutHere (p : String) : List Part :=
  (parts p).dropWhile fun
    | .here => true
    | _ => false

/-- A path as it is seen from the root, if it is now seen from a directory. -/
def absolute (directory p : String) : String :=
  if isAbsolute p then p else extend directory (partsWithoutHere p)

/-- A path with the home directory in the place of a tilde in front. -/
def expandTilde (home : Option String) (p : String) : String :=
  match home, parts p with
  | some home, .name "~" :: rest => extend home rest
  | _, _ => p

end Path

namespace Files

/-- The paths that a name may stand for. -/
def programPaths (directory : String) (home searchPath : Option String) (name : String) :
    List String :=
  if 1 < (Path.parts name).length then [Path.absolute directory name]
  else
    match searchPath with
    | none => []
    | some directories =>
      (Text.splitAt ':' directories).map fun d => Path.join (Path.expandTilde home d) name

end Files

end CompilerFlags
