import CompilerFlags.Host.Files

/-!
# Programs among the files

A file can be run if it is marked as a program and its first line names an interpreter, perhaps with
one argument for it.  In the end the interpreter has to be the shell, so that running a program
means to call the shell with arguments.  A command without a slash in its name is looked for in the
directories of the search path.

The arguments of a program and the variables that it gets have to fit into the space that there is
for them.
-/

namespace CompilerFlags

/-- A call of the shell: its name and its arguments, in octets. -/
structure ShellCall where
  name : Octets
  arguments : List Octets
deriving DecidableEq, Repr

/-- The usual path of the shell. -/
def shellPath : String := "/bin/sh"

/-- The paths under which the shell is known. -/
def shellPaths : List String := [shellPath, "/usr/bin/sh", "/bin/dash", "/usr/bin/dash"]

/-- Whether an octet is a blank in the first line of a program. -/
def isLineBlank (c : Char) : Bool := c = ' ' || c = '\t'

/-- As many octets of a file are looked at for its first line. -/
def firstLineLimit : Nat := 255

/-- The interpreter that the first line of a program names, with its argument if there is one. -/
def interpreter? (content : Octets) : Option (Octets × List Octets) :=
  match content.take firstLineLimit with
  | '#' :: '!' :: rest =>
    let line := (rest.takeWhile (· ≠ '\n')).reverse.dropWhile isLineBlank |>.reverse
    match (line.dropWhile isLineBlank).span fun c => !isLineBlank c with
    | ([], _) => none
    | (name, rest) =>
      match rest.dropWhile isLineBlank with
      | [] => some (name, [])
      | argument => some (name, [argument])
  | _ => none

/-- Whether an entry is a file that is marked as a program. -/
def Entry.isProgram : Entry → Bool
  | .file _ executable => executable
  | _ => false

/-! ### The space for arguments -/

/-- An argument, or a variable with its value, has fewer octets than this. -/
def argumentLimit : Nat := 131072

/-- So many octets are there for all that a program gets. -/
def argumentSpace : Nat := 2097152

/-- The octets that some texts take: each of them with its end and with its address. -/
def spaceFor (texts : List Octets) : Nat := texts.foldl (fun n s => n + s.length + 9) 0

/-- Whether the texts that a program gets fit into the space for them. -/
def areShortEnough (texts : List Octets) : Bool :=
  texts.all (fun s => s.length < argumentLimit) && spaceFor texts ≤ argumentSpace

/-- How the environment writes a variable. -/
def variableText (v : Octets × Octets) : Octets := v.1 ++ '=' :: v.2

namespace Files

/-! ### Calls of the shell -/

/-- Interpreters have interpreters of their own up to this depth. -/
def interpreterDepth : Nat := 5

/-- Whether a path leads to the shell. -/
def isShell (f : Files) (base : Place) (path : Octets) : Bool :=
  let isKnown (path : Octets) : Bool := String.ofList path ∈ shellPaths
  isKnown path || ((f.resolve base path).map fun p => isKnown p.path).toOption.getD false

/-- The call of the shell for a path with arguments, if fewer interpreters than a number lie in
between. -/
def callWithin (f : Files) (base : Place) :
    Nat → Octets → List Octets → Except OsError ShellCall
  | 0, _, _ => .error .missing
  | depth + 1, path, arguments =>
    if f.isShell base path then .ok ⟨path, arguments⟩
    else do
      match (← f.find base path).2 with
      | .file content true =>
        match interpreter? content with
        | none => .error .notExecutable
        | some (name, argument) => f.callWithin base depth name (argument ++ path :: arguments)
      | _ => .error .denied

/-- Whether a path leads to a file that is marked as a program. -/
def isProgram (f : Files) (base : Place) (path : Octets) : Bool :=
  match f.find base path with
  | .ok (_, e) => e.isProgram
  | .error _ => false

/-- The call of the shell for the program at a path with arguments and an environment. -/
def callAt (f : Files) (base : Place) (environment : List (Octets × Octets)) (path : Octets)
    (arguments : List Octets) : Except OsError ShellCall :=
  let texts := path :: path :: arguments ++ environment.map variableText
  let isThere := f.isShell base path || f.isProgram base path
  if isThere && !areShortEnough texts then .error .argumentsTooLong
  else f.callWithin base (interpreterDepth + 1) path arguments

/-! ### The search path -/

/-- The directories of a search path, none of which is named by the empty text. -/
def searchDirectories (path : Octets) : List Octets := path.splitOn ':'

/-- The path of a command in a directory of the search path. -/
def inDirectory (directory name : Octets) : Octets :=
  if directory.isEmpty then name else directory ++ '/' :: name

/-- The answer of the first of some calls that works.  Calls of what is not there are passed over,
and so are those of what may not be run; any other refusal ends the search. -/
def firstCall (refusal : OsError) : List (Except OsError ShellCall) → Except OsError ShellCall
  | [] => .error refusal
  | .ok call :: _ => .ok call
  | .error .missing :: rest => firstCall refusal rest
  | .error .notDirectory :: rest => firstCall refusal rest
  | .error .denied :: rest => firstCall .denied rest
  | .error e :: _ => .error e

/-- The search path where none is set. -/
def usualSearchPath : Octets := "/bin:/usr/bin".toList

/-- The call of the shell for a command. -/
def callOf (f : Files) (base : Place) (environment : List (Octets × Octets))
    (searchPath : Option Octets) (name : Octets) (arguments : List Octets) :
    Except OsError ShellCall :=
  if name.isEmpty then .error .missing
  else if name.contains '/' then f.callAt base environment name arguments
  else
    firstCall .missing ((searchDirectories (searchPath.getD usualSearchPath)).map fun d =>
      f.callAt base environment (inDirectory d name) arguments)

end Files

end CompilerFlags
