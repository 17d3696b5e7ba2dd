import CompilerFlags.Script.FileNames
import CompilerFlags.Script.Options

/-!
# What the names of commands stand for

A name may be an alias, a keyword, a command of the script or of the shell, or a program in one of
the directories of the search path.  A program that was found is remembered with the number of its
directory.
-/

namespace CompilerFlags.Script.Builtin

/-! ### Programs -/

/-- The paths that a name may stand for. -/
def programPaths (searchPath name : Octets) : List Octets :=
  (searchPath.splitOnP (· = ':')).map fun d =>
    let d := d.takeWhile (· ≠ '%')
    if d.isEmpty then name else d ++ '/' :: name

/-- The number of the first path that leads to a file, after some paths that were tried.  If there
is none, this is for the given reason, or for one that is found. -/
def fileIndex (sh : Shell) : Nat → OsError → List Octets → Except OsError Nat
  | _, reason, [] => .error reason
  | n, reason, path :: rest =>
    match sh.find path with
    | .ok (_, .file _ _) => .ok n
    | .ok _ => fileIndex sh (n + 1) .denied rest
    | .error .missing => fileIndex sh (n + 1) reason rest
    | .error .notDirectory => fileIndex sh (n + 1) reason rest
    | .error e => fileIndex sh (n + 1) e rest

/-- Remembers where a program was found, or forgets it. -/
def remember (name : Octets) (index : Option Nat) : Run Unit := modify fun sh =>
  match index with
  | none => { sh with found := sh.found.filter (·.1 ≠ name) }
  | some i =>
    if (sh.found.lookup name).isSome then
      { sh with found := sh.found.map fun f => if f.1 = name then (name, i, false) else f }
    else { sh with found := sh.found ++ [(name, i, false)] }

/-- The number of the directory in which a program is, in the search path or in another one. -/
def locate (name : Octets) (otherPath : Option Octets) : Run (Except OsError Nat) := do
  let sh ← get
  match otherPath with
  | some path => return fileIndex sh 0 .missing (programPaths path name)
  | none =>
    match sh.found.lookup name with
    | some (index, false) => return .ok index
    | _ =>
      let found := fileIndex sh 0 .missing (programPaths (← Run.searchPath) name)
      remember name found.toOption
      return found

/-- What is said of a name that stands for no program. -/
def programReason : OsError → Octets
  | .missing => "not found".toList
  | .notDirectory => "not found".toList
  | e => reasonOf e

/-- The place of a name in the lists that are shown, which depends on its octets. -/
def bucketOf (count : Nat) (name : Octets) : Nat :=
  let first := (name.headD '\x00').toNat * 16
  (name.foldl (fun n c => n + c.toNat) first % 32768) % count

/-- Names with what belongs to them in the order in which they are shown. -/
def inBuckets {α : Type} (count : Nat) (entries : List (Octets × α)) : List (Octets × α) :=
  entries.mergeSort fun a b => bucketOf count a.1 ≤ bucketOf count b.1

/-- Looks for a program, and complains if there is none. -/
def findProgram (name : Octets) (otherPath : Option Octets) : Run (Option Nat) := do
  match ← locate name otherPath with
  | .ok index => return some index
  | .error e =>
    Run.complain (name ++ ": ".toList ++ programReason e)
    return none

/-- The command `hash`: looks for programs, or tells which ones were found. -/
def hashCommand (isBuiltin : Octets → Bool) (arguments : List Octets) : Run Nat := do
  let (options, names) ← Options.read [('r', false)] arguments
  if !options.isEmpty then
    modify fun sh => { sh with found := [] }
    return 0
  else if names.isEmpty then
    let searchPath ← Run.searchPath
    (inBuckets 31 (← get).found).forM fun (name, index, isOld) =>
      let path := ((programPaths searchPath name)[index]?).getD name
      Run.writeLine (path ++ if isOld then ['*'] else [])
    return 0
  else
    let codes ← names.mapM fun name => do
      remember name none
      if name.contains '/' || isBuiltin name || ((← get).functions.lookup name).isSome then return 0
      else return if (← findProgram name none).isSome then 0 else 1
    return codes.foldl max 0

/-! ### Aliases -/

/-- Shows an alias. -/
def showAlias (name value : Octets) : Run Unit := Run.writeLine (name ++ '=' :: quoted value)

/-- Gives a name a text that is read in its place. -/
def setAlias (name value : Octets) : Run Unit := modify fun sh =>
  if (sh.aliases.lookup name).isSome then
    { sh with aliases := sh.aliases.map fun a => if a.1 = name then (name, value) else a }
  else { sh with aliases := sh.aliases ++ [(name, value)] }

/-- Complains about a name that is no alias. -/
def complainOfAlias (command : String) (name : Octets) : Run Nat := do
  Run.writeError (command.toList ++ ": ".toList ++ name ++ " not found\n".toList)
  return 1

/-- Sets an alias, or shows it. -/
def aliasOne (text : Octets) : Run Nat := do
  let (name, value) := match splitAssignment text.tail with
    | (start, some value) => (text.take 1 ++ start, some value)
    | (_, none) => (text, none)
  match value with
  | some value =>
    setAlias name value
    return 0
  | none =>
    match (← get).aliases.lookup name with
    | some value =>
      showAlias name value
      return 0
    | none => complainOfAlias "alias" name

/-- The command `alias`: sets aliases, or shows them. -/
def aliasCommand (arguments : List Octets) : Run Nat := do
  if arguments.isEmpty then
    (inBuckets 39 (← get).aliases).forM fun a => showAlias a.1 a.2
    return 0
  else
    let codes ← arguments.mapM aliasOne
    return codes.foldl max 0

/-- Takes an alias away. -/
def unaliasOne (name : Octets) : Run Nat := do
  if ((← get).aliases.lookup name).isSome then
    modify fun sh => { sh with aliases := sh.aliases.filter (·.1 ≠ name) }
    return 0
  else complainOfAlias "unalias" name

/-- The command `unalias`: takes aliases away.  What stands behind the letter for all of them does
not count. -/
def unaliasCommand (arguments : List Octets) : Run Nat := do
  match arguments with
  | ('-' :: 'a' :: _) :: _ =>
    modify fun sh => { sh with aliases := [] }
    return 0
  | _ =>
    let codes ← (← Options.after arguments).mapM unaliasOne
    return codes.foldl max 0

/-! ### Descriptions -/

/-- The path of a program that is looked for in a search path, and whether it was known before. -/
def knownPath? (name : Octets) (otherPath : Option Octets) : Run (Option (Octets × Bool)) := do
  if name.contains '/' then
    return if ((← get).find name).isOk then some (name, false) else none
  else
    let searchPath ← match otherPath with
      | some path => pure path
      | none => Run.searchPath
    let sh ← get
    let known := if otherPath.isSome then none else sh.found.lookup name
    let index : Option Nat ← match known with
      | some (index, _) => pure (some index)
      | none => pure (← locate name otherPath).toOption
    return index.map fun i => (((programPaths searchPath name)[i]?).getD name, known.isSome)

/-- Tells what a name stands for, in words or by what a script can use, and the exit code.  Whether
it is a command of the shell itself is known, and whether this is a special one. -/
def describe (builtin : Option Bool) (inWords : Bool) (otherPath : Option Octets) (name : Octets) :
    Run Nat := do
  let sh ← get
  let say (words : Octets) : Run Nat := do
    Run.writeLine (if inWords then name ++ words else name)
    return 0
  if keywords.contains (String.ofList name) then say " is a shell keyword".toList
  else
    match sh.aliases.lookup name, sh.functions.lookup name, builtin with
    | some value, _, _ =>
      if inWords then say (" is an alias for ".toList ++ value)
      else
        Run.write "alias ".toList
        showAlias name value
        return 0
    | none, some _, _ => say " is a shell function".toList
    | none, none, some isSpecial =>
      say (if isSpecial then " is a special shell builtin" else " is a shell builtin").toList
    | none, none, none =>
      match ← knownPath? name otherPath with
      | some (path, isKnown) =>
        let words := if isKnown then " is a tracked alias for ".toList else " is ".toList
        Run.writeLine (if inWords then name ++ words ++ path else path)
        return 0
      | none =>
        if inWords then Run.writeLine (name ++ ": not found".toList)
        return 127

/-- The command `type`: tells what names stand for. -/
def typeCommand (builtin : Octets → Option Bool) (arguments : List Octets) : Run Nat := do
  let codes ← arguments.mapM fun name => describe (builtin name) true none name
  return codes.foldl (· ||| ·) 0

/-- The search path on which the usual programs are. -/
def usualPath : Octets :=
  "/usr/local/sbin:/usr/local/bin:/usr/sbin:/usr/bin:/sbin:/bin".toList

/-- The command `command` where it tells what a name stands for. -/
def commandCommand (builtin : Octets → Option Bool) (arguments : List Octets) : Run Nat := do
  let (options, names) ← Options.read [('p', false), ('v', false), ('V', false)] arguments
  let has (c : Char) : Bool := options.any (·.1 = c)
  match names with
  | name :: _ =>
    if has 'v' || has 'V' then
      describe (builtin name) (has 'V') (if has 'p' then some usualPath else none) name
    else return 0
  | [] => return 0

end CompilerFlags.Script.Builtin
