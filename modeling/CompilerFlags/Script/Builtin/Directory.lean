import CompilerFlags.Host.Executable
import CompilerFlags.Script.Options

/-!
# Commands that deal with the directory and with rights

A script knows its directory by the path on which it came there.  Two dots in a path take back the
name in front of them, without a look at the files.
-/

namespace CompilerFlags.Script.Builtin

/-- Whether a path begins with two slashes and no third one. -/
def hasTwoSlashes : Octets → Bool
  | '/' :: '/' :: c :: _ => c ≠ '/'
  | ['/', '/'] => true
  | _ => false

/-- The names of a path, given in the reverse order, after further parts of it. -/
def walkNames : List Octets → List Octets → List Octets
  | names, [] => names
  | names, part :: rest =>
    if part.isEmpty || part = ['.'] then walkNames names rest
    else if part = ['.', '.'] then walkNames names.tail rest
    else walkNames (part :: names) rest

/-- The path on which another path leads from a directory. -/
def pathFrom (directory path : Octets) : Octets :=
  let isAbsolute := path.head? = some '/'
  let start := if isAbsolute then path else directory
  let parts (s : Octets) := s.splitOnP (· = '/')
  let names := walkNames (if isAbsolute then [] else walkNames [] (parts directory)) (parts path)
  (if hasTwoSlashes start then ['/'] else []) ++
    (if names.isEmpty then ['/'] else names.reverse.flatMap ('/' :: ·))

/-- Whether one of the options of the commands below asks for paths without detours. -/
def isPhysical (options : List (Char × Octets)) : Bool := (options.getLast?.map (·.1)) = some 'P'

/-- The options for paths. -/
def pathOptions : Options.Known := [('L', false), ('P', false)]

/-- Goes to a directory, if there is one, and tells whether there is. -/
def goTo (physical : Bool) (path : Octets) : Run Bool := do
  let sh ← get
  let logical := pathFrom sh.directory path
  match sh.find (if physical then path else logical) with
  | .ok (p, .directory _) =>
    let shown := if physical then p.path else logical
    Run.assign "OLDPWD".toList (.exported (some sh.directory))
    let found := sh.found.map fun (name, index, _) => (name, index, true)
    modify fun sh => { sh with place := p, directory := shown, found := found }
    Run.assign "PWD".toList (.exported (some shown))
    return true
  | _ => return false

/-- Whether a path says where it starts, so that no other directories are looked at. -/
def isAnchored (path : Octets) : Bool :=
  match path with
  | '/' :: _ => true
  | ['.'] => true
  | ['.', '.'] => true
  | '.' :: '/' :: _ => true
  | '.' :: '.' :: '/' :: _ => true
  | _ => false

/-- The first directory under a name in some directories, and whether it has to be told. -/
def searchedDirectory? (sh : Shell) (name : Octets) (searchPath : Octets) :
    Option (Octets × Bool) :=
  let candidates := (searchPath.splitOnP (· = ':')).map fun d =>
    (if d.isEmpty then name else d ++ '/' :: name, !d.isEmpty)
  candidates.find? fun candidate =>
    match sh.find candidate.1 with
    | .ok (_, .directory _) => true
    | _ => false

/-- The command `cd`: goes to another directory. -/
def cdCommand (arguments : List Octets) : Run Nat := do
  let (options, rest) ← Options.read pathOptions arguments
  let isBack := rest.head? = some ['-']
  let target ← match rest with
    | [] => pure ((← Run.value? "HOME".toList).getD [])
    | first :: _ =>
      if isBack then pure ((← Run.value? "OLDPWD".toList).getD []) else pure first
  let (path, isTold) ←
    if isAnchored target then pure (target, false)
    else
      let name := if target.isEmpty then ['.'] else target
      match ← Run.value? "CDPATH".toList with
      | none => pure (name, false)
      | some searchPath => pure ((searchedDirectory? (← get) name searchPath).getD (name, false))
  if ← goTo (isPhysical options) path then
    if isBack || isTold then Run.writeLine (← get).directory
    return 0
  else Run.fail ("can't cd to ".toList ++ (if target.isEmpty then path else target))

/-- The command `pwd`: tells the directory. -/
def pwdCommand (arguments : List Octets) : Run Nat := do
  let (options, _) ← Options.read pathOptions arguments
  let sh ← get
  Run.writeLine (if isPhysical options then sh.place.path else sh.directory)
  return 0

/-! ### Rights -/

/-- The bits of rights: of the owner, of the group and of others. -/
def holders : List (Char × Nat) := [('u', 64), ('g', 8), ('o', 1)]

/-- The rights, by their letters. -/
def rights : List (Char × Nat) := [('r', 4), ('w', 2), ('x', 1)]

/-- All rights of all. -/
def allRights : Nat := 511

/-- Rights in words. -/
def rightsText (mode : Nat) : Octets :=
  List.intercalate [','] (holders.map fun h =>
    h.1 :: '=' :: rights.filterMap fun r =>
      if (mode / (h.2 * r.2)) % 2 = 1 then some r.1 else none)

/-- Reads letters up to one that is not known, and tells their bits. -/
def letterBits (known : List (Char × Nat)) : Octets → List Nat × Octets
  | [] => ([], [])
  | c :: rest =>
    match known.lookup c with
    | some bit =>
      let (bits, rest) := letterBits known rest
      (bit :: bits, rest)
    | none => ([], c :: rest)

/-- The sum of different bits. -/
def joinBits (bits : List Nat) : Nat := bits.foldl (· ||| ·) 0

/-- Changes rights by signs and letters for holders, in at most so many steps. -/
def changeRights? (whose : Nat) : Nat → Octets → Nat → Option (Nat × Octets)
  | 0, s, mode => some (mode, s)
  | steps + 1, s, mode =>
    match s with
    | c :: rest =>
      if c = '=' || c = '+' || c = '-' then
        let (bits, rest) := letterBits rights rest
        let changed := whose * joinBits bits
        let mode :=
          if c = '+' then mode ||| changed
          else
            let without := mode - (mode &&& (if c = '=' then whose * 7 else changed))
            if c = '=' then without ||| changed else without
        changeRights? whose steps rest mode
      else some (mode, s)
    | [] => some (mode, [])

/-- The rights that a text makes of others. -/
def changedRights? (mode : Nat) (s : Octets) : Option Nat :=
  (s.splitOnP (· = ',')).foldlM (fun mode clause =>
    let all := holders ++ [('a', 73)]
    let (whose, rest) := letterBits all clause
    let whose := if whose.isEmpty then 73 else joinBits whose
    if rest.isEmpty then none
    else
      match changeRights? whose rest.length rest mode with
      | some (mode, []) => some mode
      | _ => none) mode

/-- Digits in base 8, at least four of them. -/
def octalText (n : Nat) : Octets :=
  let digits := Nat.toDigits 8 n
  List.replicate (4 - digits.length) '0' ++ digits

/-- The command `umask`: the rights that new files do not get. -/
def umaskCommand (arguments : List Octets) : Run Nat := do
  let (options, rest) ← Options.read [('S', false)] arguments
  let mask := (← get).mask
  match rest with
  | [] => Run.writeLine (if options.isEmpty then octalText mask else rightsText (allRights - mask))
  | s :: _ =>
    if s.head?.any Char.isDigit then
      if s.all (Numeral.isDigitIn 8) then
        modify fun sh => { sh with mask := Numeral.valueIn 8 s % (allRights + 1) }
      else Run.failNumber s
    else
      match changedRights? (allRights - mask) s with
      | some mode => modify fun sh => { sh with mask := allRights - mode }
      | none => Run.fail ("Illegal mode: ".toList ++ s)
  return 0

end CompilerFlags.Script.Builtin
