import CompilerFlags.Script.Numeral
import CompilerFlags.Script.Shell

/-!
# Variables

Variables have values, and marks that say whether other programs see them and whether they keep
their values.  A mark stays when the value changes.

While a command with a name of its own runs, variables may have other values and marks; those from
before are kept in the state and given back afterwards.
-/

namespace CompilerFlags.Script

namespace Variable

/-- A variable without marks. -/
def plain (value : Option Octets) : Variable := ⟨value, false, false, false⟩

/-- A variable that is always known. -/
def kept (value : String) : Variable := ⟨some value.toList, false, false, true⟩

/-- A variable that other programs see. -/
def exported (value : Option Octets) : Variable := ⟨value, true, false, false⟩

end Variable

/-- Splits a text at its first sign of equality. -/
def splitAssignment (s : Octets) : Octets × Option Octets :=
  match s.span (· ≠ '=') with
  | (name, _ :: value) => (name, some value)
  | (name, []) => (name, none)

namespace Run

/-- The variable with a name. -/
def find? (name : Octets) : Run (Option Variable) := do return (← get).bindings.lookup name

/-- The value of a variable. -/
def value? (name : Octets) : Run (Option Octets) := do
  return (← find? name).bind (·.value)

/-- The number that an argument is. -/
def count (s : Octets) : Run Nat :=
  match Numeral.count? s with
  | some n => return n
  | none => failNumber s

/-- Starts to read the parameters as options from one of them on. -/
def startOptions (n : Nat) : Run Unit := modify fun sh => { sh with nextOption := (n, none) }

/-- Does what a change of a variable entails: programs are looked for again, or options are read
again. -/
def noticeChange (name : Octets) (value : Option Octets) : Run Unit := do
  match String.ofList name with
  | "PATH" => modify fun sh => { sh with found := [] }
  | "OPTIND" =>
    let n ← count (value.getD [])
    startOptions (if n = 0 then 1 else n)
  | _ => return ()

/-- Puts a variable in the place of the one with its name, or takes that one away. -/
def putVariable (name : Octets) (v : Option Variable) : Run Unit := modify fun sh =>
  let others := sh.bindings.filter (·.1 ≠ name)
  { sh with bindings := (v.toList.map fun v => (name, v)) ++ others }

/-- Gives a variable a value and further marks, or takes its value away. -/
def assign (name : Octets) (given : Variable) : Run Unit := do
  let old ← find? name
  if old.any (·.isFixed) then fail (name ++ ": is read only".toList)
  noticeChange name given.value
  let isExported := given.isExported || (← has .exportsAll)
  let isKept := given.isKept || old.any (·.isKept)
  if given.value.isNone && !isExported && !given.isFixed && !isKept then putVariable name none
  else
    let isExported := isExported || old.any (·.isExported)
    putVariable name (some { given with isExported := isExported, isKept := isKept })

/-- Gives a variable a value without doing what a change entails. -/
def assignQuietly (name value : Octets) : Run Unit := do
  let old ← find? name
  if old.any (·.isFixed) then fail (name ++ ": is read only".toList)
  putVariable name (some { old.getD (.plain none) with value := some value })

/-- Complains about a text that is no name. -/
def refuseName (s : Octets) : Run Unit := fail (s ++ ": bad variable name".toList)

/-- Gives a variable a value and further marks if its name is one. -/
def assignChecked (name : Octets) (given : Variable) : Run Unit := do
  let start := (splitAssignment name).1
  if isName start then assign start given else refuseName start

/-- Gives a variable a value. -/
def setValue (name value : Octets) : Run Unit := assignChecked name (.plain (some value))

/-- Takes the value of a variable away. -/
def unset (name : Octets) : Run Unit := assignChecked name (.plain none)

/-! ### Values for a while -/

/-- Keeps something to be given back after the command that runs. -/
def save (s : Saved) : Run Unit := modify fun sh =>
  match sh.saved with
  | first :: rest => { sh with saved := (s :: first) :: rest }
  | [] => { sh with saved := [[s]] }

/-- Gives a variable another value for a while, if there is one in the text, or keeps its value to
be given back.  A dash stands for the settings. -/
def makeLocal (text : Octets) (isExported : Bool) : Run Unit := do
  if text = ['-'] then save (.settings (← get).settings)
  else
    let (name, value) := splitAssignment text
    match ← find? name with
    | none =>
      let given : Variable := ⟨value, isExported, false, true⟩
      if value.isSome then assign name given else assignChecked name given
      save (.variable name none)
    | some v =>
      putVariable name (some { v with isKept := true })
      if value.isSome then assign name ⟨value, isExported, false, true⟩
      save (.variable name (some v))

/-- Gives something back that was kept.  That something is no name is noticed only now if there was
a value for it. -/
def giveBack : Saved → Run Unit
  | .settings on => modify fun sh => { sh with settings := on }
  | .variable name none => do
    if isName name then putVariable name none
    unset name
  | .variable name (some v) => do
    noticeChange name v.value
    putVariable name (some v)

/-- Starts to keep what will be given back. -/
def startSaving : Run Unit := modify fun sh => { sh with saved := [] :: sh.saved }

/-- Gives back what was kept since there were so many commands that keep something. -/
def giveBackTo (depth : Nat) : Run Unit := do
  let saved := (← get).saved
  modify fun sh => { sh with saved := saved.drop (saved.length - depth) }
  (saved.take (saved.length - depth)).flatten.forM giveBack

/-! ### Uses of variables -/

/-- The directories in which programs are looked for, as a text. -/
def searchPath : Run Octets := do return (← value? "PATH".toList).getD []

/-- The octets at which values are split. -/
def separators : Run Octets := do return (← value? "IFS".toList).getD [' ', '\t', '\n']

/-- The variables that other programs see. -/
def environment : Run (List (Octets × Octets)) := do
  return (← get).bindings.filterMap fun v =>
    if v.2.isExported then v.2.value.map fun s => (v.1, s) else none

end Run

/-- Octets between quotation marks, as a script writes them. -/
def quotedFrom : Nat → Octets → Octets
  | 0, _ => []
  | steps + 1, s =>
    let (plain, rest) := s.span (· ≠ '\'')
    let (marks, rest) := rest.span (· = '\'')
    let after := if rest.isEmpty then [] else quotedFrom steps rest
    if marks.isEmpty then '\'' :: plain ++ ['\'']
    else '\'' :: plain ++ ['\'', '"'] ++ marks ++ ['"'] ++ after

/-- A text between quotation marks, as a script writes it. -/
def quoted (s : Octets) : Octets := quotedFrom (s.length + 1) s

/-- The order of octets by their numbers. -/
def octetsBefore (a b : Octets) : Bool := decide (String.ofList a ≤ String.ofList b)

end CompilerFlags.Script
