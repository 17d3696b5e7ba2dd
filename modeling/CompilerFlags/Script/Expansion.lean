import CompilerFlags.Script.Field
import CompilerFlags.Script.FileNames
import CompilerFlags.Script.Formula
import CompilerFlags.Script.Inner

/-!
# The expansion of words

Before a command runs, the pieces of its words are replaced by what they stand for.  The result is a
row of segments, which is split into fields.  A field with a pattern in it stands for the names of
the files that match.

Where a word is not split, as in assignments, all parameters are joined instead.
-/

namespace CompilerFlags.Script

/-- Where a word is expanded. -/
structure Context where
  /-- Whether the result is split. -/
  isSplit : Bool
  /-- Whether the word is the value of an assignment, in which there may be several paths with
  colons between them. -/
  isAssigned : Bool
  /-- Whether the word takes the place of a value, so that its own octets may be split. -/
  isValue : Bool

namespace Context

/-- A word that is split. -/
def split : Context := ⟨true, false, false⟩

/-- A word that is not split. -/
def whole : Context := ⟨false, false, false⟩

/-- The value of an assignment. -/
def assigned : Context := ⟨false, true, false⟩

end Context

namespace Expansion

/-! ### Parameters -/

/-- The octet between parameters that are joined, if there is one. -/
def joint (c : Context) (isQuoted isEach : Bool) : Run Octets := do
  let seps ← Run.value? "IFS".toList
  if c.isSplit && isQuoted && isEach then return ['\x00']
  else if c.isSplit && !isQuoted then return [if seps.isSome then '\x00' else ' ']
  else return (seps.getD [' ']).take 1

/-- The letters of the settings that are on. -/
def settingLetters (on : List Setting) : Octets :=
  settings.reverse.filterMap fun s => if on.contains s.1 then s.2.2 else none

/-- The value of a parameter with a name that is no word. -/
def specialValue? (c : Context) (isQuoted : Bool) (name : Char) : Run (Option Octets) := do
  let sh ← get
  match name with
  | '$' => return some (numberText sh.scriptNumber)
  | '?' => return some (numberText sh.status)
  | '#' => return some (numberText sh.parameters.length)
  | '!' => return sh.lastJob.map numberText
  | '-' => return some (settingLetters sh.settings)
  | '@' => return some (List.intercalate (← joint c isQuoted true) sh.parameters)
  | '*' => return some (List.intercalate (← joint c isQuoted false) sh.parameters)
  | _ => return none

/-- The value of a parameter. -/
def value? (c : Context) (isQuoted : Bool) (name : Octets) : Run (Option Octets) := do
  match name with
  | [] => Run.fail "Bad substitution".toList
  | first :: rest =>
    if first.isDigit then
      let sh ← get
      match Numeral.valueIn 10 (first :: rest) with
      | 0 => return some sh.name
      | n + 1 => return sh.parameters[n]?
    else if startsName first then Run.value? name
    else specialValue? c isQuoted first

/-- The segment of the value of a parameter. -/
def valueSegment (isQuoted : Bool) (name value : Octets) : Run Segment := do
  let isEach := name = ['@'] && !(← get).parameters.isEmpty
  let splitting : Splitting :=
    if !isQuoted then .atSeparators else if isEach then .atGaps else .never
  return ⟨value.map (.octet · isQuoted), splitting⟩

/-- The segments of a value that may be missing, where this may be an error. -/
def checkedSegments (isQuoted : Bool) (name : Octets) (value : Option Octets) :
    Run (List Segment) := do
  match value with
  | some s => return [← valueSegment isQuoted name s]
  | none =>
    if ← Run.has .needsValues then Run.fail (name ++ ": parameter not set".toList) else return []

/-- Whether a value counts as set. -/
def countsAsSet (emptyToo : Bool) (value : Option Octets) : Bool :=
  match value with
  | none => false
  | some s => !(emptyToo && s.isEmpty)

/-- The octets without the line breaks at their end. -/
def dropLineBreaks (s : Octets) : Octets := (s.reverse.dropWhile (· = '\n')).reverse

/-! ### Home directories -/

/-- The name of a user, which stands between a tilde and a slash or the end. -/
def userName? (c : Context) : List Piece → Option Octets
  | [] => some []
  | .octet ch false :: rest =>
    if ch = '/' || (ch = ':' && c.isAssigned) then some []
    else (userName? c rest).map (ch :: ·)
  | _ => none

/-- The home directory of a user, who is the one that runs the script if there is no name. -/
def homeOf? (user : Octets) : Run (Option Octets) := do
  match String.ofList user with
  | "" => Run.value? "HOME".toList
  | "root" => return some "/root".toList
  | _ => return none

/-! ### Pieces -/

/-- How many pieces in front are octets that are not quoted.  In an assignment there are none after
a colon. -/
def runLength (c : Context) : List Piece → Nat
  | .octet ch false :: rest => if ch = ':' && c.isAssigned then 1 else runLength c rest + 1
  | _ => 0

/-- Expands pieces after leaving some out in front, by means of a function for those that are no
octets.  The flag tells whether a tilde stands for a home directory. -/
def expandAll (c : Context) (one : Piece → Run (List Segment)) :
    Bool → Nat → List Piece → Run (List Segment)
  | _, _, [] => return []
  | mayBeHome, skip + 1, .octet ch false :: rest =>
    expandAll c one (if skip = 0 then c.isAssigned && ch = ':' else mayBeHome) skip rest
  | mayBeHome, skip + 1, _ :: rest => expandAll c one mayBeHome skip rest
  | mayBeHome, 0, p :: rest => do
    match p with
    | .octet ch false =>
      let home ← match mayBeHome && ch = '~', userName? c rest with
        | true, some user => pure ((← homeOf? user).map fun home => (home, user.length))
        | _, _ => pure none
      match home with
      | some (home, length) =>
        let others ← expandAll c one false length rest
        return ⟨home.map (.octet · true), .never⟩ :: others
      | none =>
        let length := runLength c (p :: rest)
        let cells := (p :: rest).take length |>.filterMap fun
          | .octet ch _ => some (Cell.octet ch false)
          | _ => none
        let others ←
          if length = 1 then expandAll c one (c.isAssigned && ch = ':') 0 rest
          else expandAll c one false (length - 1) rest
        return ⟨cells, if c.isValue then .atSeparators else .never⟩ :: others
    | .octet ch true => return ⟨[.octet ch true], .never⟩ :: (← expandAll c one false 0 rest)
    | .mark =>
      match rest with
      | .value true ['@'] .plain :: .mark :: _ =>
        let segments ← one (.value true ['@'] .plain)
        return segments ++ (← expandAll c one false 2 rest)
      | _ => return ⟨[.mark], .never⟩ :: (← expandAll c one false 0 rest)
    | p =>
      let segments ← one p
      return segments ++ (← expandAll c one false 0 rest)

/-- The segments of the value of a parameter that is used in some way, by means of a function that
expands other words. -/
def useSegments (c : Context) (other : Context → Word → Run (List Segment)) (isQuoted : Bool)
    (name : Octets) (use : Use) : Run (List Segment) := do
  let word (w : Word) := other { c with isValue := !isQuoted } w
  match use with
  | .meaningless => Run.fail "Bad substitution".toList
  | .plain => checkedSegments isQuoted name (← value? c isQuoted name)
  | .length =>
    let value ← value? c isQuoted name
    if value.isNone then
      let _ ← checkedSegments isQuoted name value
    return [← valueSegment isQuoted name (numberText (value.getD []).length)]
  | .otherwise emptyToo w =>
    let value ← value? c isQuoted name
    if countsAsSet emptyToo value then return [← valueSegment isQuoted name (value.getD [])]
    else word w
  | .instead emptyToo w =>
    if countsAsSet emptyToo (← value? c isQuoted name) then word w
    else return [← valueSegment isQuoted name []]
  | .settling emptyToo w =>
    let value ← value? c isQuoted name
    if countsAsSet emptyToo value then return [← valueSegment isQuoted name (value.getD [])]
    else
      let s := Segment.plain (← other .whole w)
      Run.setValue name s
      checkedSegments isQuoted name (← value? c isQuoted name)
  | .insisting emptyToo w =>
    let value ← value? c isQuoted name
    if countsAsSet emptyToo value then return [← valueSegment isQuoted name (value.getD [])]
    else
      let s := Segment.plain (← other .whole w)
      let complaint :=
        if w.isEmpty then
          "parameter not set".toList ++ (if emptyToo then " or null".toList else [])
        else s
      Run.fail (name ++ ": ".toList ++ complaint)
  | .trim atEnd greedy w =>
    match ← value? c isQuoted name with
    | none => checkedSegments isQuoted name none
    | some s =>
      let pattern := Segment.pattern (← other .whole w)
      return [← valueSegment isQuoted name (Pattern.trimmed atEnd greedy pattern s)]

/-- Expands a piece that is no octet; words in it are nested less than the given depth deep. -/
def expandPiece : Nat → Context → Piece → Run (List Segment)
  | 0, _, _ => Run.fail "Bad substitution".toList
  | depth + 1, c, p => do
    let other (c : Context) (w : Word) := expandAll c (expandPiece depth c) true 0 w
    match p with
    | .output isQuoted body =>
      let s ← Run.outputOf body
      let s := dropLineBreaks (s.filter (· ≠ '\x00'))
      return [← valueSegment isQuoted [] s]
    | .number isQuoted formula =>
      let s ← Formula.compute (Segment.plain (← other .whole formula))
      return [← valueSegment isQuoted [] s]
    | .value isQuoted name use => useSegments c other isQuoted name use
    | .octet ch isQuoted => return [⟨[.octet ch isQuoted], .never⟩]
    | .mark => return [⟨[.mark], .never⟩]

/-- Words are nested less deep than this. -/
def depthLimit : Nat := 100000

/-- Expands a word. -/
def expand (c : Context) (w : Word) : Run (List Segment) :=
  expandAll c (expandPiece depthLimit c) true 0 w

/-! ### Uses of words -/

/-- The octets of a word that is not split. -/
def whole (w : Word) : Run Octets := do
  return Segment.plain (← expand .whole w)

/-- The octets of the value of an assignment. -/
def assigned (w : Word) : Run Octets := do
  return Segment.plain (← expand .assigned w)

/-- The pattern that a word is. -/
def pattern (w : Word) : Run Octets := do
  return Segment.pattern (← expand .whole w)

/-- The octets of a text below a line. -/
def below (w : Word) : Run Octets := do
  return Segment.plain (← expandAll .whole (expandPiece depthLimit .whole) false 0 w)

/-- What a field stands for: the names of files that match it, or itself. -/
def filesFor (cells : List Cell) : Run (List Octets) := do
  if ← Run.has .keepsPatterns then return [Cell.plain cells]
  else
    match FileNames.matching (← get) (Cell.pattern cells) with
    | [] => return [Cell.plain cells]
    | paths => return paths

/-- The arguments that a word stands for. -/
def arguments (w : Word) : Run (List Octets) := do
  let segments ← expand .split w
  let fields ← (fieldsOf (← Run.separators) none segments).mapM filesFor
  return fields.flatten

/-- The arguments that a word stands for as an argument of a command that takes assignments. -/
def assignmentArguments (w : Word) : Run (List Octets) := do
  match Word.assignment? w with
  | some (name, value) => return [name ++ '=' :: (← assigned value)]
  | none => arguments w

end Expansion

end CompilerFlags.Script
