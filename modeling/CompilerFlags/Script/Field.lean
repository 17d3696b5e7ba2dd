import CompilerFlags.Script.Syntax

/-!
# Splitting into fields

What the pieces of a word stand for is a row of segments.  A segment that came out of an unquoted
piece is split at the separators, and one that holds all parameters only where these end.  Blanks
among the separators count as one and are dropped at the start, and every other separator ends a
field.

The same rules split a line that is read; there the number of fields may be limited, and the last
field takes all that is left.
-/

namespace CompilerFlags.Script

/-- An octet of an expanded word, or a quotation mark that was left of it. -/
inductive Cell
  | octet (c : Char) (isQuoted : Bool)
  | mark
deriving DecidableEq, Repr

namespace Cell

/-- The octets of cells. -/
def plain (cells : List Cell) : Octets :=
  cells.filterMap fun
    | octet c _ => some c
    | mark => none

/-- The pattern that cells are.  A quoted octet stands for itself, unless it directly follows a
backslash that is not quoted. -/
def patternFrom : Bool → List Cell → Octets
  | _, [] => []
  | _, .mark :: rest => patternFrom true rest
  | escapes, .octet c isQuoted :: rest =>
    if c = '\\' && !isQuoted then c :: patternFrom false rest
    else if isQuoted && escapes then '\\' :: c :: patternFrom true rest
    else c :: patternFrom true rest

/-- The pattern that cells are. -/
def pattern (cells : List Cell) : Octets := patternFrom true cells

end Cell

/-- How a segment is split. -/
inductive Splitting
  /-- It is kept together. -/
  | never
  /-- It is split between parameters. -/
  | atGaps
  | atSeparators
deriving DecidableEq, Repr

/-- A part of an expanded word. -/
structure Segment where
  cells : List Cell
  splitting : Splitting

namespace Segment

/-- The octets of segments. -/
def plain (segments : List Segment) : Octets := Cell.plain (segments.flatMap (·.cells))

/-- The pattern that segments are. -/
def pattern (segments : List Segment) : Octets := Cell.pattern (segments.flatMap (·.cells))

end Segment

/-- A field: cells between two positions of a text. -/
structure Bounds where
  first : Nat
  last : Nat
deriving DecidableEq, Repr

/-- What is known while a text is split. -/
structure Splitter where
  /-- Where the field starts that is being read. -/
  start : Nat
  /-- Whether a blank has just ended a field. -/
  isAfterBlank : Bool
  /-- How many fields may still end, if there is a limit. -/
  left : Option Nat
  /-- Where the last field ends, if what follows is dropped. -/
  cut : Option Nat
  /-- The fields, the last one in front. -/
  fields : List Bounds

namespace Splitter

/-- Whether an octet is one of the usual separators, which are blanks.  So is the end of a
parameter. -/
def isBlank (c : Char) : Bool := c = ' ' || c = '\t' || c = '\n' || c = '\x00'

/-- The step for an octet when no further field may end: what is left is dropped if it is made of
blanks and at most one other separator. -/
def finalStep (isSeparator : Bool) (c : Char) (p : Nat) (s : Splitter) : Splitter :=
  if isSeparator && isBlank c then { s with cut := s.cut.or (some p) }
  else
    { s with cut := if isSeparator && s.isAfterBlank then s.cut else none, isAfterBlank := false }

/-- Ends a field at a position. -/
def endField (p : Nat) (s : Splitter) : Splitter :=
  match s.left with
  | some 1 => { s with left := some 0, cut := some p }
  | left =>
    { s with left := left.map (· - 1), fields := ⟨s.start, p⟩ :: s.fields, start := p + 1 }

/-- The step for a separator at a position.  Blanks at the start of a field are dropped. -/
def separatorStep (isStrict : Bool) (c : Char) (p : Nat) (s : Splitter) : Splitter :=
  let isAfterBlank := if isStrict then s.isAfterBlank else isBlank c
  if p = s.start && isAfterBlank then { s with start := p + 1, isAfterBlank := false }
  else endField p { s with isAfterBlank := isAfterBlank }

/-- The step for an octet at a position. -/
def step (seps : Octets) (isStrict gapsOnly : Bool) (c : Char) (p : Nat) (s : Splitter) :
    Splitter :=
  let isSeparator := c = '\x00' || (!gapsOnly && seps.contains c)
  if s.left = some 0 then finalStep isSeparator c p s
  else if s.isAfterBlank then
    if isSeparator then
      if isBlank c then { s with start := p + 1 }
      else { s with start := p + 1, isAfterBlank := false }
    else { s with start := p, isAfterBlank := false }
  else if isSeparator then separatorStep isStrict c p s
  else { s with isAfterBlank := false }

/-- The steps for the cells of a segment from a position on. -/
def stepAll (seps : Octets) (isStrict gapsOnly : Bool) : List Cell → Nat → Splitter → Splitter
  | [], _, s => s
  | .mark :: rest, p, s =>
    stepAll seps isStrict gapsOnly rest (p + 1) { s with isAfterBlank := false }
  | .octet c _ :: rest, p, s =>
    stepAll seps isStrict gapsOnly rest (p + 1) (step seps isStrict gapsOnly c p s)

/-- The steps for segments from a position on.  The flag tells whether the segment before was split
between parameters only; it is returned for the last segment. -/
def run (seps : Octets) : List Segment → Nat → Bool → Splitter → Bool × Splitter
  | [], _, wasStrict, s => (wasStrict, s)
  | segment :: rest, p, wasStrict, s =>
    let next := p + segment.cells.length
    match segment.splitting with
    | .never => run seps rest next wasStrict s
    | splitting =>
      let gapsOnly := splitting = .atGaps
      run seps rest next gapsOnly
        (stepAll seps (wasStrict || gapsOnly) gapsOnly segment.cells p
          { s with isAfterBlank := false })

/-- The cells of fields that follow one after another, out of the cells from a position on. -/
def slices : List Cell → Nat → List Bounds → List (List Cell)
  | _, _, [] => []
  | cells, p, b :: rest =>
    let cells := cells.drop (b.first - p)
    cells.take (b.last - b.first) :: slices cells b.first rest

end Splitter

/-- The fields of segments; at most so many if there is a limit. -/
def fieldsOf (seps : Octets) (limit : Option Nat) (segments : List Segment) : List (List Cell) :=
  let cells := segments.flatMap (·.cells)
  let (isStrict, s) := Splitter.run seps segments 0 false ⟨0, false, limit, none, []⟩
  let last : Bounds := ⟨s.start, if isStrict then cells.length else s.cut.getD cells.length⟩
  let fields := if isStrict || last.first < last.last then last :: s.fields else s.fields
  Splitter.slices cells 0 fields.reverse

end CompilerFlags.Script
