import CompilerFlags.Data.Value
import CompilerFlags.Text

/-!
# Numbers, dates and words in TOML

A value that starts with a letter, a digit or a sign extends over all letters, digits and the
characters `_ + - . :`.  Which value such a word stands for is decided on the word as a whole.

* Integers have 64 bits; they are decimal with an optional sign, or hexadecimal, octal or binary
  with a prefix.  Underscores may stand between digits.
* Other numbers must not be larger than the largest finite number of 64 bits.
* Dates are checked against the calendar.
-/

namespace CompilerFlags.Toml

/-- The characters that words are made of. -/
def isWordChar (c : Char) : Bool :=
  c.isAlphanum || c = '_' || c = '+' || c = '-' || c = '.' || c = ':'

/-- Splits a number of characters off, provided that all are digits. -/
def digits? (n : Nat) (s : List Char) : Option (Nat × List Char) :=
  if n ≤ s.length ∧ (s.take n).all Char.isDigit then
    some ((s.take n).foldl (fun v c => v * 10 + (c.toNat - 48)) 0, s.drop n)
  else none

/-- What follows a character. -/
def afterChar? (c : Char) : List Char → Option (List Char)
  | d :: rest => if c = d then some rest else none
  | [] => none

/-- The number of days of a month. -/
def daysOfMonth (year month : Nat) : Nat :=
  if month = 2 then
    if year % 4 = 0 ∧ (year % 100 ≠ 0 ∨ year % 400 = 0) then 29 else 28
  else if month = 4 ∨ month = 6 ∨ month = 9 ∨ month = 11 then 30
  else 31

/-- What follows a date. -/
def afterDate? (s : List Char) : Option (List Char) := do
  let (year, s) ← digits? 4 s
  let (month, s) ← digits? 2 (← afterChar? '-' s)
  let (day, s) ← digits? 2 (← afterChar? '-' s)
  if 1 ≤ month ∧ month ≤ 12 ∧ 1 ≤ day ∧ day ≤ daysOfMonth year month then some s else none

/-- What follows hours and minutes. -/
def afterMinutes? (s : List Char) : Option (List Char) := do
  let (hour, s) ← digits? 2 s
  let (minute, s) ← digits? 2 (← afterChar? ':' s)
  if hour ≤ 23 ∧ minute ≤ 59 then some s else none

/-- What follows a time of day.  A second of 60 is a leap second; a fraction has at least one
digit. -/
def afterTime? (s : List Char) : Option (List Char) := do
  let (second, s) ← digits? 2 (← afterChar? ':' (← afterMinutes? s))
  if second ≤ 60 then
    match s with
    | '.' :: rest =>
      if (rest.takeWhile Char.isDigit).isEmpty then none else some (rest.dropWhile Char.isDigit)
    | _ => some s
  else none

/-- Whether the characters are the distance to universal time, or nothing. -/
def isOffset : List Char → Bool
  | [] => true
  | ['Z'] => true
  | ['z'] => true
  | '+' :: rest => afterMinutes? rest == some []
  | '-' :: rest => afterMinutes? rest == some []
  | _ => false

/-- Whether the characters are a time of day, with the distance to universal time or without. -/
def isTimeWithOffset (s : List Char) : Bool :=
  match afterTime? s with
  | some rest => isOffset rest
  | none => false

/-- Whether the characters are a date, a time, or a date and a time. -/
def isMoment (s : List Char) : Bool :=
  match afterDate? s with
  | some [] => true
  | some (c :: rest) => (c = 'T' || c = 't' || c = ' ') && isTimeWithOffset rest
  | none => afterTime? s == some []

/-- The digits of a number that may have underscores between them. -/
def groupedDigits? (isDigit : Char → Bool) (s : List Char) : Option (List Char) :=
  let groups := s.splitOn '_'
  if groups.all fun g => !g.isEmpty && g.all isDigit then some groups.flatten else none

/-- Splits the sign off; the flag tells whether it is a minus. -/
def splitSign : List Char → Bool × List Char
  | '-' :: rest => (true, rest)
  | '+' :: rest => (false, rest)
  | s => (false, s)

/-- The value of a digit in any base. -/
def digitValue (c : Char) : Nat :=
  if c.isDigit then c.toNat - 48 else if c.toNat < 97 then c.toNat - 55 else c.toNat - 87

/-- The number that digits stand for in a base. -/
def ofDigits (base : Nat) (cs : List Char) : Nat :=
  cs.foldl (fun v c => v * base + digitValue c) 0

/-- The decimal digits of a whole number, which starts with a zero only if it is zero. -/
def wholeDigits? (s : List Char) : Option (List Char) := do
  let ds ← groupedDigits? Char.isDigit s
  match ds with
  | '0' :: _ :: _ => none
  | _ => some ds

/-- Integers are smaller than this. -/
def integerBound : Nat := Nat.pow 2 63

/-- The decimal integer that a word stands for. -/
def decimal? (s : List Char) : Option Int := do
  let (negative, s) := splitSign s
  let n := ofDigits 10 (← wholeDigits? s)
  if negative then if n ≤ integerBound then some (-(n : Int)) else none
  else if n < integerBound then some n else none

/-- The integer whose digits in a base follow a prefix. -/
def based? (base : Nat) (isDigit : Char → Bool) (s : List Char) : Option Int := do
  let n := ofDigits base (← groupedDigits? isDigit s)
  if n < integerBound then some n else none

/-- The integer that a word stands for. -/
def integer? : List Char → Option Int
  | '0' :: 'x' :: rest =>
    based? 16 (fun c => c.isDigit || ('a' ≤ c && c ≤ 'f') || ('A' ≤ c && c ≤ 'F')) rest
  | '0' :: 'o' :: rest => based? 8 (fun c => '0' ≤ c && c ≤ '7') rest
  | '0' :: 'b' :: rest => based? 2 (fun c => c = '0' || c = '1') rest
  | s => decimal? s

/-- The smallest number that is rounded to infinity in 64 bits. -/
def overflowBound : Nat := Nat.pow 2 1024 - Nat.pow 2 970

/-- Whether `mantissa · 10 ^ exponent` is rounded to infinity.  The exponents that are far off are
settled by the number of digits. -/
def overflows (mantissa : List Char) (exponent : Int) : Bool :=
  let ds := mantissa.dropWhile (· = '0')
  let size := (ds.length : Int) + exponent
  if ds.isEmpty ∨ size < 300 then false
  else if 320 < size then true
  else if exponent < 0 then overflowBound * Nat.pow 10 exponent.natAbs ≤ ofDigits 10 ds
  else overflowBound ≤ ofDigits 10 ds * Nat.pow 10 exponent.natAbs

/-- The exponent that is written after the letter `e`. -/
def exponent? (s : List Char) : Option Int := do
  let (negative, s) := splitSign s
  let n := ofDigits 10 (← groupedDigits? Char.isDigit s)
  some (if negative then -(n : Int) else n)

/-- Splits a word at the first character with a property. -/
def splitFirst (p : Char → Bool) (s : List Char) : List Char × Option (List Char) :=
  match s.dropWhile (fun c => !p c) with
  | [] => (s, none)
  | _ :: rest => (s.takeWhile fun c => !p c, some rest)

/-- Whether a word is a number with a fraction or an exponent. -/
def isReal (word : List Char) : Bool :=
  let (negative, s) := splitSign word
  let (mantissa, exponentPart) := splitFirst (fun c => c = 'e' || c = 'E') s
  let (whole, fraction) := splitFirst (· = '.') mantissa
  let answer : Option Bool := do
    let wholeDigits ← wholeDigits? whole
    let fractionDigits ←
      match fraction with
      | some f => groupedDigits? Char.isDigit f
      | none => some []
    let e ←
      match exponentPart with
      | some e => exponent? e
      | none => some 0
    if fraction.isNone && exponentPart.isNone then none
    else
      some (negative ||
        !overflows (wholeDigits ++ fractionDigits) (e - (fractionDigits.length : Int)))
  answer.getD false

/-- Whether a word is infinity or no number. -/
def isSpecialReal (word : List Char) : Bool :=
  let s := (splitSign word).2
  s = "inf".toList || s = "nan".toList

/-- The value that a word stands for. -/
def word? (word : List Char) : Option Value :=
  if word = "true".toList then some (.bool true)
  else if word = "false".toList then some (.bool false)
  else if isMoment word then some (.moment (String.ofList word))
  else if isReal word || isSpecialReal word then some (.real (String.ofList word))
  else (integer? word).map .int

/-- Reads a word.  A date may be followed by a single blank and a time. -/
def readWord? (s : List Char) : Option (Value × List Char) :=
  let (word, rest) := s.span isWordChar
  match afterDate? word, rest with
  | some [], ' ' :: d :: rest' =>
    if d.isDigit then
      let (time, rest'') := (d :: rest').span isWordChar
      (word? (word ++ ' ' :: time)).map fun v => (v, rest'')
    else (word? word).map fun v => (v, rest)
  | _, _ => (word? word).map fun v => (v, rest)

end CompilerFlags.Toml
