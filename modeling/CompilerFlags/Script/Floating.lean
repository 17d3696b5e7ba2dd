import CompilerFlags.Data.Decimal
import CompilerFlags.Script.Numeral

/-!
# Numbers with a point

A number with a point is read from decimal or hexadecimal digits and rounded to one of 64 bits.  It
is written with a wished number of digits behind the point, with or without an exponent; what is
written is the decimal number that is nearest to it.
-/

namespace CompilerFlags.Script

/-- How large a number is, without its sign. -/
inductive Magnitude
  | finite (x : Binary64)
  | infinite
  | undefined
deriving DecidableEq, Repr

/-- A number with its sign. -/
structure Floating where
  isNegative : Bool
  magnitude : Magnitude
deriving DecidableEq, Repr

namespace Floating

/-- Nothing. -/
def zero : Floating := ⟨false, .finite .zero⟩

/-- A whole number. -/
def ofNat (n : Nat) : Floating :=
  ⟨false, ((Binary64.round? ⟨n, 1⟩).map Magnitude.finite).getD .infinite⟩

/-! ### Reading -/

/-- Powers beyond this lead to numbers that are too large or too small. -/
def powerLimit : Int := 2500

/-- Whether a magnitude is so small that its mantissa has fewer bits. -/
def isTiny (x : Binary64) : Bool :=
  x.exponent = Binary64.lowestExponent && x.mantissa < Nat.pow 2 (Binary64.precision - 1)

/-- The magnitude of `m · base ^ e`, and whether it is out of the range in which numbers have all
their bits. -/
def scaled (base m : Nat) (e : Int) : Magnitude × Bool :=
  let size := (Nat.toDigits base m).length + e
  if m = 0 then (.finite .zero, false)
  else if powerLimit < size then (.infinite, true)
  else if size < -powerLimit then (.finite .zero, true)
  else
    let exact := Fraction.scale ⟨m, 1⟩ base e
    match Binary64.round? exact with
    | none => (.infinite, true)
    | some x =>
      let found := x.fraction
      (.finite x, isTiny x && found.num * exact.den ≠ exact.num * found.den)

/-- Reads an exponent after its letter, if there is one. -/
def exponent (letter : Char) (s : Octets) : Int × Octets :=
  match s with
  | c :: rest =>
    if c.toLower = letter then
      let (isNegative, digits) := match rest with
        | '-' :: rest => (true, rest)
        | '+' :: rest => (false, rest)
        | _ => (false, rest)
      match Numeral.digits? 10 digits with
      | some (n, rest) =>
        let n : Int := min n 1000000
        (if isNegative then -n else n, rest)
      | none => (0, s)
    else (0, s)
  | [] => (0, s)

/-- Reads digits with a point among them: their value without the point, how many of them stand
behind it, and what follows. -/
def pointed? (base : Nat) (s : Octets) : Option (Nat × Nat × Octets) :=
  let (front, rest) := s.span (Numeral.isDigitIn base)
  let (back, after) := match rest with
    | '.' :: rest => rest.span (Numeral.isDigitIn base)
    | _ => ([], rest)
  if front.isEmpty && back.isEmpty then none
  else some (Numeral.valueIn base (front ++ back), back.length, after)

/-- Reads a number in base 10. -/
def decimal? (s : Octets) : Option ((Magnitude × Bool) × Octets) :=
  (pointed? 10 s).map fun (m, places, rest) =>
    let (e, rest) := exponent 'e' rest
    (scaled 10 m (e - places), rest)

/-- Reads a number in base 16, whose exponent is one of base 2. -/
def hexadecimal? (s : Octets) : Option ((Magnitude × Bool) × Octets) :=
  match s with
  | '0' :: x :: s =>
    if x.toLower = 'x' then
      (pointed? 16 s).map fun (m, places, rest) =>
        let (e, rest) := exponent 'p' rest
        (scaled 2 m (e - 4 * places), rest)
    else none
  | _ => none

/-- Drops a word in which capitals do not matter. -/
def afterWord? (word : String) (s : Octets) : Option Octets :=
  if (s.take word.length).map Char.toLower = word.toList then some (s.drop word.length) else none

/-- Drops a remark between parentheses. -/
def dropRemark (s : Octets) : Octets :=
  match s with
  | '(' :: rest =>
    match rest.dropWhile isNameChar with
    | ')' :: rest => rest
    | _ => s
  | _ => s

/-- Reads a word that stands for a number. -/
def word? (s : Octets) : Option (Magnitude × Octets) :=
  match afterWord? "infinity" s, afterWord? "inf" s, afterWord? "nan" s with
  | some rest, _, _ => some (.infinite, rest)
  | none, some rest, _ => some (.infinite, rest)
  | none, none, some rest => some (.undefined, dropRemark rest)
  | none, none, none => none

/-- Reads a number without a sign. -/
def unsigned? (s : Octets) : Option ((Magnitude × Bool) × Octets) :=
  match word? s with
  | some (magnitude, rest) => some ((magnitude, false), rest)
  | none => (hexadecimal? s).or (decimal? s)

/-- Reads a number after blanks.  The flag tells whether it is out of range. -/
def read? (s : Octets) : Option ((Floating × Bool) × Octets) :=
  let (isNegative, s) := match s.dropWhile Numeral.isSpace with
    | '-' :: rest => (true, rest)
    | '+' :: rest => (false, rest)
    | s => (false, s)
  (unsigned? s).map fun ((magnitude, isOut), rest) => ((⟨isNegative, magnitude⟩, isOut), rest)

/-! ### Writing -/

/-- How numbers are written. -/
structure Style where
  precision : Option Nat
  /-- Whether the point is always written, and zeros are kept. -/
  isAlternate : Bool

/-- The digits behind the point if it is not written for nothing. -/
def afterPoint (style : Style) (digits : Octets) : Octets :=
  if digits.isEmpty && !style.isAlternate then [] else '.' :: digits

/-- A number with zeros in front, so that there are at least so many digits. -/
def padded (count n : Nat) : Octets :=
  let digits := Nat.toDigits 10 n
  List.replicate (count - digits.length) '0' ++ digits

/-- The text of an exponent with at least so many digits. -/
def exponentText (letter : Char) (count : Nat) (e : Int) : Octets :=
  letter :: (if e < 0 then '-' else '+') :: padded count e.natAbs

/-- The digits of a magnitude, of which there are so many, and the power of ten of the first one. -/
def digitsOf (count : Nat) (x : Binary64) : Octets × Int :=
  if x.mantissa = 0 then (List.replicate count '0', 0)
  else
    let d := Decimal.ofFraction count x.fraction
    (d.letters, d.exponent)

/-- Digits without the zeros at their end, unless these are kept. -/
def trimZeros (style : Style) (digits : Octets) : Octets :=
  if style.isAlternate then digits else (digits.reverse.dropWhile (· = '0')).reverse

/-- Digits with one in front of the point, and an exponent. -/
def withExponent (style : Style) (digits : Octets) (e : Int) : Octets :=
  digits.take 1 ++ afterPoint style (digits.drop 1) ++ exponentText 'e' 2 e

/-- The form with an exponent. -/
def scientific (style : Style) (x : Binary64) : Octets :=
  let (digits, e) := digitsOf (style.precision.getD 6 + 1) x
  withExponent style digits e

/-- The digits in front of the point and so many behind it. -/
def places (count : Nat) (x : Binary64) : Octets × Octets :=
  let digits := padded (count + 1) (x.fraction.scale 10 count).round
  digits.splitAt (digits.length - count)

/-- The form without an exponent. -/
def positional (style : Style) (x : Binary64) : Octets :=
  let (front, back) := places (style.precision.getD 6) x
  front ++ afterPoint style back

/-- The form with so many digits at all, and an exponent only if it is small or large. -/
def general (style : Style) (x : Binary64) : Octets :=
  let count := max 1 (style.precision.getD 6)
  let (digits, e) := digitsOf count x
  if e < -4 || (count : Int) ≤ e then
    let back := trimZeros style (digits.drop 1)
    withExponent style (digits.take 1 ++ back) e
  else
    let (front, back) := places ((count : Int) - 1 - e).toNat x
    front ++ afterPoint style (trimZeros style back)

/-- The mantissa and exponent of a magnitude with one bit in front of the point, if it has all its
bits. -/
def normal (x : Binary64) : Nat × Int :=
  let full := Nat.pow 2 (Binary64.precision - 1)
  if x.mantissa = 0 then (0, 0)
  else if isTiny x then (x.mantissa, Binary64.lowestExponent + 52)
  else
    let shift := Binary64.precision - 1 - x.mantissa.log2
    let mantissa := if x.mantissa < full then x.mantissa * Nat.pow 2 shift else x.mantissa
    (mantissa, x.exponent + 52 - shift)

/-- The form in base 16 with an exponent of base 2, without the mark of the base. -/
def hexadecimal (style : Style) (x : Binary64) : Octets :=
  let (m, e) := normal x
  let count := style.precision.getD 13
  let shown := if count < 13 then roundedQuotient m (Nat.pow 16 (13 - count)) else m
  let kept := min count 13
  let digits := Nat.toDigits 16 shown
  let digits := List.replicate (kept + 1 - digits.length) '0' ++ digits
  let back := digits.drop 1 ++ List.replicate (count - 13) '0'
  let back := if style.precision.isNone then (back.reverse.dropWhile (· = '0')).reverse else back
  digits.take 1 ++ afterPoint style back ++ exponentText 'p' 1 e

/-- A finite magnitude in the form of a small letter. -/
def body (letter : Char) (style : Style) (x : Binary64) : Octets :=
  match letter with
  | 'e' => scientific style x
  | 'f' => positional style x
  | 'g' => general style x
  | _ => hexadecimal style x

end Floating

end CompilerFlags.Script
