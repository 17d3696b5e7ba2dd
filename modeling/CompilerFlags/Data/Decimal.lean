import CompilerFlags.Data.Binary64

/-!
# Decimal digits of a number

A positive number is written in the decimal system as digits, the first of which is not zero, and
the power of ten that belongs to the first digit.  `Decimal.ofFraction` gives a wished number of
digits, and `Decimal.shortest` the fewest digits that are read back as the same number of 64 bits;
of several it takes those nearest to the number.
-/

namespace CompilerFlags

/-- The number `d₀.d₁d₂… · 10 ^ exponent`, where `d₀d₁d₂…` are the decimal digits of `digits`. -/
structure Decimal where
  digits : Nat
  exponent : Int
deriving DecidableEq, Repr

namespace Decimal

/-- The power of ten of the first digit of a fraction that is not zero. -/
def leadingPower (x : Fraction) : Int :=
  let guess : Int := ((Nat.toDigits 10 x.num).length : Int) - (Nat.toDigits 10 x.den).length
  if 1 ≤ (x.scale 10 (-guess)).floor then guess else guess - 1

/-- The letters of the digits. -/
def letters (d : Decimal) : List Char := Nat.toDigits 10 d.digits

/-- The fraction that a number with so many digits is. -/
def fraction (count : Nat) (d : Decimal) : Fraction :=
  Fraction.scale ⟨d.digits, 1⟩ 10 (d.exponent - ((count : Int) - 1))

/-- So many digits, where rounding up may lead to the next power of ten. -/
def ofDigits (count digits : Nat) (exponent : Int) : Decimal :=
  if digits = Nat.pow 10 count then ⟨digits / 10, exponent + 1⟩ else ⟨digits, exponent⟩

/-- The nearest number with so many digits, which is at least one. -/
def ofFraction (count : Nat) (x : Fraction) : Decimal :=
  let e := leadingPower x
  ofDigits count (x.scale 10 ((count : Int) - 1 - e)).round e

/-- The largest number of digits that a number of 64 bits needs. -/
def enoughDigits : Nat := 17

/-- The numbers with so many digits next to a fraction, the nearer one first. -/
def neighbours (count : Nat) (x : Fraction) : List Decimal :=
  let e := leadingPower x
  let scaled := x.scale 10 ((count : Int) - 1 - e)
  let near := scaled.round
  let far := if near = scaled.floor then near + 1 else near - 1
  [ofDigits count near e, ofDigits count far e]

/-- The fewest digits, from a number of them on, that are read back as a magnitude which is not
zero. -/
def shortestFrom (x : Binary64) : Nat → Nat → Decimal
  | 0, count => ofFraction count x.fraction
  | steps + 1, count =>
    match (neighbours count x.fraction).find? fun d =>
        Binary64.round? (d.fraction count) = some x with
    | some d => d
    | none => shortestFrom x steps (count + 1)

/-- The digits without the zeros at their end, of which there are at most so many. -/
def dropZeros : Nat → Nat → Nat
  | 0, n => n
  | steps + 1, n => if n % 10 = 0 then dropZeros steps (n / 10) else n

/-- The fewest digits that are read back as a magnitude which is not zero. -/
def shortest (x : Binary64) : Decimal :=
  let d := shortestFrom x (enoughDigits - 1) 1
  { d with digits := dropZeros enoughDigits d.digits }

end Decimal

end CompilerFlags
