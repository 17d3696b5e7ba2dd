/-!
# Numbers of 64 bits with a binary point

A finite number is a mantissa of at most 53 bits times a power of two that is not smaller than
`2 ^ -1074`; the sign is kept apart, so that only magnitudes occur here.  `Binary64.round?` gives
the magnitude that is nearest to a fraction, and of two that are equally near the one with the even
mantissa.  A fraction that is too large has none.

All computations are exact: the fraction of a magnitude is made of natural numbers.
-/

namespace CompilerFlags

/-- The magnitude `mantissa · 2 ^ exponent`. -/
structure Binary64 where
  mantissa : Nat
  exponent : Int
deriving DecidableEq, Repr

/-- The quotient of two numbers as a whole number; what lies in the middle goes to the even one. -/
def roundedQuotient (num den : Nat) : Nat :=
  let n := num / den
  let twice := 2 * (num % den)
  if twice < den then n else if den < twice then n + 1 else n + n % 2

/-- A fraction of natural numbers. -/
structure Fraction where
  num : Nat
  den : Nat
deriving DecidableEq, Repr

namespace Fraction

/-- The fraction times a power of a base. -/
def scale (x : Fraction) (base : Nat) (exponent : Int) : Fraction :=
  if exponent < 0 then ⟨x.num, x.den * Nat.pow base exponent.natAbs⟩
  else ⟨x.num * Nat.pow base exponent.natAbs, x.den⟩

/-- The nearest whole number. -/
def round (x : Fraction) : Nat := roundedQuotient x.num x.den

/-- The whole number below. -/
def floor (x : Fraction) : Nat := x.num / x.den

end Fraction

namespace Binary64

/-- The number of bits of a mantissa. -/
def precision : Nat := 53

/-- The smallest exponent. -/
def lowestExponent : Int := -1074

/-- The largest exponent of a mantissa that has all its bits. -/
def highestExponent : Int := 971

/-- Nothing. -/
def zero : Binary64 := ⟨0, lowestExponent⟩

/-- The fraction that a magnitude is. -/
def fraction (x : Binary64) : Fraction := Fraction.scale ⟨x.mantissa, 1⟩ 2 x.exponent

/-- The exponent with which a fraction has as many bits in front of the point as a mantissa. -/
def exponentOf (x : Fraction) : Int :=
  let guess : Int := max lowestExponent ((x.num.log2 : Int) - x.den.log2 - precision)
  if Nat.pow 2 precision ≤ (x.scale 2 (-guess)).floor then guess + 1 else guess

/-- The magnitude that is nearest to a fraction. -/
def round? (x : Fraction) : Option Binary64 :=
  if x.num = 0 then some zero
  else
    let e := exponentOf x
    let m := (x.scale 2 (-e)).round
    let rounded : Binary64 := if m = Nat.pow 2 precision then ⟨m / 2, e + 1⟩ else ⟨m, e⟩
    if highestExponent < rounded.exponent then none else some rounded

/-- The product of a magnitude and another one. -/
def times? (x y : Binary64) : Option Binary64 :=
  round? (Fraction.scale ⟨x.mantissa * y.mantissa, 1⟩ 2 (x.exponent + y.exponent))

/-- The quotient of a magnitude and another one, which is not zero. -/
def over? (x y : Binary64) : Option Binary64 :=
  round? (Fraction.scale ⟨x.mantissa, y.mantissa⟩ 2 (x.exponent - y.exponent))

end Binary64

end CompilerFlags
