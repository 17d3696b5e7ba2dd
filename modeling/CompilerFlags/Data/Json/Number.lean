import CompilerFlags.Data.Decimal
import CompilerFlags.Data.Value

/-!
# Numbers in JSON

A number without a fraction and an exponent is an integer if it has 64 bits.  All other numbers are
numbers of 64 bits with a binary point, which are computed in three steps: the digits that fit in 64
bits, the power of ten, and the product or quotient of the two are rounded one after another.

Such a number is written with the fewest digits that stand for it, with a point and at least one
digit on each side of it, or with a power of ten if it is very large or very small.
-/

namespace CompilerFlags.Json

/-! ### Reading -/

/-- Natural numbers of 64 bits are smaller than this. -/
def wordBound : Nat := Nat.pow 2 64

/-- The value of a decimal digit. -/
def digitValue (c : Char) : Nat := c.toNat - 48

/-- Appends digits to a number as long as the result has 64 bits; the other digits are left. -/
def fill : Nat → List Char → Nat × List Char
  | n, [] => (n, [])
  | n, c :: cs =>
    let next := n * 10 + digitValue c
    if next < wordBound then fill next cs else (n, c :: cs)

/-- The parts of a number as it is written. -/
structure Numeral where
  isNegative : Bool
  whole : List Char
  /-- The digits after the point, if there is one. -/
  fraction : Option (List Char)
  /-- The exponent, if there is one. -/
  exponent : Option Int

/-- Reads the exponent after its letter. -/
def exponent? (s : List Char) : Option Int :=
  let (isNegative, digits) := match s with
    | '-' :: rest => (true, rest)
    | '+' :: rest => (false, rest)
    | _ => (false, s)
  if digits.isEmpty || !digits.all Char.isDigit then none
  else
    let n : Int := digits.foldl (fun n c => n * 10 + digitValue c) 0
    some (if isNegative then -n else n)

/-- Reads the parts of a number. -/
def numeral? (s : List Char) : Option Numeral := do
  let (isNegative, s) := match s with
    | '-' :: rest => (true, rest)
    | _ => (false, s)
  let (whole, s) := s.span Char.isDigit
  let (fraction, s) := match s with
    | '.' :: rest => (some (rest.takeWhile Char.isDigit), rest.dropWhile Char.isDigit)
    | _ => (none, s)
  if whole.isEmpty || fraction == some [] then none
  else
    match s with
    | [] => some ⟨isNegative, whole, fraction, none⟩
    | c :: rest =>
      if c = 'e' || c = 'E' then
        (exponent? rest).map fun e => ⟨isNegative, whole, fraction, some e⟩
      else none

/-- The largest power of ten that is multiplied with at once. -/
def largestPower : Nat := 308

/-- A power of ten, which is not too large. -/
def power? (n : Nat) : Option Binary64 := Binary64.round? ⟨Nat.pow 10 n, 1⟩

/-- A magnitude times a power of ten.  Very small powers are taken in several steps, of which there
are at most so many. -/
def timesPower? : Nat → Binary64 → Int → Option Binary64
  | 0, x, _ => some x
  | steps + 1, x, e =>
    if e.natAbs ≤ largestPower then do
      let power ← power? e.natAbs
      if e < 0 then x.over? power else x.times? power
    else if x.mantissa = 0 then some x
    else if 0 ≤ e then none
    else do
      let x ← x.over? (← power? largestPower)
      timesPower? steps x (e + largestPower)

/-- The magnitude of a number. -/
def Numeral.magnitude? (n : Numeral) : Option Binary64 := do
  let (digits, dropped) := fill 0 n.whole
  let fraction := n.fraction.getD []
  let (digits, rest) := fill digits fraction
  let taken : Int := dropped.length - (fraction.length - rest.length : Nat)
  timesPower? 4 (← Binary64.round? ⟨digits, 1⟩) (taken + n.exponent.getD 0)

/-! ### Writing -/

/-- The powers of ten of the first digit with which no exponent is written. -/
def isPositional (exponent : Int) : Bool := decide (-5 ≤ exponent) && decide (exponent ≤ 15)

/-- Digits with a point after so many of them. -/
def withPoint (digits : List Char) (places : Nat) : List Char :=
  let whole := digits.take places ++ List.replicate (places - digits.length) '0'
  let fraction := digits.drop places
  whole ++ '.' :: (if fraction.isEmpty then ['0'] else fraction)

/-- A number that is not zero, as it is written. -/
def decimalText (d : Decimal) : List Char :=
  let digits := d.letters
  if isPositional d.exponent then
    if d.exponent < 0 then
      withPoint ('0' :: List.replicate (d.exponent.natAbs - 1) '0' ++ digits) 1
    else withPoint digits (d.exponent.toNat + 1)
  else
    let fraction := digits.drop 1
    digits.take 1 ++ (if fraction.isEmpty then [] else '.' :: fraction) ++
      'e' :: (if d.exponent < 0 then '-' else '+') :: Nat.toDigits 10 d.exponent.natAbs

/-- A number with a sign, as it is written. -/
def realText (isNegative : Bool) (x : Binary64) : String :=
  let text := if x.mantissa = 0 then ['0', '.', '0'] else decimalText (Decimal.shortest x)
  String.ofList (if isNegative then '-' :: text else text)

/-! ### Values -/

/-- The integer that a number is, if it has 64 bits.  There is no negative zero among them. -/
def Numeral.integer? (n : Numeral) : Option Int :=
  let (digits, rest) := fill 0 n.whole
  if n.fraction.isSome || n.exponent.isSome || !rest.isEmpty then none
  else if !n.isNegative then some digits
  else if digits = 0 || Nat.pow 2 63 < digits then none
  else some (-(digits : Int))

/-- The value that a number stands for. -/
def number? (s : List Char) : Option Value := do
  let n ← numeral? s
  match n.integer? with
  | some i => some (.int i)
  | none => n.magnitude?.map fun x => .real (realText n.isNegative x)

end CompilerFlags.Json
