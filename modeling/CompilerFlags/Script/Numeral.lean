import CompilerFlags.Script.Syntax

/-!
# Whole numbers in texts

A number may have blanks and a sign in front.  Its digits are those of base 10, or, where any base
is allowed, those of base 16 after `0x` and those of base 8 after `0`.  Numbers have 64 bits.
-/

namespace CompilerFlags.Script.Numeral

/-- The octets that count as blanks around numbers. -/
def isSpace (c : Char) : Bool := c = ' ' || ('\t' ≤ c && c ≤ '\r')

/-- The value of a digit. -/
def digit (c : Char) : Nat :=
  if c.isDigit then c.toNat - 48 else if c.toNat < 97 then c.toNat - 55 else c.toNat - 87

/-- Whether an octet is a digit in a base. -/
def isDigitIn (base : Nat) (c : Char) : Bool :=
  (c.isDigit || ('a' ≤ c && c ≤ 'f') || ('A' ≤ c && c ≤ 'F')) && digit c < base

/-- The value of digits in a base. -/
def valueIn (base : Nat) (s : Octets) : Nat := s.foldl (fun n c => n * base + digit c) 0

/-- Reads digits in a base. -/
def digits? (base : Nat) (s : Octets) : Option (Nat × Octets) :=
  match s.span (isDigitIn base) with
  | ([], _) => none
  | (ds, rest) => some (valueIn base ds, rest)

/-- Reads digits, in front of which the base may stand. -/
def natural? (anyBase : Bool) (s : Octets) : Option (Nat × Octets) :=
  match anyBase, s with
  | true, '0' :: c :: rest =>
    if c = 'x' || c = 'X' then (digits? 16 rest).or (some (0, c :: rest))
    else digits? 8 s
  | _, _ => digits? 10 s

/-- Reads a number with a sign after blanks. -/
def signed? (anyBase : Bool) (s : Octets) : Option (Int × Octets) :=
  match s.dropWhile isSpace with
  | '-' :: rest => (natural? anyBase rest).map fun (n, s) => (-(n : Int), s)
  | '+' :: rest => (natural? anyBase rest).map fun (n, s) => ((n : Int), s)
  | s => (natural? anyBase s).map fun (n, s) => ((n : Int), s)

/-- The largest number. -/
def largest : Nat := 9223372036854775807

/-- Whether a number is one of 64 bits. -/
def fits (n : Int) : Bool := -(largest : Int) - 1 ≤ n && n ≤ largest

/-- A number as far as it fits. -/
def clamp (n : Int) : Int64 := .ofInt (max (-(largest : Int) - 1) (min n largest))

/-- The number that a text is. -/
def whole? (anyBase : Bool) (s : Octets) : Option Int :=
  match signed? anyBase s with
  | some (n, rest) => if rest.all isSpace && fits n then some n else none
  | none => none

/-- The number that the value of a variable is; blanks alone count as nothing. -/
def ofValue? (s : Octets) : Option Int := if s.all isSpace then some 0 else whole? true s

/-- The largest number that commands take. -/
def largestCount : Nat := 2147483647

/-- The number that an argument of a command is. -/
def count? (s : Octets) : Option Nat :=
  match whole? false s with
  | some n => if 0 ≤ n && n ≤ largestCount then some n.toNat else none
  | none => none

end CompilerFlags.Script.Numeral
