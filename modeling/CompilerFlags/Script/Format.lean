import CompilerFlags.Script.Escape
import CompilerFlags.Script.Floating

/-!
# What `printf` writes

A format is written as it is, but for escapes and directives.  A directive starts with a percent
sign and takes an argument, which it writes in its own way: a text, an octet or a number.  The
format is used again as long as it takes arguments and some are left.
-/

namespace CompilerFlags.Script

/-- How a directive writes its argument. -/
structure Directive where
  isLeft : Bool
  hasZeros : Bool
  hasPlus : Bool
  hasBlank : Bool
  isAlternate : Bool
  width : Nat
  precision : Option Nat
deriving Repr

namespace Directive

/-- The directive without anything between the percent sign and the letter. -/
def bare : Directive := ⟨false, false, false, false, false, 0, none⟩

/-- Reads flags. -/
def flags : Directive → Octets → Directive × Octets
  | d, '-' :: s => flags { d with isLeft := true } s
  | d, '0' :: s => flags { d with hasZeros := true } s
  | d, '+' :: s => flags { d with hasPlus := true } s
  | d, ' ' :: s => flags { d with hasBlank := true } s
  | d, '#' :: s => flags { d with isAlternate := true } s
  | d, s => (d, s)

/-- Octets in the width of a directive. -/
def pad (d : Directive) (s : Octets) : Octets :=
  let blanks := List.replicate (d.width - s.length) ' '
  if d.isLeft then s ++ blanks else blanks ++ s

/-- A text as a directive writes it. -/
def text (d : Directive) (s : Octets) : Octets :=
  d.pad (match d.precision with
    | some n => s.take n
    | none => s)

/-- A sign and digits as a directive writes them. -/
def number (d : Directive) (sign digits : Octets) : Octets :=
  let digits := match d.precision with
    | some n => List.replicate (n - digits.length) '0' ++ digits
    | none =>
      if d.hasZeros && !d.isLeft then
        List.replicate (d.width - sign.length - digits.length) '0' ++ digits
      else digits
  d.pad (sign ++ digits)

/-- The sign of a number, or what stands in its place. -/
def sign (d : Directive) (isNegative : Bool) : Octets :=
  if isNegative then ['-'] else if d.hasPlus then ['+'] else if d.hasBlank then [' '] else []

/-- Digits, of which there are none for zero if none are asked for. -/
def digits (d : Directive) (base n : Nat) : Octets :=
  if n = 0 && d.precision = some 0 then [] else Nat.toDigits base n

/-- A whole number with its sign. -/
def integer (d : Directive) (n : Int) : Octets :=
  d.number (d.sign (decide (n < 0))) (d.digits 10 n.natAbs)

/-- A sign, the mark of a base and digits that are not made longer by a precision. -/
def measured (d : Directive) (sign digits : Octets) : Octets :=
  Directive.number { d with precision := none } sign digits

/-- A number with a point, in the form of a letter. -/
def floating (d : Directive) (letter : Char) (x : Floating) : Octets :=
  let sign := d.sign x.isNegative
  let write (s : Octets) : Octets := if letter.isUpper then s.map Char.toUpper else s
  match x.magnitude with
  | .finite m =>
    let mark := if letter.toLower = 'a' then ['0', 'x'] else []
    let digits := Floating.body letter.toLower ⟨d.precision, d.isAlternate⟩ m
    d.measured (sign ++ write mark) (write digits)
  | .infinite => d.pad (sign ++ write "inf".toList)
  | .undefined => d.pad (sign ++ write "nan".toList)

/-- A number without a sign, in the base of a letter. -/
def natural (d : Directive) (c : Char) (n : Nat) : Octets :=
  let isMarked := d.isAlternate && n ≠ 0
  match c with
  | 'o' =>
    let digits := d.digits 8 n
    d.number [] (if isMarked || (d.isAlternate && digits.isEmpty) then '0' :: digits else digits)
  | 'x' => d.number (if isMarked then ['0', 'x'] else []) (d.digits 16 n)
  | 'X' => d.number (if isMarked then ['0', 'X'] else []) ((d.digits 16 n).map Char.toUpper)
  | _ => d.number [] (d.digits 10 n)

end Directive

/-- What a format has made of arguments so far. -/
structure Printed where
  text : Octets
  complaints : List Octets
  arguments : List Octets
  /-- Whether nothing more is written. -/
  isOver : Bool
  status : Nat

namespace Printed

/-- Writes octets. -/
def add (p : Printed) (s : Octets) : Printed := { p with text := p.text ++ s }

/-- Notes what is wrong with an argument. -/
def note (p : Printed) (s : Octets) (complaint : String) : Printed :=
  { p with complaints := p.complaints ++ [s ++ ": ".toList ++ complaint.toList], status := 1 }

/-- Stops because of what is wrong with the format. -/
def refuse (p : Printed) (complaint : Octets) : Printed :=
  { p with complaints := p.complaints ++ [complaint], status := 2, isOver := true }

/-- Takes an argument. -/
def next (p : Printed) : Octets × Printed :=
  (p.arguments.headD [], { p with arguments := p.arguments.tail })

/-- Takes an argument that is a number from the lowest to the highest.  A quote gives the number of
the octet after it. -/
def nextNumber (p : Printed) (lowest highest : Int) : Int × Printed :=
  let (s, p) := p.next
  match s with
  | [] => (0, p)
  | '\'' :: rest => (((rest.headD '\x00').toNat : Int), p)
  | '"' :: rest => (((rest.headD '\x00').toNat : Int), p)
  | _ =>
    match Numeral.signed? true s with
    | none => (0, p.note s "expected numeric value")
    | some (n, rest) =>
      let fitting := max lowest (min n highest)
      if !rest.isEmpty then (fitting, p.note s "not completely converted")
      else if fitting ≠ n then (fitting, p.note s "Numerical result out of range")
      else (fitting, p)

/-- Takes an argument that is a whole number. -/
def nextInteger (p : Printed) : Int × Printed :=
  p.nextNumber (-(Numeral.largest : Int) - 1) Numeral.largest

/-- One more than the largest number without a sign. -/
def modulus : Nat := 18446744073709551616

/-- Takes an argument that is a number without a sign; a negative one counts from the other end. -/
def nextNatural (p : Printed) : Nat × Printed :=
  let (n, p) := p.nextNumber (-(modulus : Int) + 1) ((modulus : Int) - 1)
  ((n % (modulus : Int)).toNat, p)

/-- Takes an argument that is a number with a point. -/
def nextFloating (p : Printed) : Floating × Printed :=
  let (s, p) := p.next
  match s with
  | [] => (.zero, p)
  | '\'' :: rest => (.ofNat (rest.headD '\x00').toNat, p)
  | '"' :: rest => (.ofNat (rest.headD '\x00').toNat, p)
  | _ =>
    match Floating.read? s with
    | none => (.zero, p.note s "expected numeric value")
    | some ((x, isOut), rest) =>
      if !rest.isEmpty then (x, p.note s "not completely converted")
      else if isOut then (x, p.note s "Numerical result out of range")
      else (x, p)

/-- Reads a count: digits, or a star that stands for an argument. -/
def count (p : Printed) (s : Octets) : Option Int × Octets × Printed :=
  match s with
  | '*' :: rest =>
    let (n, p) := p.nextInteger
    (some n, rest, p)
  | _ =>
    match s.span Char.isDigit with
    | ([], _) => (none, s, p)
    | (ds, rest) => (some (Numeral.valueIn 10 ds : Nat), rest, p)

/-- Reads what stands between the percent sign and the letter. -/
def directive (p : Printed) (s : Octets) : Directive × Octets × Printed :=
  let (d, s) := Directive.bare.flags s
  let (width, s, p) := p.count s
  let width := width.getD 0
  let d := { d with width := width.natAbs, isLeft := d.isLeft || decide (width < 0) }
  match s with
  | '.' :: s =>
    let (precision, s, p) := p.count s
    let precision := precision.getD 0
    (if precision < 0 then d else { d with precision := some precision.toNat }, s, p)
  | _ => (d, s, p)

/-- Writes an argument in the way of a letter.  The text of the directive is given for
complaints. -/
def convert (p : Printed) (d : Directive) (c : Char) (text : Octets) : Printed :=
  match c with
  | 'd' =>
    let (n, p) := p.nextInteger
    p.add (d.integer n)
  | 'i' =>
    let (n, p) := p.nextInteger
    p.add (d.integer n)
  | 'c' =>
    let (s, p) := p.next
    p.add (d.pad [s.headD '\x00'])
  | 's' =>
    let (s, p) := p.next
    p.add (d.text s)
  | 'b' =>
    let (s, p) := p.next
    let read := unescape s
    { p.add (d.text read.1) with isOver := !read.2 }
  | _ =>
    if c = 'o' || c = 'u' || c = 'x' || c = 'X' then
      let (n, p) := p.nextNatural
      p.add (d.natural c n)
    else if c.toLower ∈ ['a', 'e', 'f', 'g'] then
      let (x, p) := p.nextFloating
      p.add (d.floating c x)
    else p.refuse (text ++ ": invalid directive".toList)

/-- Writes a format, in at most so many steps. -/
def format : Nat → Octets → Printed → Printed
  | 0, _, p => p
  | _ + 1, [], p => p
  | steps + 1, '%' :: '%' :: s, p => format steps s (p.add ['%'])
  | steps + 1, '%' :: s, p =>
    match p.directive s with
    | (_, [], p) => p.refuse "missing format character".toList
    | (d, c :: rest, p) =>
      let p := p.convert d c ('%' :: s.take (s.length - rest.length))
      if p.isOver then p else format steps rest p
  | steps + 1, '\\' :: s, p =>
    let read := escape s
    format steps read.2 (p.add [read.1])
  | steps + 1, c :: s, p => format steps s (p.add [c])

/-- Writes a format again and again, at most so many times. -/
def repeated (s : Octets) : Nat → Printed → Printed
  | 0, p => p
  | times + 1, p =>
    let done := format s.length s p
    if done.isOver || done.arguments.isEmpty || done.arguments.length = p.arguments.length then done
    else repeated s times done

end Printed

/-- What `printf` makes of a format and arguments. -/
def printf (format : Octets) (arguments : List Octets) : Printed :=
  Printed.repeated format (arguments.length + 1) ⟨[], [], arguments, false, 0⟩

end CompilerFlags.Script
