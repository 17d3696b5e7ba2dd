/-!
# Texts as octets

Programs and files deal in octets.  An octet is written here as the character with its number, so a
row of octets is a list of characters below U+0100.  `Octets.encode` gives the octets of a text in
UTF-8.

There are two ways back.  `Octets.decode?` refuses what is not well formed.  `Octets.decodeLossy`
puts the replacement character in the place of each part that is not well formed, where a part is
as long as it could still have become a character.
-/

namespace CompilerFlags

/-- A row of octets. -/
abbrev Octets := List Char

namespace Octets

/-- The octets of a character. -/
def ofChar (c : Char) : Octets :=
  (String.utf8EncodeChar c).map fun b => Char.ofNat b.toNat

/-- The octets of a text. -/
def encode (s : String) : Octets := s.toList.flatMap ofChar

/-- A range of numbers of octets. -/
structure Range where
  first : Nat
  last : Nat

/-- Whether the number of an octet is in a range. -/
def Range.has (r : Range) (c : Char) : Bool := r.first ≤ c.toNat && c.toNat ≤ r.last

/-- The range of the octets that continue a character. -/
def continuing : Range := ⟨0x80, 0xBF⟩

/-- The bits that the first octet of a character gives to it, and the ranges of the octets that have
to follow.  The ranges after some first octets are narrower, which excludes longer ways of writing a
character, surrogates and numbers that are too large. -/
def leading? (c : Char) : Option (Nat × List Range) :=
  let n := c.toNat
  if n < 0x80 then some (n, [])
  else if n < 0xC2 then none
  else if n < 0xE0 then some (n - 0xC0, [continuing])
  else if n = 0xE0 then some (0, [⟨0xA0, 0xBF⟩, continuing])
  else if n = 0xED then some (0xD, [⟨0x80, 0x9F⟩, continuing])
  else if n < 0xF0 then some (n - 0xE0, [continuing, continuing])
  else if n = 0xF0 then some (0, [⟨0x90, 0xBF⟩, continuing, continuing])
  else if n < 0xF4 then some (n - 0xF0, [continuing, continuing, continuing])
  else if n = 0xF4 then some (4, [⟨0x80, 0x8F⟩, continuing, continuing])
  else none

/-- Reads the octets that have to follow; without a number if one of them is missing.  What was
read up to there is not in the rest. -/
def follow (bits : Nat) : List Range → Octets → Option Nat × Octets
  | [], s => (some bits, s)
  | _ :: _, [] => (none, [])
  | r :: rs, c :: s =>
    if r.has c then follow (bits * 64 + (c.toNat - 0x80)) rs s else (none, c :: s)

/-- Reads the character that starts with an octet; there is none if it is not well formed. -/
def next (c : Char) (s : Octets) : Option Char × Octets :=
  match leading? c with
  | none => (none, s)
  | some (bits, ranges) =>
    let read := follow bits ranges s
    (read.1.map Char.ofNat, read.2)

/-- Reads characters, none for each part that is not well formed.  Each takes at least one octet, so
that as many steps as there are octets suffice. -/
def characters : Nat → Octets → List (Option Char)
  | 0, _ => []
  | _ + 1, [] => []
  | steps + 1, c :: s =>
    let read := next c s
    read.1 :: characters steps read.2

/-- The text that some octets are, if they are well formed. -/
def decode? (s : Octets) : Option String :=
  ((characters s.length s).mapM id).map String.ofList

/-- The text that some octets are, with replacement characters for what is not well formed. -/
def decodeLossy (s : Octets) : String :=
  String.ofList ((characters s.length s).map (·.getD '\ufffd'))

end Octets

end CompilerFlags
