import CompilerFlags.Script.Syntax

/-!
# Patterns

A pattern is a row of items: an octet that stands for itself, any octet, an octet of a set, or any
row of octets.  A pattern is written as a text in which a backslash makes the octet after it stand
for itself.

In the order of octets that ranges follow, the upper half of the octets comes before the lower one.
-/

namespace CompilerFlags.Script

/-- The place of an octet in the order of ranges. -/
def rank (c : Char) : Int := if c.toNat < 128 then c.toNat else (c.toNat : Int) - 256

/-- An item of a pattern. -/
inductive Item
  | exactly (c : Char)
  | any
  /-- An octet in one of the ranges, or in none of them. -/
  | oneOf (inside : Bool) (ranges : List (Char × Char))
  | anything
deriving DecidableEq, Repr

/-- Whether an octet matches an item for single octets. -/
def Item.accepts (c : Char) : Item → Bool
  | exactly d => c = d
  | any => true
  | oneOf inside ranges => (ranges.any fun r => rank r.1 ≤ rank c && rank c ≤ rank r.2) == inside
  | anything => false

namespace Pattern

/-- The classes of octets that have a name. -/
def classes : List (String × List (Char × Char)) :=
  [("alpha", [('A', 'Z'), ('a', 'z')]), ("digit", [('0', '9')]),
    ("alnum", [('0', '9'), ('A', 'Z'), ('a', 'z')]), ("upper", [('A', 'Z')]),
    ("lower", [('a', 'z')]), ("space", [('\t', '\r'), (' ', ' ')]),
    ("blank", [('\t', '\t'), (' ', ' ')]), ("cntrl", [('\x00', '\x1f'), ('\x7f', '\x7f')]),
    ("graph", [('!', '~')]), ("print", [(' ', '~')]),
    ("punct", [('!', '/'), (':', '@'), ('[', '\x60'), ('\x7b', '~')]),
    ("xdigit", [('0', '9'), ('A', 'F'), ('a', 'f')])]

/-- Reads a class after its opening bracket: a colon, the name, and a colon and bracket. -/
def class? (s : Octets) : Option (List (Char × Char) × Octets) :=
  match s with
  | ':' :: rest =>
    match rest.span Char.isAlpha with
    | (name, ':' :: ']' :: rest) => (classes.lookup (String.ofList name)).map (·, rest)
    | _ => none
  | _ => none

/-- What a set holds because of the octets in front, and what follows them.  A range is made of two
octets with a dash between them, unless the dash is the last octet of the set. -/
def ranges? (c : Char) (s : Octets) : Option (List (Char × Char) × Octets) :=
  match s with
  | '-' :: '\\' :: d :: rest => some ([(c, d)], rest)
  | '-' :: ']' :: _ => some ([(c, c)], s)
  | '-' :: d :: rest => if d = '\\' then none else some ([(c, d)], rest)
  | ['-'] => none
  | _ => some ([(c, c)], s)

/-- Reads the octets between brackets up to the closing one, in at most so many steps.  A closing
bracket at the start stands for itself. -/
def inside? : Nat → Bool → Octets → Option (List (Char × Char) × Octets)
  | 0, _, _ => none
  | _ + 1, _, [] => none
  | steps + 1, isFirst, c :: rest =>
    if c = ']' && !isFirst then some ([], rest)
    else
      let found :=
        if c = '[' then (class? rest).or (ranges? c rest)
        else if c = '\\' then
          match rest with
          | [] => none
          | d :: rest => ranges? d rest
        else ranges? c rest
      match found with
      | none => none
      | some (rs, rest) => (inside? steps false rest).map fun (others, rest) => (rs ++ others, rest)

/-- Reads a set after its opening bracket. -/
def set? (s : Octets) : Option (Item × Octets) :=
  let (isIn, s) := match s with
    | '!' :: rest => (false, rest)
    | _ => (true, s)
  (inside? s.length true s).map fun (rs, rest) => (.oneOf isIn rs, rest)

/-- The items of a pattern, of which there are at most so many. -/
def itemsWithin : Nat → Octets → List Item
  | 0, _ => []
  | _ + 1, [] => []
  | steps + 1, c :: rest =>
    if c = '\\' then
      match rest with
      | [] => [.exactly c]
      | d :: rest => .exactly d :: itemsWithin steps rest
    else if c = '*' then .anything :: itemsWithin steps rest
    else if c = '?' then .any :: itemsWithin steps rest
    else if c = '[' then
      match set? rest with
      | some (item, rest) => item :: itemsWithin steps rest
      | none => .exactly c :: itemsWithin steps rest
    else .exactly c :: itemsWithin steps rest

/-- The items of a pattern. -/
def items (s : Octets) : List Item := itemsWithin s.length s

/-- Whether the rest matches after some octets were left out in front. -/
def matchesLater (rest : Octets → Bool) : Octets → Bool
  | [] => rest []
  | c :: s => rest (c :: s) || matchesLater rest s

/-- Whether octets match a row of items. -/
def accepts : List Item → Octets → Bool
  | [], s => s.isEmpty
  | .anything :: items, s => items.isEmpty || matchesLater (accepts items) s
  | item :: items, c :: s => item.accepts c && accepts items s
  | _ :: _, [] => false

/-- Whether octets match a pattern. -/
def isMatch (pattern s : Octets) : Bool := accepts (items pattern) s

/-! ### Cutting values -/

/-- Octets up to the one that ends texts. -/
def untilNul (s : Octets) : Octets := s.takeWhile (· ≠ '\x00')

/-- The octets without what matches a pattern at their start or end, as much as possible or as
little as possible.  Several texts may stand behind each other, each of which ends at an octet of
its own; a match does not go beyond the end of a text, and the places are tried from the left only
up to the end of the first one. -/
def trimmed (atEnd greedy : Bool) (pattern s : Octets) : Octets :=
  let items := items pattern
  let places :=
    if atEnd = greedy then List.range ((untilNul s).length + 1)
    else (List.range (s.length + 1)).reverse
  let isCut (n : Nat) : Bool := accepts items (untilNul (if atEnd then s.drop n else s.take n))
  match places.find? isCut with
  | some n => if atEnd then s.take n else s.drop n
  | none => s

end Pattern

end CompilerFlags.Script
