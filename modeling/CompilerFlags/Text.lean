/-!
# Text

The questions that the rest of the library asks of a text: which characters are blank, what a
text is without its outer blanks, which words it holds, and whether it starts with, ends with or
contains another one.  Everything is said on the list of characters, so that each function is one
library operation on lists and its laws come from there.

`words` splits at single blanks and drops the empty pieces.  Splitting has no state, so the words
of two texts joined by a blank are the words of the one followed by the words of the other.
-/

namespace CompilerFlags.Text

/-- The characters that have the Unicode property `White_Space`. -/
def isBlank (c : Char) : Bool :=
  let n := c.toNat
  (0x9 ≤ n && n ≤ 0xD) || n == 0x20 || n == 0x85 || n == 0xA0 || n == 0x1680 ||
    (0x2000 ≤ n && n ≤ 0x200A) || n == 0x2028 || n == 0x2029 || n == 0x202F || n == 0x205F ||
    n == 0x3000

/-- The characters without the blanks at the end. -/
def dropBlanksRight (cs : List Char) : List Char :=
  (cs.reverse.dropWhile isBlank).reverse

/-- The text without the blanks at its two ends. -/
def trim (s : String) : String :=
  String.ofList (dropBlanksRight (s.toList.dropWhile isBlank))

/-- The text with the ASCII capitals written small.  Other letters stay as they are. -/
def lower (s : String) : String :=
  String.ofList (s.toList.map Char.toLower)

/-- A text is blank if nothing is left of it after trimming. -/
def isAllBlank (s : String) : Bool :=
  s.toList.all isBlank

/-- The maximal pieces of a text that hold no blank, in order. -/
def words (s : String) : List String :=
  ((s.toList.splitOnP isBlank).filter (!·.isEmpty)).map String.ofList

/-- The pieces between the occurrences of one character. -/
def splitAt (c : Char) (s : String) : List String :=
  (s.toList.splitOn c).map String.ofList

/-- What follows `p` in a list of characters that starts with `p`. -/
def after? : List Char → List Char → Option (List Char)
  | [], s => some s
  | _ :: _, [] => none
  | p :: ps, c :: cs => if p = c then after? ps cs else none

/-- What follows `p` in a text that starts with `p`. -/
def dropStart? (p s : String) : Option String :=
  (after? p.toList s.toList).map String.ofList

/-- What precedes `q` in a text that ends with `q`. -/
def dropEnd? (q s : String) : Option String :=
  (after? q.toList.reverse s.toList.reverse).map fun r => String.ofList r.reverse

/-- Whether `s` starts with `p`. -/
def starts (p s : String) : Bool :=
  p.toList.isPrefixOf s.toList

/-- Whether `s` ends with `q`. -/
def ends (q s : String) : Bool :=
  q.toList.isSuffixOf s.toList

/-- Whether the characters `w` occur somewhere in a row. -/
def occurs (w : List Char) : List Char → Bool
  | [] => w.isEmpty
  | c :: cs => w.isPrefixOf (c :: cs) || occurs w cs

/-- Whether the text `w` occurs in `s`. -/
def contains (w s : String) : Bool :=
  occurs w.toList s.toList

/-- The texts one after another with `sep` between neighbours. -/
def join (sep : String) : List String → String
  | [] => ""
  | [s] => s
  | s :: rest => s ++ sep ++ join sep rest

/-- `n` copies of a character. -/
def pad (n : Nat) (c : Char) : String :=
  String.ofList (List.replicate n c)

/-- The text moved to the right end of a field of `width` characters. -/
def alignRight (width : Nat) (s : String) : String :=
  pad (width - s.length) ' ' ++ s

/-- The text at the left end of a field of `width` characters. -/
def alignLeft (width : Nat) (s : String) : String :=
  s ++ pad (width - s.length) ' '

theorem starts_iff {p s : String} : starts p s = true ↔ p.toList <+: s.toList := by
  simp [starts]

theorem after?_eq_some_iff {p s r : List Char} : after? p s = some r ↔ s = p ++ r := by
  fun_induction after? p s with
  | case1 => simp [eq_comm]
  | case2 => simp
  | case3 p ps cs ih => simp [ih]
  | case4 p ps c cs h => simp [Ne.symm h]

theorem dropStart?_eq_some_iff {p s r : String} : dropStart? p s = some r ↔ s = p ++ r := by
  simp only [dropStart?, Option.map_eq_some_iff, after?_eq_some_iff]
  constructor
  · rintro ⟨a, h, rfl⟩
    apply String.toList_injective
    simp [h]
  · rintro rfl
    exact ⟨r.toList, by simp, by simp⟩

end CompilerFlags.Text
