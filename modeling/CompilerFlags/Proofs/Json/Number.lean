import CompilerFlags.Data.Json.Reader
import Mathlib.Data.List.TakeDrop
import Mathlib.Data.List.TakeWhile
import Mathlib.Tactic.Lemma

/-!
# Numbers in JSON are read as they were written

An integer of 64 bits is read back from its decimal digits (`Json.number?_toString`): on the way to its
last digit the reader only meets smaller numbers, so that no digit is dropped (`Json.fill_toDigits`).
Whatever is read as a number is written with the characters of numbers only
(`Json.isNumberChar_of_number?`), so that the reader finds its end.
-/

namespace CompilerFlags.Json

variable {s digits : List Char} {n : Nat} {v : Value}

/-! ## Integers -/

/-- Digits are appended one by one, as long as the number that they make up has 64 bits. -/
lemma fill_of_ofDigitChars_lt (hbound : Nat.ofDigitChars 10 digits n < wordBound) :
    fill n digits = (Nat.ofDigitChars 10 digits n, []) := by
  induction digits generalizing n with
  | nil => rfl
  | cons c digits ih =>
    have hnext : n * 10 + digitValue c = 10 * n + (c.toNat - '0'.toNat) :=
      congrArg (· + digitValue c) (Nat.mul_comm n 10)
    rw [Nat.ofDigitChars_cons] at hbound ⊢
    -- the number only grows with the digits that follow
    have hgrows : 10 * n + (c.toNat - '0'.toNat) ≤
        Nat.ofDigitChars 10 digits (10 * n + (c.toNat - '0'.toNat)) := by
      rw [Nat.ofDigitChars_eq_ofDigitChars_zero]
      exact Nat.le_add_right_of_le (Nat.le_mul_of_pos_left _ (Nat.pow_pos (by decide)))
    unfold fill
    dsimp only
    rw [hnext, if_pos (Nat.lt_of_le_of_lt hgrows hbound)]
    exact ih hbound

lemma fill_toDigits (hn : n < wordBound) : fill 0 (Nat.toDigits 10 n) = (n, []) := by
  have hvalue : Nat.ofDigitChars 10 (Nat.toDigits 10 n) 0 = n := Nat.ofDigitChars_ten_toDigits
  rw [fill_of_ofDigitChars_lt (by rwa [hvalue]), hvalue]

lemma isDigit_of_mem_toDigits {c : Char} (h : c ∈ Nat.toDigits 10 n) : c.isDigit = true :=
  Nat.isDigit_of_mem_toDigits (by decide) (by decide) h

/-- Digits with or without a sign are read as the whole part of a number. -/
lemma numeral?_toDigits (isNegative : Bool) (n : Nat) :
    numeral? ((if isNegative then ['-'] else []) ++ Nat.toDigits 10 n) =
      some ⟨isNegative, Nat.toDigits 10 n, none, none⟩ := by
  have hspan : (Nat.toDigits 10 n).span Char.isDigit = (Nat.toDigits 10 n, []) := by
    rw [List.span_eq_takeWhile_dropWhile,
      List.takeWhile_eq_self_iff.2 fun _ => isDigit_of_mem_toDigits,
      List.dropWhile_eq_nil_iff.2 fun _ => isDigit_of_mem_toDigits]
  have hne : (Nat.toDigits 10 n).isEmpty = false := List.isEmpty_eq_false_iff.2 Nat.toDigits_ne_nil
  cases isNegative with
  | true =>
    show numeral? ('-' :: Nat.toDigits 10 n) = _
    unfold numeral?
    simp only [hspan, hne]
    rfl
  | false =>
    show numeral? (Nat.toDigits 10 n) = _
    have hsign : ∀ rest, Nat.toDigits 10 n ≠ '-' :: rest := by
      intro rest heq
      have hdigit : '-'.isDigit = true := isDigit_of_mem_toDigits (heq ▸ List.mem_cons_self)
      revert hdigit
      decide
    unfold numeral?
    split
    next isNegative s heq =>
      split at heq
      · next heq' => exact absurd heq' (hsign _)
      · cases heq
        simp only [hspan, hne]
        rfl

lemma number?_of_integer? {m : Numeral} {i : Int} (hs : numeral? s = some m)
    (hm : m.integer? = some i) : number? s = some (.int i) := by
  unfold number?
  rw [hs, Option.bind_eq_bind, Option.bind_some, hm]

/-- An integer of 64 bits is read as it was written. -/
lemma number?_toString {i : Int} (hlow : -(Nat.pow 2 63 : Int) ≤ i) (hhigh : i < wordBound) :
    number? (toString i).toList = some (.int i) := by
  cases i with
  | ofNat n =>
    have hbound : n < wordBound := Int.ofNat_lt.1 hhigh
    have htext : (toString (Int.ofNat n)).toList = [] ++ Nat.toDigits 10 n := Nat.toList_repr
    rw [htext]
    refine number?_of_integer? (numeral?_toDigits false n) ?_
    unfold Numeral.integer?
    rw [fill_toDigits hbound]
    rfl
  | negSucc n =>
    have hlow' : n + 1 ≤ Nat.pow 2 63 := Int.ofNat_le.1 (Int.neg_le_neg_iff.1 hlow)
    have hbound : n + 1 < wordBound := Nat.lt_of_le_of_lt hlow' (by decide)
    have htext : (toString (Int.negSucc n)).toList = ['-'] ++ Nat.toDigits 10 (n + 1) := by
      rw [← Nat.toList_repr]
      exact String.toList_append
    rw [htext]
    refine number?_of_integer? (numeral?_toDigits true (n + 1)) ?_
    unfold Numeral.integer?
    rw [fill_toDigits hbound]
    show (if (decide (n + 1 = 0) || decide (Nat.pow 2 63 < n + 1)) = true then none
      else some (-((n + 1 : Nat) : Int))) = _
    rw [decide_eq_false (Nat.succ_ne_zero n), decide_eq_false (Nat.not_lt.2 hlow')]
    rfl

/-! ## The characters of numbers -/

lemma isNumberChar_of_isDigit {c : Char} (h : c.isDigit = true) : isNumberChar c = true := by
  unfold isNumberChar
  rw [h]
  rfl

lemma isNumberChar_of_exponent? {e : Int} (h : exponent? s = some e) :
    ∀ c ∈ s, isNumberChar c = true := by
  unfold exponent? at h
  split at h
  next isNegative digits hparts =>
    have hdigits : ∀ c ∈ digits, isNumberChar c = true := by
      intro c hc
      split at h
      · cases h
      · next hgood =>
        rw [Bool.or_eq_true, not_or, Bool.not_eq_true', Bool.not_eq_false, List.all_eq_true] at hgood
        exact isNumberChar_of_isDigit (hgood.2 c hc)
    split at hparts
    · cases hparts
      exact List.forall_mem_cons.2 ⟨by decide, hdigits⟩
    · cases hparts
      exact List.forall_mem_cons.2 ⟨by decide, hdigits⟩
    · cases hparts
      exact hdigits

/-- Digits stand in front of what is left of a text. -/
lemma isNumberChar_of_dropWhile
    (hrest : ∀ c ∈ s.dropWhile Char.isDigit, isNumberChar c = true) :
    ∀ c ∈ s, isNumberChar c = true := by
  have hdigits : ∀ c ∈ s.takeWhile Char.isDigit, isNumberChar c = true :=
    fun c hc => isNumberChar_of_isDigit (List.mem_takeWhile_imp hc)
  rw [← List.takeWhile_append_dropWhile (p := Char.isDigit) (l := s)]
  exact List.forall_mem_append.2 ⟨hdigits, hrest⟩

/-- What has the parts of a number is made of its characters: the sign, the whole digits, the point
with the digits after it, and the exponent follow each other. -/
lemma isNumberChar_of_numeral? {m : Numeral} (h : numeral? s = some m) :
    s ≠ [] ∧ ∀ c ∈ s, isNumberChar c = true := by
  unfold numeral? at h
  split at h
  next isNegative unsigned hsign =>
  split at h
  next whole left hwhole =>
  split at h
  next fraction tail hfraction =>
  split at h
  · cases h
  next hdigits =>
  have htail : ∀ c ∈ tail, isNumberChar c = true := by
    split at h
    · exact List.forall_mem_nil _
    · next rest =>
      split at h
      · next hletter =>
        obtain ⟨e, he, -⟩ := Option.map_eq_some_iff.1 h
        refine List.forall_mem_cons.2 ⟨?_, isNumberChar_of_exponent? he⟩
        rw [Bool.or_eq_true, decide_eq_true_iff, decide_eq_true_iff] at hletter
        rcases hletter with rfl | rfl <;> decide
      · cases h
  rw [List.span_eq_takeWhile_dropWhile, Prod.mk.injEq] at hwhole
  obtain ⟨rfl, rfl⟩ := hwhole
  have hunsigned : ∀ c ∈ unsigned, isNumberChar c = true := by
    apply isNumberChar_of_dropWhile
    split at hfraction
    · next rest hpoint =>
      cases hfraction
      rw [hpoint]
      exact List.forall_mem_cons.2 ⟨by decide, isNumberChar_of_dropWhile htail⟩
    · cases hfraction
      exact htail
  have hne : unsigned ≠ [] := by
    rintro rfl
    exact hdigits rfl
  split at hsign
  · cases hsign
    exact ⟨List.cons_ne_nil _ _, List.forall_mem_cons.2 ⟨by decide, hunsigned⟩⟩
  · cases hsign
    exact ⟨hne, hunsigned⟩

/-- What is read as a number is made of the characters of numbers. -/
lemma isNumberChar_of_number? (h : number? s = some v) :
    s ≠ [] ∧ ∀ c ∈ s, isNumberChar c = true := by
  obtain ⟨m, hm, -⟩ := Option.bind_eq_some_iff.1 h
  exact isNumberChar_of_numeral? hm

end CompilerFlags.Json
