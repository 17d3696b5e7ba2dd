import CompilerFlags.Data.Octets
import Mathlib.Data.List.Basic
import Mathlib.Tactic.Lemma
import Mathlib.Tactic.SplitIfs

/-!
# Texts are ordered like their octets

Names are sorted as texts, that is by the numbers of their characters.  Whoever sorts their octets
arrives at the same order (`Octets.encode_lt_iff`): of two characters, the one with the larger
number has the larger octet at the first place where their octets differ, and neither character ends
before that place.
-/

namespace CompilerFlags.Octets

/-! ## Characters -/

/-- The octet with a number. -/
def octet (n : Nat) : Char := Char.ofNat (UInt8.ofNat n).toNat

lemma toNat_octet {n : Nat} (h : n < 256) : (octet n).toNat = n := by
  have hvalid : n.isValidChar := Or.inl (by omega)
  rw [octet, UInt8.toNat_ofNat', Nat.mod_eq_of_lt h, Char.ofNat, dif_pos hvalid]
  rfl

/-- Octets are ordered by their numbers. -/
lemma octet_lt_iff {m n : Nat} (hm : m < 256) (hn : n < 256) : octet m < octet n ↔ m < n := by
  have hlt : octet m < octet n ↔ (octet m).toNat < (octet n).toNat := Iff.rfl
  rw [hlt, toNat_octet hm, toNat_octet hn]

lemma octet_inj {m n : Nat} (hm : m < 256) (hn : n < 256) : octet m = octet n ↔ m = n := by
  rw [← Char.toNat_inj, toNat_octet hm, toNat_octet hn]

/-- The numbers of the octets of the character with a number. -/
def numbers (v : Nat) : List Nat :=
  if v ≤ 0x7F then [v]
  else if v ≤ 0x7FF then [v / 64 % 32 + 192, v % 64 + 128]
  else if v ≤ 0xFFFF then [v / 4096 % 16 + 224, v / 64 % 64 + 128, v % 64 + 128]
  else [v / 262144 % 8 + 240, v / 4096 % 64 + 128, v / 64 % 64 + 128, v % 64 + 128]

lemma ofChar_eq (c : Char) : ofChar c = (numbers c.toNat).map octet := by
  have hc : c.val.toNat = c.toNat := rfl
  unfold ofChar numbers String.utf8EncodeChar
  dsimp only
  rw [hc]
  split_ifs <;> rfl

lemma ofChar_ne_nil (c : Char) : ofChar c ≠ [] := by
  rw [ofChar_eq, numbers]
  split_ifs <;> exact List.cons_ne_nil _ _

/-- Of two characters the smaller one has the smaller octets, whatever follows. -/
lemma ofChar_append_lt {c d : Char} (h : c < d) (r r' : Octets) :
    ofChar c ++ r < ofChar d ++ r' := by
  have hlt : c.toNat < d.toNat := h
  have hd : d.toNat < 0x110000 := by
    rcases d.valid with hd | hd
    · exact Nat.lt_trans hd (by decide)
    · exact hd.2
  rw [ofChar_eq, ofChar_eq]
  generalize c.toNat = v at hlt ⊢
  generalize d.toNat = w at hlt hd ⊢
  -- what an octet does not show of a number is shown by the octets before it
  have hshown (n : Nat) (hn : n < 0x110000) :
      n / 4096 = n / 64 / 64 ∧ n / 262144 = n / 64 / 64 / 64 ∧ n / 262144 % 8 = n / 262144 :=
    ⟨by omega, by omega, by omega⟩
  obtain ⟨hv, hv', hv''⟩ := hshown v (by omega)
  obtain ⟨hw, hw', hw''⟩ := hshown w hd
  unfold numbers
  split_ifs <;>
    simp (disch := omega) only [List.map_cons, List.map_nil, List.cons_append, List.nil_append,
      List.cons_lt_cons_iff, octet_lt_iff, octet_inj] <;>
    omega

/-! ## Texts -/

/-- A smaller text has smaller octets. -/
lemma encode_lt {s t : List Char} (h : s < t) : s.flatMap ofChar < t.flatMap ofChar := by
  induction t generalizing s with
  | nil => exact absurd h (List.not_lt_nil s)
  | cons d t ih =>
    cases s with
    | nil =>
      obtain ⟨o, os, ho⟩ := List.exists_cons_of_ne_nil (ofChar_ne_nil d)
      rw [List.flatMap_cons, ho]
      exact List.nil_lt_cons o _
    | cons c s =>
      rw [List.flatMap_cons, List.flatMap_cons]
      rcases List.cons_lt_cons_iff.1 h with hcd | ⟨rfl, hst⟩
      · exact ofChar_append_lt hcd _ _
      · exact List.append_left_lt (ih hst)

/-- Texts are ordered like their octets. -/
theorem encode_lt_iff {s t : String} : encode s < encode t ↔ s < t := by
  constructor
  · intro h
    by_contra hst
    have hts : ¬t < s := fun hlt => List.lt_asymm h (encode_lt hlt)
    rw [String.le_antisymm (String.not_lt.1 hts) (String.not_lt.1 hst)] at h
    exact List.lt_irrefl _ h
  · exact encode_lt

theorem eq_or_encode_lt_iff {s t : String} : s = t ∨ encode s < encode t ↔ s ≤ t := by
  rw [encode_lt_iff, ← String.not_lt]
  constructor
  · rintro (rfl | h) hts
    · exact String.lt_irrefl s hts
    · exact String.lt_asymm h hts
  · intro h
    by_cases hst : s < t
    · exact Or.inr hst
    · exact Or.inl (String.le_antisymm (String.not_lt.1 h) (String.not_lt.1 hst))

end CompilerFlags.Octets
