import CompilerFlags.Data.Json.Quoted
import Mathlib.Tactic.Lemma

/-!
# Quoted text in JSON is read as it was written

Whatever its characters, a text in quotes is read back and ends at its closing quote
(`Json.unquote_quote`).  Each character is written in one of three ways, and one step of the reader takes
what was written for one character (`Json.next?_encodeChar`).  None of the three ways needs a character
below U+0020, so that a written text never ends a line (`Json.isPrintable_quote`).
-/

namespace CompilerFlags.Json

/-- The two hexadecimal digits of a control character stand for it, and they are no controls. -/
lemma hexValue?_hexDigit :
    ∀ n : Fin 16, hexValue? (hexDigit n.val) = some n.val ∧ 0x20 ≤ (hexDigit n.val).toNat := by
  decide

/-- A character is written with an escape of one letter, with a numeric escape, or as it is. -/
lemma encodeChar_cases (c : Char) :
    (∃ letter, (c, letter) ∈ shortEscapes ∧ encodeChar c = ['\\', letter]) ∨
    (c.toNat < 0x20 ∧ encodeChar c =
      ['\\', 'u', '0', '0', hexDigit (c.toNat / 16), hexDigit (c.toNat % 16)]) ∨
    (0x20 ≤ c.toNat ∧ c ≠ '"' ∧ c ≠ '\\' ∧ encodeChar c = [c]) := by
  unfold encodeChar
  cases hletter : shortEscapes.lookup c with
  | some letter =>
    obtain ⟨before, after, hescapes, -⟩ := List.lookup_eq_some_iff.1 hletter
    exact Or.inl ⟨letter, hescapes ▸ List.mem_append_right _ List.mem_cons_self, rfl⟩
  | none =>
    refine Or.inr ?_
    dsimp only
    split
    · next hcontrol => exact Or.inl ⟨hcontrol, rfl⟩
    · next hcontrol =>
      refine Or.inr ⟨Nat.le_of_not_lt hcontrol, ?_, ?_, rfl⟩
      · rintro rfl
        cases hletter
      · rintro rfl
        cases hletter

/-- A numeric escape of a control character is read as this character. -/
lemma numericEscape?_hexDigit {c : Char} (hc : c.toNat < 0x20) (t : List Char) :
    numericEscape? ('0' :: '0' :: hexDigit (c.toNat / 16) :: hexDigit (c.toNat % 16) :: t) =
      some (c, t) := by
  have hhigh : c.toNat / 16 < 16 := by omega
  have hlow : c.toNat % 16 < 16 := Nat.mod_lt _ (by decide)
  have hfour : hexFour?
      ('0' :: '0' :: hexDigit (c.toNat / 16) :: hexDigit (c.toNat % 16) :: t) =
      some (c.toNat, t) := by
    have hzero : hexValue? '0' = some 0 := by decide
    unfold hexFour?
    dsimp only
    rw [hzero, (hexValue?_hexDigit ⟨_, hhigh⟩).1, (hexValue?_hexDigit ⟨_, hlow⟩).1]
    show some (((0 * 16 + 0) * 16 + c.toNat / 16) * 16 + c.toNat % 16, t) = _
    rw [show ((0 * 16 + 0) * 16 + c.toNat / 16) * 16 + c.toNat % 16 = c.toNat by omega]
  unfold numericEscape?
  rw [hfour]
  show (if 0xD800 ≤ c.toNat ∧ c.toNat < 0xDC00 then _ else
    if 0xDC00 ≤ c.toNat ∧ c.toNat < 0xE000 then _ else some (Char.ofNat c.toNat, t)) = _
  rw [if_neg (by omega), if_neg (by omega), Char.ofNat_toNat]

/-- What was written for a character is read in one step. -/
lemma next?_encodeChar (c : Char) (t : List Char) :
    next? (encodeChar c ++ t) = some (some c, t) := by
  rcases encodeChar_cases c with ⟨letter, hmem, heq⟩ | ⟨hcontrol, heq⟩ | ⟨hlow, hquote, hslash, heq⟩
  · rw [heq]
    simp only [shortEscapes, List.mem_cons, Prod.mk.injEq, List.not_mem_nil, or_false] at hmem
    rcases hmem with ⟨rfl, rfl⟩ | ⟨rfl, rfl⟩ | ⟨rfl, rfl⟩ | ⟨rfl, rfl⟩ | ⟨rfl, rfl⟩ |
      ⟨rfl, rfl⟩ | ⟨rfl, rfl⟩ <;> rfl
  · rw [heq]
    show (numericEscape?
      ('0' :: '0' :: hexDigit (c.toNat / 16) :: hexDigit (c.toNat % 16) :: t)).map _ = _
    rw [numericEscape?_hexDigit hcontrol]
    rfl
  · rw [heq]
    show next? (c :: t) = _
    unfold next?
    split
    · next h => exact absurd (List.cons.inj h).1 hquote
    · next h => exact absurd (List.cons.inj h).1 hslash
    · next h =>
      obtain ⟨rfl, rfl⟩ := List.cons.inj h
      rw [if_neg (Nat.not_lt.2 hlow)]
    · next h => cases h

/-- A quoted text is read up to its closing quote. -/
lemma unquote_flatMap_encodeChar (cs t : List Char) {steps : Nat} (hsteps : cs.length < steps) :
    unquote steps (cs.flatMap encodeChar ++ '"' :: t) = some (cs, t) := by
  induction cs generalizing steps with
  | nil =>
    obtain ⟨n, rfl⟩ := Nat.exists_eq_add_one_of_ne_zero (Nat.ne_of_gt hsteps)
    rfl
  | cons c cs ih =>
    obtain ⟨n, rfl⟩ := Nat.exists_eq_add_one_of_ne_zero (Nat.ne_of_gt (Nat.zero_lt_of_lt hsteps))
    rw [List.flatMap_cons, List.append_assoc]
    unfold unquote
    rw [next?_encodeChar]
    show (unquote n (cs.flatMap encodeChar ++ '"' :: t)).map _ = _
    rw [ih (Nat.lt_of_succ_lt_succ hsteps)]
    rfl

lemma length_le_length_flatMap_encodeChar (cs : List Char) :
    cs.length ≤ (cs.flatMap encodeChar).length := by
  induction cs with
  | nil => exact Nat.le_refl 0
  | cons c cs ih =>
    have hletters : 1 ≤ (encodeChar c).length := by
      rcases encodeChar_cases c with ⟨letter, -, heq⟩ | ⟨-, heq⟩ | ⟨-, -, -, heq⟩ <;>
        (rw [heq]; exact Nat.succ_le_succ (Nat.zero_le _))
    rw [List.length_cons, List.flatMap_cons, List.length_append, Nat.add_comm]
    exact Nat.add_le_add hletters ih

/-- The letters that follow the opening quote suffice as steps. -/
lemma unquote_quote (s : String) (rest : List Char) :
    ∃ t, (quote s).toList ++ rest = '"' :: t ∧ unquote (t.length + 1) t = some (s.toList, rest) := by
  have htext : (quote s).toList ++ rest =
      '"' :: (s.toList.flatMap encodeChar ++ '"' :: rest) := by
    unfold quote
    simp only [String.toList_append, String.toList_ofList, List.append_assoc]
    rfl
  have hlength := length_le_length_flatMap_encodeChar s.toList
  refine ⟨_, htext, unquote_flatMap_encodeChar _ _ ?_⟩
  rw [List.length_append]
  omega

/-- No control character is written. -/
lemma toNat_of_mem_encodeChar {c d : Char} (h : d ∈ encodeChar c) : 0x20 ≤ d.toNat := by
  rcases encodeChar_cases c with ⟨letter, hmem, heq⟩ | ⟨hcontrol, heq⟩ | ⟨hlow, -, -, heq⟩
  · have hletters : ∀ e ∈ shortEscapes, 0x20 ≤ e.2.toNat := by decide
    rw [heq, List.mem_cons, List.mem_singleton] at h
    rcases h with rfl | rfl
    · decide
    · exact hletters _ hmem
  · have hhigh : c.toNat / 16 < 16 := by omega
    have hlow : c.toNat % 16 < 16 := Nat.mod_lt _ (by decide)
    rw [heq] at h
    simp only [List.mem_cons, List.not_mem_nil, or_false] at h
    rcases h with rfl | rfl | rfl | rfl | rfl | rfl
    · decide
    · decide
    · decide
    · decide
    · exact (hexValue?_hexDigit ⟨_, hhigh⟩).2
    · exact (hexValue?_hexDigit ⟨_, hlow⟩).2
  · rw [heq, List.mem_singleton] at h
    rwa [h]

/-- A text without control characters, so that it ends no line. -/
def IsPrintable (s : String) : Prop :=
  ∀ c ∈ s.toList, 0x20 ≤ c.toNat

instance (s : String) : Decidable (IsPrintable s) :=
  List.decidableBAll (fun c : Char => 0x20 ≤ c.toNat) s.toList

lemma IsPrintable.append {s t : String} (hs : IsPrintable s) (ht : IsPrintable t) :
    IsPrintable (s ++ t) := by
  unfold IsPrintable
  rw [String.toList_append]
  exact List.forall_mem_append.2 ⟨hs, ht⟩

lemma isPrintable_quote (s : String) : IsPrintable (quote s) := by
  have hbetween : IsPrintable (String.ofList (s.toList.flatMap encodeChar)) := by
    intro c hc
    rw [String.toList_ofList] at hc
    obtain ⟨d, -, hmem⟩ := List.mem_flatMap.1 hc
    exact toNat_of_mem_encodeChar hmem
  have hquote : IsPrintable "\"" := by decide
  exact (hquote.append hbetween).append hquote

end CompilerFlags.Json
