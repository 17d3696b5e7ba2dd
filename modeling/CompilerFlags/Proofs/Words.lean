import CompilerFlags.Text
import Mathlib.Tactic.Lemma

/-!
# Words

`Text.words` cuts a text at its blanks.  All that is said of it here follows from one equation: the
words of a text with a blank in it are those before the blank and then those after it
(`words_append_blank`).

A text is `Loose` if nothing of it can belong to a word that stands in front of it: it is empty or
starts with a blank.  Any text is loose, or it is a word followed by a loose text
(`loose_or_isWord_append`), and so texts can be taken apart word by word (`words_induction`).
-/

namespace CompilerFlags.Text

/-- A word has at least one character, and no blanks. -/
structure IsWord (s : String) : Prop where
  ne_empty : s ≠ ""
  not_blank : ∀ c ∈ s.toList, isBlank c = false

lemma isWord_iff {s : String} : IsWord s ↔ s ≠ "" ∧ s.toList.all (!isBlank ·) = true := by
  rw [List.all_eq_true]
  simp only [Bool.not_eq_true']
  exact ⟨fun h => ⟨h.ne_empty, h.not_blank⟩, fun h => ⟨h.1, h.2⟩⟩

instance (s : String) : Decidable (IsWord s) :=
  decidable_of_iff _ isWord_iff.symm

/-- The text is empty or starts with a blank. -/
def Loose (s : String) : Prop := ∀ c ∈ s.toList.head?, isBlank c = true

variable {s t w : String} {b : Char}

/-- A loose text that is not empty is a blank and what follows it. -/
lemma Loose.eq_empty_or (h : Loose s) :
    s = "" ∨ ∃ b t, isBlank b = true ∧ s = String.singleton b ++ t := by
  cases hs : s.toList with
  | nil => exact Or.inl (String.toList_injective hs)
  | cons b cs =>
    refine Or.inr ⟨b, String.ofList cs, h b ?_, String.toList_injective ?_⟩
    · rw [hs]
      rfl
    · rw [hs, String.toList_append, String.toList_ofList, String.toList_singleton]
      rfl

/-! ## The words of a text -/

lemma words_append_blank (hb : isBlank b = true) (s t : String) :
    words (s ++ String.singleton b ++ t) = words s ++ words t := by
  have hchars : (s ++ String.singleton b ++ t).toList = s.toList ++ b :: t.toList := by
    simp
  unfold words
  rw [hchars, List.splitOnP_append_cons _ _ hb, List.filter_append, List.map_append]

lemma words_empty : words "" = [] := rfl

lemma words_blank_append (hb : isBlank b = true) (t : String) :
    words (String.singleton b ++ t) = words t := by
  have h := words_append_blank hb "" t
  rwa [String.empty_append, words_empty, List.nil_append] at h

/-- What follows a text changes none of its words if it is loose. -/
lemma words_append (ht : Loose t) (s : String) : words (s ++ t) = words s ++ words t := by
  rcases ht.eq_empty_or with rfl | ⟨b, u, hb, rfl⟩
  · rw [String.append_empty, words_empty, List.append_nil]
  · rw [words_blank_append hb, ← String.append_assoc, words_append_blank hb]

lemma IsWord.words_eq (h : IsWord w) : words w = [w] := by
  have hne : w.toList ≠ [] := mt String.toList_eq_nil_iff.1 h.ne_empty
  unfold words
  rw [List.splitOnP_eq_singleton h.not_blank]
  simp [hne]

/-- A word is the first one of a text that starts with it and is loose after it. -/
lemma IsWord.words_append (h : IsWord w) (ht : Loose t) : words (w ++ t) = w :: words t := by
  rw [Text.words_append ht, h.words_eq, List.singleton_append]

/-- A text is loose, or it starts with its first word. -/
lemma loose_or_isWord_append (s : String) :
    Loose s ∨ ∃ w t, IsWord w ∧ Loose t ∧ s = w ++ t := by
  let letter (c : Char) : Bool := !isBlank c
  let w := String.ofList (s.toList.takeWhile letter)
  let t := String.ofList (s.toList.dropWhile letter)
  have hs : s = w ++ t := by
    apply String.toList_injective
    rw [String.toList_append, String.toList_ofList, String.toList_ofList,
      List.takeWhile_append_dropWhile]
  have ht : Loose t := by
    intro c hc
    have hhead := List.head?_dropWhile_not letter s.toList
    rw [String.toList_ofList, Option.mem_def] at hc
    rw [hc] at hhead
    simpa [letter] using hhead
  by_cases hw : w = ""
  · rw [hs, hw, String.empty_append]
    exact Or.inl ht
  · refine Or.inr ⟨w, t, ⟨hw, fun c hc => ?_⟩, ht, hs⟩
    rw [String.toList_ofList] at hc
    simpa [letter] using List.all_eq_true.1 List.all_takeWhile c hc

/-- What holds of the empty text, and goes on to hold if a blank or a word is put in front, holds of
all texts. -/
lemma words_induction {P : String → Prop} (empty : P "")
    (blank : ∀ b t, isBlank b = true → P t → P (String.singleton b ++ t))
    (word : ∀ w t, IsWord w → Loose t → P t → P (w ++ t)) (s : String) : P s := by
  induction hn : s.length using Nat.strongRecOn generalizing s with
  | _ n ih =>
    rcases loose_or_isWord_append s with hs | ⟨w, t, hw, ht, rfl⟩
    · rcases hs.eq_empty_or with rfl | ⟨b, t, hb, rfl⟩
      · exact empty
      · refine blank b t hb (ih t.length ?_ t rfl)
        rw [← hn, String.length_append, String.length_singleton]
        omega
    · refine word w t hw ht (ih t.length ?_ t rfl)
      have hpos : 0 < w.length := Nat.pos_of_ne_zero (mt String.length_eq_zero_iff.1 hw.ne_empty)
      rw [← hn, String.length_append]
      exact Nat.lt_add_of_pos_left hpos

lemma isWord_of_mem_words (h : w ∈ words s) : IsWord w := by
  induction s using words_induction with
  | empty => cases h
  | blank b t hb ih =>
    rw [words_blank_append hb] at h
    exact ih h
  | word v t hv ht ih =>
    rw [hv.words_append ht] at h
    rcases List.mem_cons.1 h with rfl | h
    · exact hv
    · exact ih h

end CompilerFlags.Text
