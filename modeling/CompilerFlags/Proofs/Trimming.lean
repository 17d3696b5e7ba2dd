import CompilerFlags.Text
import Mathlib.Data.List.DropRight
import Mathlib.Tactic.Lemma
import Mathlib.Tactic.SplitIfs

/-!
# Outer blanks and capitals

Tokens, names of systems and triples are read without the blanks around them, and mostly in small
letters.  A text `IsTrimmed` if no blank stands at either of its ends.  Every text is a trimmed one
between blanks (`exists_eq_trim`), and there is just one way to see it so
(`IsTrimmed.trim_between`).  All other statements about `trim` come from these two.

Capitals have nothing to do with blanks: a letter is blank if its small form is.  So it makes no
difference whether a text is trimmed before or after its capitals are written small (`trim_lower`).
-/

namespace CompilerFlags.Text

/-- No blank stands at the start or at the end of a text. -/
structure IsTrimmed (s : String) : Prop where
  first : ∀ c ∈ s.toList.head?, isBlank c = false
  last : ∀ c ∈ s.toList.getLast?, isBlank c = false

variable {s t before after : String}

lemma isAllBlank_append (s t : String) : isAllBlank (s ++ t) = (isAllBlank s && isAllBlank t) := by
  unfold isAllBlank
  rw [String.toList_append, List.all_append]

lemma isBlank_of_isAllBlank (h : isAllBlank s = true) : ∀ c ∈ s.toList, isBlank c = true :=
  List.all_eq_true.1 h

/-! ## Trimming -/

lemma dropWhile_eq_self_of_head? {p : Char → Bool} {cs : List Char}
    (h : ∀ c ∈ cs.head?, p c = false) : cs.dropWhile p = cs := by
  cases cs with
  | nil => rfl
  | cons c cs => rw [List.dropWhile_cons_of_neg (by simp [h c rfl])]

/-- What is left of a trimmed text between blanks is this text. -/
lemma IsTrimmed.trim_between (hs : IsTrimmed s) (hbefore : isAllBlank before = true)
    (hafter : isAllBlank after = true) : trim (before ++ s ++ after) = s := by
  have hleft : (before ++ s ++ after).toList.dropWhile isBlank =
      (s.toList ++ after.toList).dropWhile isBlank := by
    rw [String.toList_append, String.toList_append, List.append_assoc,
      List.dropWhile_append_of_pos (isBlank_of_isAllBlank hbefore)]
  have hright : dropBlanksRight (s.toList ++ after.toList) = s.toList := by
    have hblank : ∀ c ∈ after.toList.reverse, isBlank c = true := fun c hc =>
      isBlank_of_isAllBlank hafter c (List.mem_reverse.1 hc)
    have hlast : ∀ c ∈ s.toList.reverse.head?, isBlank c = false := by
      rw [List.head?_reverse]
      exact hs.last
    unfold dropBlanksRight
    rw [List.reverse_append, List.dropWhile_append_of_pos hblank, dropWhile_eq_self_of_head? hlast,
      List.reverse_reverse]
  apply String.toList_injective
  unfold trim
  rw [String.toList_ofList, hleft]
  cases hcs : s.toList with
  | nil =>
    have hnone : after.toList.dropWhile isBlank = [] :=
      List.dropWhile_eq_nil_iff.2 (isBlank_of_isAllBlank hafter)
    rw [List.nil_append, hnone]
    rfl
  | cons c cs =>
    have hfirst : ∀ a ∈ (c :: cs ++ after.toList).head?, isBlank a = false := by
      rintro a ⟨⟩
      exact hs.first c (by rw [hcs]; rfl)
    rw [dropWhile_eq_self_of_head? hfirst, ← hcs, hright]

lemma isTrimmed_trim (s : String) : IsTrimmed (trim s) where
  first := by
    intro c hc
    have hhead := List.head?_dropWhile_not isBlank s.toList
    obtain ⟨t, ht⟩ := List.rdropWhile_prefix isBlank (s.toList.dropWhile isBlank)
    unfold trim at hc
    rw [String.toList_ofList] at hc
    have hsame : (s.toList.dropWhile isBlank).head? = some c := by
      rw [← ht, List.head?_append]
      exact Option.or_eq_some_iff.2 (Or.inl hc)
    rw [hsame] at hhead
    exact hhead
  last := by
    intro c hc
    have hhead := List.head?_dropWhile_not isBlank (s.toList.dropWhile isBlank).reverse
    unfold trim dropBlanksRight at hc
    rw [String.toList_ofList, List.getLast?_reverse, Option.mem_def] at hc
    rw [hc] at hhead
    exact hhead

/-- Every text is a trimmed one between blanks. -/
lemma exists_eq_trim (s : String) : ∃ before after, isAllBlank before = true ∧
    isAllBlank after = true ∧ s = before ++ trim s ++ after := by
  let rest := s.toList.dropWhile isBlank
  refine ⟨String.ofList (s.toList.takeWhile isBlank), String.ofList (rest.rtakeWhile isBlank),
    ?_, ?_, String.toList_injective ?_⟩
  · unfold isAllBlank
    rw [String.toList_ofList]
    exact List.all_takeWhile
  · unfold isAllBlank
    rw [String.toList_ofList, List.all_eq_true]
    exact fun c => List.mem_rtakeWhile_imp
  · have hrest : (trim s).toList ++ rest.rtakeWhile isBlank = rest := by
      unfold trim
      rw [String.toList_ofList]
      exact List.rdropWhile_append_rtakeWhile
    rw [String.toList_append, String.toList_append, String.toList_ofList, String.toList_ofList,
      List.append_assoc, hrest, List.takeWhile_append_dropWhile]

lemma IsTrimmed.trim_eq (hs : IsTrimmed s) : trim s = s := by
  have h : trim ("" ++ s ++ "") = s := hs.trim_between rfl rfl
  rwa [String.empty_append, String.append_empty] at h

/-- The trimmed texts are those that trimming leaves alone. -/
lemma isTrimmed_iff : IsTrimmed s ↔ trim s = s := by
  refine ⟨IsTrimmed.trim_eq, fun h => ?_⟩
  rw [← h]
  exact isTrimmed_trim s

@[simp]
lemma trim_trim (s : String) : trim (trim s) = trim s :=
  (isTrimmed_trim s).trim_eq

/-- A trimmed text is kept with whatever is put behind it, up to blanks at the end. -/
lemma IsTrimmed.exists_trim_append (hs : IsTrimmed s) (hne : s ≠ "")
    (hbefore : isAllBlank before = true) (t : String) :
    ∃ rest, trim (before ++ s ++ t) = s ++ rest := by
  obtain ⟨b, a, hb, ha, ht⟩ := exists_eq_trim t
  by_cases hblank : trim t = ""
  · -- nothing but blanks is put behind the text
    have htblank : isAllBlank t = true := by
      rw [ht, hblank, String.append_empty, isAllBlank_append, hb, ha, Bool.and_true]
    exact ⟨"", by rw [hs.trim_between hbefore htblank, String.append_empty]⟩
  · have hlong : IsTrimmed (s ++ (b ++ trim t)) := by
      refine ⟨fun c hc => hs.first c ?_, fun c hc => (isTrimmed_trim t).last c ?_⟩
      · have hfirst : s.toList ≠ [] := mt String.toList_eq_nil_iff.1 hne
        rwa [String.toList_append, List.head?_append_of_ne_nil _ hfirst] at hc
      · have hlast : (trim t).toList ≠ [] := mt String.toList_eq_nil_iff.1 hblank
        rwa [String.toList_append, String.toList_append, ← List.append_assoc,
          List.getLast?_append_of_ne_nil _ hlast] at hc
    have hsame : before ++ s ++ t = before ++ (s ++ (b ++ trim t)) ++ a := by
      calc before ++ s ++ t = before ++ s ++ (b ++ trim t ++ a) := by rw [← ht]
        _ = before ++ (s ++ (b ++ trim t)) ++ a := by simp only [String.append_assoc]
    exact ⟨b ++ trim t, by rw [hsame, hlong.trim_between hbefore ha]⟩

/-- Blanks in front of a text and anything behind it leave the text in place. -/
lemma exists_trim_append (hs : trim s ≠ "") (hbefore : isAllBlank before = true) (t : String) :
    ∃ rest, trim (before ++ s ++ t) = trim s ++ rest := by
  obtain ⟨b, a, hb, _, heq⟩ := exists_eq_trim s
  have hsame : before ++ s ++ t = (before ++ b) ++ trim s ++ (a ++ t) := by
    calc before ++ s ++ t = before ++ (b ++ trim s ++ a) ++ t := by rw [← heq]
      _ = (before ++ b) ++ trim s ++ (a ++ t) := by simp only [String.append_assoc]
  have hblank : isAllBlank (before ++ b) = true := by
    rw [isAllBlank_append, hbefore, hb, Bool.and_true]
  rw [hsame]
  exact (isTrimmed_trim s).exists_trim_append hs hblank (a ++ t)

/-! ## Small letters -/

lemma toList_lower (s : String) : (lower s).toList = s.toList.map Char.toLower := by
  unfold lower
  rw [String.toList_ofList]

lemma lower_append (s t : String) : lower (s ++ t) = lower s ++ lower t := by
  apply String.toList_injective
  rw [String.toList_append, toList_lower, toList_lower, toList_lower, String.toList_append,
    List.map_append]

lemma toNat_toLower (c : Char) :
    c.toLower.toNat = if 65 ≤ c.toNat ∧ c.toNat ≤ 90 then c.toNat + 32 else c.toNat := by
  have hcapital : (c.val ≥ 'A'.val ∧ c.val ≤ 'Z'.val) ↔ 65 ≤ c.toNat ∧ c.toNat ≤ 90 := by
    rw [ge_iff_le, UInt32.le_iff_toNat_le, UInt32.le_iff_toNat_le]
    rfl
  unfold Char.toLower
  by_cases h : 65 ≤ c.toNat ∧ c.toNat ≤ 90
  · rw [dif_pos (hcapital.2 h), if_pos h]
    have hdistance : 'a'.val - 'A'.val = 32 := by decide
    show (c.val + ('a'.val - 'A'.val)).toNat = c.toNat + 32
    rw [hdistance, UInt32.toNat_add]
    have hval : c.val.toNat = c.toNat := rfl
    have hnumeral : (32 : UInt32).toNat = 32 := rfl
    omega
  · rw [dif_neg (mt hcapital.1 h), if_neg h]

/-- No blank is the small or the capital form of a letter. -/
lemma isBlank_toLower (c : Char) : isBlank c.toLower = isBlank c := by
  unfold isBlank
  rw [toNat_toLower]
  split_ifs with h
  · rw [Bool.eq_iff_iff]
    simp only [Bool.or_eq_true, Bool.and_eq_true, decide_eq_true_eq, beq_iff_eq]
    omega
  · rfl

lemma toLower_toLower (c : Char) : c.toLower.toLower = c.toLower := by
  apply Char.toNat_inj.1
  rw [toNat_toLower, toNat_toLower]
  split_ifs <;> omega

@[simp]
lemma lower_lower (s : String) : lower (lower s) = lower s := by
  apply String.toList_injective
  rw [toList_lower, toList_lower, List.map_map]
  exact List.map_congr_left fun c _ => toLower_toLower c

lemma isAllBlank_lower (s : String) : isAllBlank (lower s) = isAllBlank s := by
  have hsame : isBlank ∘ Char.toLower = isBlank := funext isBlank_toLower
  unfold isAllBlank
  rw [toList_lower, List.all_map, hsame]

lemma IsTrimmed.lower (hs : IsTrimmed s) : IsTrimmed (lower s) := by
  refine ⟨fun c hc => ?_, fun c hc => ?_⟩
  · rw [toList_lower, List.head?_map] at hc
    obtain ⟨a, ha, rfl⟩ := Option.map_eq_some_iff.1 hc
    rw [isBlank_toLower, hs.first a ha]
  · rw [toList_lower, List.getLast?_map] at hc
    obtain ⟨a, ha, rfl⟩ := Option.map_eq_some_iff.1 hc
    rw [isBlank_toLower, hs.last a ha]

lemma trim_lower (s : String) : trim (lower s) = lower (trim s) := by
  obtain ⟨b, a, hb, ha, hs⟩ := exists_eq_trim s
  have hlower : lower s = lower b ++ lower (trim s) ++ lower a := by
    rw [← lower_append, ← lower_append, ← hs]
  rw [hlower]
  apply (isTrimmed_trim s).lower.trim_between
  · rw [isAllBlank_lower, hb]
  · rw [isAllBlank_lower, ha]

end CompilerFlags.Text
