import CompilerFlags.OrderedSet
import Mathlib.Data.List.Induction
import Mathlib.Data.List.Nodup
import Mathlib.Tactic.Lemma

/-!
# First occurrences

Inserting the elements of a list one after another leaves those that occur for the first time, in
their order (`OrderedSet.toList_ofList`).  `List.eraseDups` says the same without a set: it keeps an
element and goes on with the rest of the list from which this element was taken out.

In a list that is put together from two parts, only that counts of the second part which the first
one does not hold (`List.eraseDups_append`).  All lemmas here add one element at the end of a list.
-/

namespace CompilerFlags

variable {α : Type} [DecidableEq α]

/-- An element at the end of a list is kept if it is new. -/
lemma eraseDups_append_singleton (l : List α) (a : α) :
    (l ++ [a]).eraseDups = if a ∈ l then l.eraseDups else l.eraseDups ++ [a] := by
  rw [List.eraseDups_append, List.cons_removeAll]
  by_cases h : a ∈ l
  · simp [h]
  · simp [h, List.eraseDups_cons]

lemma eraseDups_of_nodup {l : List α} (h : l.Nodup) : l.eraseDups = l := by
  induction l using List.reverseRecOn with
  | nil => rfl
  | append_singleton l a ih =>
    obtain ⟨hl, _, hdisjoint⟩ := List.nodup_append.1 h
    have hnew : a ∉ l := fun ha => hdisjoint a ha a List.mem_cons_self rfl
    rw [eraseDups_append_singleton, if_neg hnew, ih hl]

/-- Repetitions can be dropped before or after other elements are. -/
lemma filter_eraseDups (p : α → Bool) (l : List α) :
    l.eraseDups.filter p = (l.filter p).eraseDups := by
  induction l using List.reverseRecOn with
  | nil => rfl
  | append_singleton l a ih =>
    rw [eraseDups_append_singleton, List.filter_append]
    by_cases hp : p a = true
    · have hone : [a].filter p = [a] := List.filter_cons_of_pos hp
      have hmem : a ∈ l.filter p ↔ a ∈ l := by rw [List.mem_filter, and_iff_left hp]
      rw [hone, eraseDups_append_singleton, if_congr hmem rfl rfl, apply_ite (List.filter p),
        List.filter_append, hone, ih]
    · have hnone : [a].filter p = [] := List.filter_cons_of_neg hp
      rw [hnone, List.append_nil, apply_ite (List.filter p), List.filter_append, hnone,
        List.append_nil, ite_self, ih]

/-- After an element occurred it makes no difference how often it occurs again. -/
lemma eraseDups_append_congr {a : α} {l r r' : List α} (h : a ∈ l)
    (hr : r.filter (· ≠ a) = r'.filter (· ≠ a)) : (l ++ r).eraseDups = (l ++ r').eraseDups := by
  have hleft (r : List α) : r.removeAll l = (r.filter (· ≠ a)).removeAll l := by
    rw [List.removeAll, List.removeAll, List.filter_filter]
    refine List.filter_congr fun b _ => ?_
    by_cases hb : b = a
    · simp [hb, h]
    · simp [hb]
  rw [List.eraseDups_append, List.eraseDups_append, hleft r, hr, ← hleft r']

/-- Elements stand in the order in which they occur first. -/
lemma pairwise_eraseDups (l : List α) :
    l.eraseDups.Pairwise fun a b => ∃ before after, l = before ++ a :: after ∧ b ∉ before := by
  induction l using List.reverseRecOn with
  | nil => exact List.Pairwise.nil
  | append_singleton l c ih =>
    have hlonger : l.eraseDups.Pairwise fun a b =>
        ∃ before after, l ++ [c] = before ++ a :: after ∧ b ∉ before := by
      refine ih.imp ?_
      rintro a b ⟨before, after, rfl, hb⟩
      exact ⟨before, after ++ [c], List.append_assoc _ _ _, hb⟩
    rw [eraseDups_append_singleton]
    split
    · exact hlonger
    · next hnew =>
      refine List.pairwise_append.2 ⟨hlonger, List.pairwise_singleton _ _, fun a ha b hb => ?_⟩
      obtain rfl := List.mem_singleton.1 hb
      obtain ⟨before, after, rfl⟩ := List.append_of_mem (List.mem_eraseDups.1 ha)
      have hbefore : b ∉ before := fun h => hnew (List.mem_append_left _ h)
      exact ⟨before, after ++ [b], List.append_assoc _ _ _, hbefore⟩

/-- What occurred before adds no first occurrence. -/
lemma eraseDups_append_of_subset {l r : List α} (h : r ⊆ l) : (l ++ r).eraseDups = l.eraseDups := by
  have hnothing : r.removeAll l = [] := by
    rw [List.removeAll, List.filter_eq_nil_iff]
    intro a ha
    simp [h ha]
  rw [List.eraseDups_append, hnothing]
  exact List.append_nil _

namespace OrderedSet

/-- The set of a list holds the first occurrences of its elements. -/
lemma toList_ofList (l : List α) : (ofList l).toList = l.eraseDups := by
  induction l using List.reverseRecOn with
  | nil => rfl
  | append_singleton l a ih =>
    have hinsert : ofList (l ++ [a]) = (ofList l).insert a := List.foldl_append
    have hmem : a ∈ ofList l ↔ a ∈ l := by rw [← mem_toList, ih, List.mem_eraseDups]
    rw [hinsert, toList_insert, ih, eraseDups_append_singleton, if_congr hmem rfl rfl]

lemma mem_ofList {l : List α} {a : α} : a ∈ ofList l ↔ a ∈ l := by
  rw [← mem_toList, toList_ofList, List.mem_eraseDups]

/-- A set is the set of its own list. -/
lemma ofList_toList (s : OrderedSet α) : ofList s.toList = s := by
  apply ext
  rw [toList_ofList, eraseDups_of_nodup s.nodup]

end OrderedSet

end CompilerFlags
