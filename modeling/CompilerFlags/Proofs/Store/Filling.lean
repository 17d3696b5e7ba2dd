import CompilerFlags.Proofs.Bucket.Parsing
import CompilerFlags.Proofs.OrderedSet
import CompilerFlags.Proofs.Store.Reading
import CompilerFlags.Store.File

/-!
# Filling a store from named lists

The lists are taken in the order of their names, so the first bad name that is met is the least one
(`ofLists_eq_error_iff`).  If there is none, different names belong to different buckets, each list
is filled into an empty bucket, and a bucket reads as the first occurrences in its list
(`exists_ofLists`).
-/

namespace CompilerFlags

namespace Store

variable {s t : Store} {lists : List (String × List String)}

/-! ## Filling a store -/

/-- Adding several flags to a bucket is inserting them. -/
lemma get_addMany (s : Store) (b c : Bucket) (flags : List String) :
    (s.addMany b flags).get c = if c = b then (s.get b).insertMany flags else s.get c := by
  induction flags generalizing s with
  | nil =>
    show s.get c = if c = b then s.get b else s.get c
    split
    · next h => rw [h]
    · rfl
  | cons flag flags ih =>
    show ((s.add b flag).2.addMany b flags).get c = _
    rw [ih, get_add, get_add, if_pos rfl]
    split
    · rfl
    · rfl

/-- All lists have names of buckets. -/
def Named (lists : List (String × List String)) : Prop := ∀ l ∈ lists, ∃ b : Bucket, b.name = l.1

/-- A store is filled from lists with names of buckets only. -/
lemma named_of_fill (h : s.fill lists = .ok t) : Named lists := by
  induction lists generalizing s with
  | nil => exact List.forall_mem_nil _
  | cons l lists ih =>
    rw [fill] at h
    split at h
    · cases h
    · next b hb =>
      intro l' hl'
      rcases List.mem_cons.1 hl' with rfl | hl'
      · exact ⟨b, Bucket.parse_eq_ok_iff.1 hb⟩
      · exact ih h l' hl'

/-- If filling a store fails, it does so for the first list without a bucket's name. -/
lemma exists_of_fill_eq_error {e : BucketError} (h : s.fill lists = .error e) :
    ∃ before l after, lists = before ++ l :: after ∧ Named before ∧
      Bucket.parse l.1 = .error e := by
  induction lists generalizing s with
  | nil => cases h
  | cons l lists ih =>
    rw [fill] at h
    split at h
    · next e' he =>
      obtain rfl := Except.error.inj h
      exact ⟨[], l, lists, rfl, List.forall_mem_nil _, he⟩
    · next b hb =>
      obtain ⟨before, l', after, rfl, hbefore, he⟩ := ih h
      refine ⟨l :: before, l', after, rfl, fun l'' hl'' => ?_, he⟩
      rcases List.mem_cons.1 hl'' with rfl | hl''
      · exact ⟨b, Bucket.parse_eq_ok_iff.1 hb⟩
      · exact hbefore l'' hl''

/-- A store is filled from lists with different names of buckets: each bucket with a list gets the
flags of this list, and the others stay as they are. -/
lemma exists_fill (hnamed : Named lists) (hnodup : (lists.map (·.1)).Nodup) (s : Store) :
    ∃ t, s.fill lists = .ok t ∧
      (∀ b flags, (Bucket.name b, flags) ∈ lists → t.get b = (s.get b).insertMany flags) ∧
      ∀ b, Bucket.name b ∉ lists.map (·.1) → t.get b = s.get b := by
  induction lists generalizing s with
  | nil => exact ⟨s, rfl, fun _ _ h => absurd h List.not_mem_nil, fun _ _ => rfl⟩
  | cons l lists ih =>
    obtain ⟨hnew, hnodup⟩ := List.nodup_cons.1 hnodup
    obtain ⟨b, hb⟩ := hnamed l List.mem_cons_self
    have hget (c : Bucket) : (s.addMany b l.2).get c =
        if c = b then (s.get b).insertMany l.2 else s.get c := get_addMany s b c l.2
    have hne {c : Bucket} (hc : c.name ≠ l.1) : c ≠ b := fun heq => hc (heq ▸ hb)
    obtain ⟨t, ht, hlisted, hother⟩ :=
      ih (fun l' hl' => hnamed l' (List.mem_cons_of_mem l hl')) hnodup (s.addMany b l.2)
    refine ⟨t, ?_, fun c flags hc => ?_, fun c hc => ?_⟩
    · rw [fill, ← hb, Bucket.parse_name]
      exact ht
    · rcases List.mem_cons.1 hc with rfl | hc
      · -- no later list has this name, so the bucket stays as it was filled here
        obtain rfl := Bucket.name_injective hb
        rw [hother b hnew, hget, if_pos rfl]
      · have hc' : c.name ≠ l.1 := fun heq => hnew (List.mem_map.2 ⟨_, hc, heq⟩)
        rw [hlisted c flags hc, hget, if_neg (hne hc')]
    · rw [List.map_cons, List.mem_cons, not_or] at hc
      rw [hother c hc.2, hget, if_neg (hne hc.1)]

/-! ## Sorting -/

lemma mem_sortLists {l : String × List String} : l ∈ sortLists lists ↔ l ∈ lists :=
  (List.mergeSort_perm lists _).mem_iff

lemma nodup_names_sortLists (hnodup : (lists.map (·.1)).Nodup) :
    ((sortLists lists).map (·.1)).Nodup :=
  ((List.mergeSort_perm lists _).map _).nodup_iff.2 hnodup

lemma sorted_sortLists (lists : List (String × List String)) :
    (sortLists lists).Pairwise fun l l' => l.1 ≤ l'.1 := by
  have htrans (a b c : String × List String) (hab : decide (a.1 ≤ b.1) = true)
      (hbc : decide (b.1 ≤ c.1) = true) : decide (a.1 ≤ c.1) = true :=
    decide_eq_true (String.le_trans (of_decide_eq_true hab) (of_decide_eq_true hbc))
  have htotal (a b : String × List String) :
      (decide (a.1 ≤ b.1) || decide (b.1 ≤ a.1)) = true := by
    rw [Bool.or_eq_true, decide_eq_true_iff, decide_eq_true_iff]
    exact String.le_total a.1 b.1
  exact (List.pairwise_mergeSort htrans htotal lists).imp of_decide_eq_true

/-- Sorting forgets the order in which lists with different names are given. -/
lemma sortLists_eq_of_perm {lists' : List (String × List String)} (h : lists.Perm lists')
    (hnodup : (lists.map (·.1)).Nodup) : sortLists lists = sortLists lists' := by
  have hperm : (sortLists lists).Perm (sortLists lists') :=
    (List.mergeSort_perm lists _).trans (h.trans (List.mergeSort_perm lists' _).symm)
  refine hperm.eq_of_pairwise (fun l l' hl hl' hle hge => ?_) (sorted_sortLists lists)
    (sorted_sortLists lists')
  exact List.inj_on_of_nodup_map hnodup (mem_sortLists.1 hl) (h.mem_iff.2 (mem_sortLists.1 hl'))
    (String.le_antisymm hle hge)

/-! ## Loading a table -/

lemma named_of_ofLists (h : ofLists lists = .ok s) : Named lists :=
  fun l hl => named_of_fill h l (mem_sortLists.2 hl)

/-- What is refused as a name is the name of no bucket. -/
lemma name_ne_of_parse_eq_error {name : String} {e : BucketError}
    (h : Bucket.parse name = .error e) (b : Bucket) : b.name ≠ name := by
  intro hb
  rw [Bucket.parse_eq_ok_iff.2 hb] at h
  cases h

/-- If a table is refused, it is so for the least of its names that no bucket has. -/
lemma exists_least_of_ofLists_eq_error {e : BucketError} (h : ofLists lists = .error e) :
    ∃ l ∈ lists, Bucket.parse l.1 = .error e ∧
      ∀ l' ∈ lists, (∀ b : Bucket, b.name ≠ l'.1) → l.1 ≤ l'.1 := by
  obtain ⟨before, l, after, hsplit, hbefore, he⟩ := exists_of_fill_eq_error h
  have hsorted := sorted_sortLists lists
  rw [hsplit] at hsorted
  refine ⟨l, mem_sortLists.1 (hsplit ▸ List.mem_append_cons_self), he, fun l' hl' hbad => ?_⟩
  have hmem : l' ∈ before ++ l :: after := hsplit ▸ mem_sortLists.2 hl'
  -- a bad name does not stand before the first one, and what stands behind it is not less
  rcases List.mem_append.1 hmem with hmem | hmem
  · obtain ⟨b, hb⟩ := hbefore l' hmem
    exact absurd hb (hbad b)
  · rcases List.mem_cons.1 hmem with rfl | hmem
    · exact String.le_refl _
    · exact (List.pairwise_cons.1 (List.pairwise_append.1 hsorted).2.1).1 l' hmem

/-- A table is refused for the least of its names that no bucket has. -/
lemma ofLists_eq_error_iff {e : BucketError} : ofLists lists = .error e ↔
    ∃ l ∈ lists, Bucket.parse l.1 = .error e ∧
      ∀ l' ∈ lists, (∀ b : Bucket, b.name ≠ l'.1) → l.1 ≤ l'.1 := by
  refine ⟨exists_least_of_ofLists_eq_error, ?_⟩
  rintro ⟨l, hl, he, hleast⟩
  cases hlists : ofLists lists with
  | ok s =>
    obtain ⟨b, hb⟩ := named_of_ofLists hlists l hl
    exact absurd hb (name_ne_of_parse_eq_error he b)
  | error e' =>
    obtain ⟨l', hl', he', hleast'⟩ := exists_least_of_ofLists_eq_error hlists
    have hname : l.1 = l'.1 := String.le_antisymm
      (hleast l' hl' (name_ne_of_parse_eq_error he'))
      (hleast' l hl (name_ne_of_parse_eq_error he))
    rw [hname, he'] at he
    exact congrArg Except.error (Except.error.inj he)

/-- Any other table is loaded: its lists are read without repetitions, and nothing else is. -/
lemma exists_ofLists (hnamed : Named lists) (hnodup : (lists.map (·.1)).Nodup) :
    ∃ s, ofLists lists = .ok s ∧
      (∀ b flags, (Bucket.name b, flags) ∈ lists → (s.get b).toList = flags.eraseDups) ∧
      ∀ b, Bucket.name b ∉ lists.map (·.1) → (s.get b).toList = [] := by
  obtain ⟨s, hs, hlisted, hother⟩ := exists_fill
    (fun l hl => hnamed l (mem_sortLists.1 hl)) (nodup_names_sortLists hnodup) empty
  refine ⟨s, hs, fun b flags hb => ?_, fun b hb => ?_⟩
  · rw [hlisted b flags (mem_sortLists.2 hb)]
    exact OrderedSet.toList_ofList flags
  · have hb' : b.name ∉ (sortLists lists).map (·.1) :=
      mt ((List.mergeSort_perm lists _).map _).mem_iff.1 hb
    rw [hother b hb']
    rfl

end Store

end CompilerFlags
