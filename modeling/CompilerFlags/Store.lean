import CompilerFlags.Bucket

/-!
# The store of flags

A store holds the flags that were found to work, one ordered set of flags for each bucket.  It is
a list of entries in strictly increasing order of their buckets, so two stores are equal exactly
when they have the same buckets with the same flags.

A bucket comes into being when a flag is first added to it and stays when its last flag is taken
out again.  An empty bucket reads like a bucket that never was (`get` is the same), but the two
stores differ.  `get_add`, `get_discard` and their neighbours say what each operation does to what
is read.
-/

namespace CompilerFlags

/-- The flags of one bucket. -/
abbrev Flags := OrderedSet String

/-- The flags found so far, bucket by bucket. -/
structure Store where
  /-- The buckets that were ever written, with their flags. -/
  entries : List (Bucket × Flags)
  /-- The entries are listed in the order of their buckets. -/
  sorted : entries.Pairwise (fun a b => a.1 < b.1)
deriving DecidableEq

namespace Store

@[ext]
theorem ext {s t : Store} (h : s.entries = t.entries) : s = t := by
  cases s; cases t; simp_all

/-- The store without buckets. -/
def empty : Store := ⟨[], .nil⟩

instance : Inhabited Store := ⟨empty⟩

/-- The flags of a bucket; none if the bucket was never written. -/
def get (s : Store) (b : Bucket) : Flags :=
  (s.entries.lookup b).getD .empty

/-- Whether a bucket holds a flag. -/
def contains (s : Store) (b : Bucket) (flag : String) : Bool :=
  decide (flag ∈ s.get b)

/-- Applies `f` to the flags of a bucket in a sorted list of entries; a bucket without an entry
gets one in its place. -/
def alterEntries (b : Bucket) (f : Flags → Flags) : List (Bucket × Flags) → List (Bucket × Flags)
  | [] => [(b, f .empty)]
  | e :: rest =>
    if b < e.1 then (b, f .empty) :: e :: rest
    else if e.1 = b then (b, f e.2) :: rest
    else e :: alterEntries b f rest

/-- An entry after a change is an old one or the changed one. -/
theorem mem_alterEntries {b : Bucket} {f : Flags → Flags} {l : List (Bucket × Flags)}
    {e : Bucket × Flags} (h : e ∈ alterEntries b f l) : e ∈ l ∨ ∃ fs, e = (b, f fs) := by
  induction l with
  | nil => exact Or.inr ⟨.empty, List.mem_singleton.1 h⟩
  | cons d rest ih =>
    rw [alterEntries] at h
    split at h
    · exact (List.mem_cons.1 h).symm.imp_right fun heq => ⟨.empty, heq⟩
    · split at h
      · rcases List.mem_cons.1 h with heq | h
        · exact Or.inr ⟨d.2, heq⟩
        · exact Or.inl (List.mem_cons_of_mem d h)
      · rcases List.mem_cons.1 h with rfl | h
        · exact Or.inl List.mem_cons_self
        · exact (ih h).imp_left (List.mem_cons_of_mem d)

theorem sorted_alterEntries {b : Bucket} {f : Flags → Flags} {l : List (Bucket × Flags)}
    (h : l.Pairwise (fun a b => a.1 < b.1)) :
    (alterEntries b f l).Pairwise (fun a b => a.1 < b.1) := by
  induction l with
  | nil => simp [alterEntries]
  | cons d rest ih =>
    rw [List.pairwise_cons] at h
    rw [alterEntries]
    split
    · rename_i hlt
      refine List.pairwise_cons.2 ⟨fun e he => ?_, List.pairwise_cons.2 h⟩
      rcases List.mem_cons.1 he with rfl | he
      · exact hlt
      · exact Bucket.lt_trans hlt (h.1 e he)
    · rename_i hnlt
      split
      · rename_i heq
        exact List.pairwise_cons.2 ⟨fun e he => heq ▸ h.1 e he, h.2⟩
      · rename_i hne
        refine List.pairwise_cons.2 ⟨fun e he => ?_, ih h.2⟩
        rcases mem_alterEntries he with he | ⟨fs, rfl⟩
        · exact h.1 e he
        · exact Bucket.lt_of_not_lt_of_ne hnlt hne

/-- Applies `f` to the flags of a bucket, which comes into being if it was never written. -/
def alter (s : Store) (b : Bucket) (f : Flags → Flags) : Store :=
  ⟨alterEntries b f s.entries, sorted_alterEntries s.sorted⟩

/-- Adds a flag at the end of a bucket unless it is there, and tells whether it was new. -/
def add (s : Store) (b : Bucket) (flag : String) : Bool × Store :=
  (!s.contains b flag, s.alter b (·.insert flag))

/-- Takes a flag out of a bucket, and tells whether it was there.  A bucket that was never written
stays so. -/
def discard (s : Store) (b : Bucket) (flag : String) : Bool × Store :=
  if s.contains b flag then (true, s.alter b (·.erase flag)) else (false, s)

/-- Adds flags one after another. -/
def addMany (s : Store) (b : Bucket) (flags : List String) : Store :=
  flags.foldl (fun s flag => (s.add b flag).2) s

/-- The buckets of a kind that a trial for a profile sees: that of the default profile, then that
of the profile itself. -/
def visible (profile : Profile) (kind : FlagKind) : List Bucket :=
  if profile.isDefault then [⟨kind, .default⟩] else [⟨kind, .default⟩, ⟨kind, profile⟩]

/-- The flags that a trial for a profile sees: kind by kind the visible buckets one after another,
each flag where it first occurs. -/
def gather (s : Store) (kinds : List FlagKind) (profile : Profile) : Flags :=
  .ofList ((kinds.flatMap (visible profile)).flatMap fun b => (s.get b).toList)

/-- The buckets that hold flags, in their order. -/
def filled (s : Store) : List (Bucket × Flags) :=
  s.entries.filter fun e => !e.2.isEmpty

/-- Whether no bucket holds a flag. -/
def isEmpty (s : Store) : Bool := s.filled.isEmpty

/-- What is found under a bucket after the first entry of a list. -/
theorem lookup_cons_eq (e : Bucket × Flags) (l : List (Bucket × Flags)) (c : Bucket) :
    (e :: l).lookup c = if c = e.1 then some e.2 else l.lookup c := by
  obtain ⟨b, fs⟩ := e
  by_cases h : c = b
  · simp [h]
  · have hb : (c == b) = false := by simp [h]
    simp [List.lookup_cons, hb, h]

/-- A bucket before all entries has no entry. -/
theorem lookup_eq_none_of_lt {b : Bucket} {l : List (Bucket × Flags)} (h : ∀ e ∈ l, b < e.1) :
    l.lookup b = none := by
  rw [List.lookup_eq_none_iff]
  intro e he
  have hne : b ≠ e.1 := fun heq => Bucket.lt_irrefl b (by simpa [← heq] using h e he)
  simpa using hne

theorem lookup_alterEntries {b c : Bucket} {f : Flags → Flags} {l : List (Bucket × Flags)}
    (h : l.Pairwise (fun a b => a.1 < b.1)) :
    (alterEntries b f l).lookup c =
      if c = b then some (f ((l.lookup b).getD .empty)) else l.lookup c := by
  induction l with
  | nil => by_cases hc : c = b <;> simp [alterEntries, hc]
  | cons d rest ih =>
    rw [List.pairwise_cons] at h
    rw [alterEntries]
    split
    · rename_i hlt
      have hnone : (d :: rest).lookup b = none := by
        refine lookup_eq_none_of_lt fun e he => ?_
        rcases List.mem_cons.1 he with rfl | he
        · exact hlt
        · exact Bucket.lt_trans hlt (h.1 e he)
      rw [lookup_cons_eq, hnone]
      rfl
    · split
      · rename_i heq
        subst heq
        rw [lookup_cons_eq, lookup_cons_eq, lookup_cons_eq]
        split <;> simp
      · rename_i hne
        rw [lookup_cons_eq, ih h.2, lookup_cons_eq, lookup_cons_eq, if_neg (Ne.symm hne)]
        by_cases hcd : c = d.1
        · rw [if_pos hcd, if_neg (hcd ▸ hne), if_pos hcd]
        · rw [if_neg hcd, if_neg hcd]

@[simp]
theorem get_empty (b : Bucket) : empty.get b = .empty := rfl

theorem get_alter (s : Store) (b c : Bucket) (f : Flags → Flags) :
    (s.alter b f).get c = if c = b then f (s.get b) else s.get c := by
  rw [get, alter, lookup_alterEntries s.sorted]
  split <;> rfl

theorem get_add (s : Store) (b c : Bucket) (flag : String) :
    (s.add b flag).2.get c = if c = b then (s.get b).insert flag else s.get c :=
  get_alter s b c _

theorem add_fst (s : Store) (b : Bucket) (flag : String) :
    (s.add b flag).1 = true ↔ flag ∉ s.get b := by
  simp [add, contains]

theorem get_discard (s : Store) (b c : Bucket) (flag : String) :
    (s.discard b flag).2.get c = if c = b then (s.get b).erase flag else s.get c := by
  rw [discard]
  split
  · exact get_alter s b c _
  · rename_i h
    by_cases hc : c = b
    · subst hc
      rw [if_pos rfl]
      apply OrderedSet.ext
      rw [OrderedSet.toList_erase, List.erase_of_not_mem]
      simpa [contains] using h
    · rw [if_neg hc]

theorem discard_fst (s : Store) (b : Bucket) (flag : String) :
    (s.discard b flag).1 = true ↔ flag ∈ s.get b := by
  rw [discard]
  by_cases h : s.contains b flag = true
  · rw [if_pos h]
    simpa [contains] using h
  · rw [if_neg h]
    simpa [contains] using h

end Store

end CompilerFlags
