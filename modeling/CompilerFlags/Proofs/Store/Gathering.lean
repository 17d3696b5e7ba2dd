import CompilerFlags.Proofs.Bucket.Naming
import CompilerFlags.Proofs.OrderedSet
import CompilerFlags.Proofs.Store.Reading

/-!
# What is gathered for a trial

The flags that a trial sees are gathered from several buckets: those of its kinds, and of each kind
the bucket of the default profile before that of its own profile.  The gathered list holds the first
occurrences of what is read from these buckets one after another (`toList_gather`).

`gather_add_effect` derives from this what it means for a trial that a flag is added to a bucket.
The flag comes into the lists that are read, and nothing else does (`filter_read_add`).  Hence the
gathered list stays the same apart from that flag, and it stays the same altogether if the flag was
read before the place where it is added.
-/

namespace CompilerFlags.Store

/-- The buckets that are read for some kinds and a profile, in the order in which they are read: for
each kind that of the default profile, and then that of the profile if it is another one. -/
def readBuckets (kinds : List FlagKind) (profile : Profile) : List Bucket :=
  kinds.flatMap fun kind => ⟨kind, .default⟩ :: if profile = .default then [] else [⟨kind, profile⟩]

/-- The flags of some buckets one after another. -/
def read (s : Store) (bs : List Bucket) : List String :=
  bs.flatMap fun b => (s.get b).toList

variable {s : Store} {kinds : List FlagKind} {profile : Profile} {b : Bucket} {flag : String}

/-- The buckets that are read are those that a trial sees. -/
lemma flatMap_visible : kinds.flatMap (visible profile) = readBuckets kinds profile := by
  refine List.flatMap_congr fun kind _ => ?_
  unfold visible
  by_cases h : profile = .default
  · rw [if_pos (Profile.isDefault_iff.2 h), if_pos h]
  · rw [if_neg (mt Profile.isDefault_iff.1 h), if_neg h]

/-- The buckets of the kinds are read that belong to the default profile or to the given one. -/
lemma mem_readBuckets : b ∈ readBuckets kinds profile ↔
    b.kind ∈ kinds ∧ (b.profile = .default ∨ b.profile = profile) := by
  obtain ⟨kind, bucketProfile⟩ := b
  rw [readBuckets, List.mem_flatMap]
  by_cases h : profile = .default
  · simp [h]
  · simp [h, and_or_left, exists_or]

/-- The gathered flags are the first occurrences of the flags that are read. -/
lemma toList_gather : (s.gather kinds profile).toList =
    (s.read (readBuckets kinds profile)).eraseDups := by
  rw [gather, flatMap_visible]
  exact OrderedSet.toList_ofList _

/-- The flags that are read, kind by kind. -/
lemma read_readBuckets : s.read (readBuckets kinds profile) =
    kinds.flatMap fun kind => (s.get ⟨kind, .default⟩).toList ++
      if profile = .default then [] else (s.get ⟨kind, profile⟩).toList := by
  rw [read, readBuckets, List.flatMap_assoc]
  refine List.flatMap_congr fun kind _ => ?_
  by_cases h : profile = .default
  · simp [h]
  · simp [h]

/-! ## Adding a flag -/

/-- Adding a flag changes nothing in the flags that are read apart from this flag. -/
lemma filter_read_add (s : Store) (b : Bucket) (flag : String) (bs : List Bucket) :
    ((s.add b flag).2.read bs).filter (· ≠ flag) = (s.read bs).filter (· ≠ flag) := by
  rw [read, read, List.filter_flatMap, List.filter_flatMap]
  refine List.flatMap_congr fun c _ => ?_
  rw [get_add]
  split
  · next h =>
    rw [h, OrderedSet.toList_insert]
    split
    · rfl
    · simp
  · rfl

/-- What is read from other buckets does not change. -/
lemma read_add_of_not_mem (s : Store) (flag : String) {bs : List Bucket} (h : b ∉ bs) :
    (s.add b flag).2.read bs = s.read bs := by
  refine List.flatMap_congr fun c hc => ?_
  have hne : c ≠ b := fun heq => h (heq ▸ hc)
  rw [get_add, if_neg hne]

/-- Adding a flag again changes nothing. -/
lemma read_add_of_mem (h : flag ∈ s.get b) (bs : List Bucket) :
    (s.add b flag).2.read bs = s.read bs := by
  refine List.flatMap_congr fun c _ => ?_
  rw [get_add]
  split
  · next hc => rw [hc, OrderedSet.insert_of_mem h]
  · rfl

/-- What is added behind a place where it is read already is not seen. -/
lemma eraseDups_read_add {before after : List Bucket} (hb : b ∉ before)
    (h : flag ∈ s.get b ∨ ∃ c ∈ before, flag ∈ s.get c) :
    ((s.add b flag).2.read (before ++ b :: after)).eraseDups =
      (s.read (before ++ b :: after)).eraseDups := by
  rcases h with hmem | hmem
  · rw [read_add_of_mem hmem]
  · -- the flag is read before the bucket, so behind it only the other flags count
    have hflag : flag ∈ s.read before := List.mem_flatMap.2 hmem
    have hsplit (t : Store) :
        t.read (before ++ b :: after) = t.read before ++ t.read (b :: after) := List.flatMap_append
    rw [hsplit, hsplit, read_add_of_not_mem s flag hb]
    exact eraseDups_append_congr hflag (filter_read_add s b flag (b :: after))

/-- The gathered flags are the first occurrences in the flags of the default profile and, for a
named profile, of this profile, kind by kind.  If a flag is added to a bucket that is read, it is
gathered once and the others stay as they were; nothing changes if the flag was in that bucket or in
one that is read before it.  Here a bucket counts where it is read first, since a kind may be given
twice.  Adding to a bucket that is not read changes nothing. -/
theorem gather_add_effect (s : Store) (kinds : List FlagKind) (profile : Profile) :
    ((s.gather kinds profile).toList = (kinds.flatMap fun kind => (s.get ⟨kind, .default⟩).toList ++
      if profile = .default then [] else (s.get ⟨kind, profile⟩).toList).eraseDups) ∧
    (∀ b : Bucket, b ∈ readBuckets kinds profile ↔
      b.kind ∈ kinds ∧ (b.profile = .default ∨ b.profile = profile)) ∧
    (∀ (flag : String) (b : Bucket) (before after : List Bucket),
      readBuckets kinds profile = before ++ b :: after → b ∉ before →
      (flag ∈ s.get b ∨ ∃ c ∈ before, flag ∈ s.get c) →
      ((s.add b flag).2.gather kinds profile).toList = (s.gather kinds profile).toList) ∧
    (∀ (flag : String), ∀ b ∈ readBuckets kinds profile,
      let gathered := ((s.add b flag).2.gather kinds profile).toList
      gathered.count flag = 1 ∧
        gathered.filter (· ≠ flag) = (s.gather kinds profile).toList.filter (· ≠ flag)) ∧
    (∀ (flag : String), ∀ b ∉ readBuckets kinds profile,
      ((s.add b flag).2.gather kinds profile).toList = (s.gather kinds profile).toList) := by
  refine ⟨?_, fun b => mem_readBuckets, ?_, ?_, ?_⟩
  · rw [toList_gather, read_readBuckets]
  · intro flag b before after hread hb hmem
    rw [toList_gather, toList_gather, hread]
    exact eraseDups_read_add hb hmem
  · intro flag b hb gathered
    constructor
    · have hnew : flag ∈ (s.add b flag).2.get b := by
        rw [get_add, if_pos rfl]
        exact OrderedSet.mem_insert.2 (Or.inr rfl)
      have hread : flag ∈ gathered := by
        show flag ∈ ((s.add b flag).2.gather kinds profile).toList
        rw [toList_gather, List.mem_eraseDups]
        exact List.mem_flatMap.2 ⟨b, hb, hnew⟩
      exact List.count_eq_one_of_mem (OrderedSet.nodup _) hread
    · show ((s.add b flag).2.gather kinds profile).toList.filter _ = _
      rw [toList_gather, toList_gather, filter_eraseDups, filter_eraseDups, filter_read_add]
  · intro flag b hb
    rw [toList_gather, toList_gather, read_add_of_not_mem s flag hb]

/-- A flag moves if it is added to a bucket that is read before the one that had it. -/
example :
    let s := ((empty.add ⟨.compile .c, .default⟩ "-g").2.add ⟨.compile .c, .default⟩ "-pthread").2
    let kinds : List FlagKind := [.preprocessor, .compile .c]
    (s.gather kinds .default).toList = ["-g", "-pthread"] ∧
      ((s.add ⟨.preprocessor, .default⟩ "-pthread").2.gather kinds .default).toList =
        ["-pthread", "-g"] := by
  decide

end CompilerFlags.Store
