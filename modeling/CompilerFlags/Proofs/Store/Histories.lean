import CompilerFlags.Proofs.Octets
import CompilerFlags.Proofs.Store.Persistence
import Mathlib.Tactic.Lemma

/-!
# A store is a family of ordered sets

Every operation is about one bucket.  To the list that is read from this bucket it does what an
operation on lists does (`Operation.onList`), and what is read from any other bucket stays
(`Operation.toList_get_apply`).  So after a history of operations each bucket reads as if only the
operations on it had been carried out (`toList_get_run`), although the store may hold buckets that
came into being and were emptied again on the way.

`history_acts_bucketwise` collects what follows for histories that begin with the empty store, and
what the listing of the filled buckets shows of their outcome.
-/

namespace CompilerFlags

/-! ## The order of the listing -/

/-- Of two buckets this one is listed first: its kind comes first, or they are of one kind and it
belongs to the default profile or else to the one whose name has the smaller octets. -/
def Bucket.ListedBefore (b c : Bucket) : Prop :=
  let kinds : List FlagKind := [.compile .c, .compile .cpp, .preprocessor, .link]
  kinds.idxOf b.kind < kinds.idxOf c.kind ∨
    b.kind = c.kind ∧ c.profile ≠ .default ∧
      (b.profile = .default ∨ Octets.encode b.profile.name < Octets.encode c.profile.name)

lemma FlagKind.rank_eq_idxOf (k : FlagKind) :
    k.rank = [compile .c, compile .cpp, preprocessor, link].idxOf k := by
  rcases k with (_ | _) | _ | _ <;> rfl

/-- The default profile comes before all others. -/
lemma Profile.name_lt_iff {p q : Profile} : p.name < q.name ↔
    q ≠ default ∧ (p = default ∨ Octets.encode p.name < Octets.encode q.name) := by
  have hempty (r : Profile) : r.name = "" ↔ r = default :=
    ⟨fun h => Profile.ext h, fun h => h ▸ rfl⟩
  rw [Octets.encode_lt_iff]
  constructor
  · intro h
    refine ⟨?_, Or.inr h⟩
    rintro rfl
    exact List.not_lt_nil _ h
  · rintro ⟨hq, rfl | h⟩
    · obtain ⟨c, cs, hcs⟩ := List.exists_cons_of_ne_nil
        (mt String.toList_eq_nil_iff.1 (mt (hempty q).1 hq))
      show ([] : List Char) < q.name.toList
      rw [hcs]
      exact List.nil_lt_cons c cs
    · exact h

/-- Buckets are listed in their order. -/
lemma Bucket.lt_iff_listedBefore {b c : Bucket} : b < c ↔ b.ListedBefore c := by
  have hkind : b.kind.rank = c.kind.rank ↔ b.kind = c.kind :=
    ⟨FlagKind.rank_injective, congrArg FlagKind.rank⟩
  rw [lt_iff, hkind, Profile.name_lt_iff, FlagKind.rank_eq_idxOf, FlagKind.rank_eq_idxOf]
  rfl

namespace Store

/-! ## Operations -/

/-- An operation on a store. -/
inductive Operation
  /-- Adds a flag to a bucket unless it is there. -/
  | add (b : Bucket) (flag : String)
  /-- Takes a flag out of a bucket. -/
  | discard (b : Bucket) (flag : String)
  /-- Adds several flags to a bucket. -/
  | addMany (b : Bucket) (flags : List String)

namespace Operation

/-- The bucket that an operation is about. -/
def bucket : Operation → Bucket
  | add b _ => b
  | discard b _ => b
  | addMany b _ => b

/-- Carries out an operation. -/
def apply (s : Store) : Operation → Store
  | add b flag => (s.add b flag).2
  | discard b flag => (s.discard b flag).2
  | addMany b flags => s.addMany b flags

/-- What an operation does to the list of its bucket. -/
def onList (l : List String) : Operation → List String
  | add _ flag => appendNew l (some flag)
  | discard _ flag => l.filter (· ≠ flag)
  | addMany _ flags => flags.foldl (fun l (flag : String) => appendNew l (some flag)) l

/-- Inserting several flags is adding them to the list one after another. -/
lemma toList_insertMany_eq_foldl (fs : Flags) (flags : List String) :
    (fs.insertMany flags).toList =
      flags.foldl (fun l (flag : String) => appendNew l (some flag)) fs.toList := by
  induction flags generalizing fs with
  | nil => rfl
  | cons flag flags ih =>
    have hinsert : (fs.insert flag).toList = appendNew fs.toList (some flag) :=
      fs.toList_insert flag
    rw [List.foldl_cons, ← hinsert, ← ih]
    rfl

/-- An operation does to the list of its bucket what it does to lists, and nothing to the others. -/
lemma toList_get_apply (s : Store) (o : Operation) (b : Bucket) :
    ((o.apply s).get b).toList =
      if o.bucket = b then onList (s.get b).toList o else (s.get b).toList := by
  by_cases h : o.bucket = b
  · subst h
    rw [if_pos rfl]
    cases o with
    | add b flag =>
      show ((s.add b flag).2.get b).toList = _
      rw [get_add, if_pos rfl]
      exact OrderedSet.toList_insert _ flag
    | discard b flag =>
      show ((s.discard b flag).2.get b).toList = _
      rw [get_discard, if_pos rfl, OrderedSet.toList_erase, (s.get b).nodup.erase_eq_filter]
      refine List.filter_congr fun f _ => ?_
      by_cases hf : f = flag <;> simp [hf]
    | addMany b flags =>
      show ((s.addMany b flags).get b).toList = _
      rw [get_addMany, if_pos rfl]
      exact toList_insertMany_eq_foldl _ flags
  · rw [if_neg h]
    have hne : b ≠ o.bucket := Ne.symm h
    refine congrArg OrderedSet.toList ?_
    cases o with
    | add c flag => exact (get_add s c b flag).trans (if_neg hne)
    | discard c flag => exact (get_discard s c b flag).trans (if_neg hne)
    | addMany c flags => exact (get_addMany s c b flags).trans (if_neg hne)

end Operation

/-! ## Histories -/

/-- Carries out operations one after another. -/
def run (s : Store) (ops : List Operation) : Store := ops.foldl Operation.apply s

/-- After a history a bucket reads as if only the operations on it had been carried out. -/
lemma toList_get_run (s : Store) (ops : List Operation) (b : Bucket) :
    ((s.run ops).get b).toList =
      (ops.filter (·.bucket = b)).foldl Operation.onList (s.get b).toList := by
  induction ops generalizing s with
  | nil => rfl
  | cons o ops ih =>
    show (((o.apply s).run ops).get b).toList = _
    rw [ih, Operation.toList_get_apply, List.filter_cons]
    by_cases h : o.bucket = b
    · simp [h]
    · simp [h]

/-- Operations on other buckets do not matter. -/
lemma get_run_of_ne (s : Store) {ops : List Operation} {b : Bucket} (h : ∀ o ∈ ops, o.bucket ≠ b) :
    (s.run ops).get b = s.get b := by
  have hnone : ops.filter (·.bucket = b) = [] :=
    List.filter_eq_nil_iff.2 fun o ho => by simp [h o ho]
  apply OrderedSet.ext
  rw [toList_get_run, hnone]
  rfl

/-- What was added is taken out again, whatever was done to other buckets in between. -/
lemma get_discard_run_add {s : Store} {b : Bucket} {flag : String} (hnew : (s.add b flag).1 = true)
    {others : List Operation} (hothers : ∀ o ∈ others, o.bucket ≠ b) :
    let t := (s.add b flag).2.run others
    (t.discard b flag).1 = true ∧ (t.discard b flag).2.get b = s.get b := by
  intro t
  have hget : t.get b = (s.get b).insert flag := by
    rw [get_run_of_ne _ hothers, get_add, if_pos rfl]
  constructor
  · rw [discard_fst, hget]
    exact OrderedSet.mem_insert.2 (Or.inr rfl)
  · have hflag : flag ∉ s.get b := (add_fst s b flag).1 hnew
    rw [get_discard, if_pos rfl, hget, OrderedSet.erase_insert_of_not_mem hflag]

/-- A store has no filled bucket if nothing is read from any. -/
lemma isEmpty_iff {s : Store} : s.isEmpty = true ↔ ∀ b, (s.get b).toList = [] := by
  rw [isEmpty, List.isEmpty_iff, List.eq_nil_iff_forall_not_mem]
  constructor
  · intro h b
    by_contra hb
    exact h (b, s.get b) (s.mem_filled.2 ⟨rfl, List.isEmpty_eq_false_iff.2 hb⟩)
  · rintro h ⟨b, fs⟩ hmem
    obtain ⟨rfl, hne⟩ := s.mem_filled.1 hmem
    exact List.isEmpty_eq_false_iff.1 hne (h b)

/-- After a history that begins with the empty store, each bucket reads like a list on which the
operations on this bucket alone were carried out.  No flag is read twice from it, additions and
removals tell whether the flag was new or there, and a flag that was new can be taken out again.
The filled buckets are listed in their order, and there are none if all lists are empty. -/
theorem history_acts_bucketwise (ops : List Operation) :
    let s := empty.run ops
    let list := fun b => (s.get b).toList
    (∀ b, list b = (ops.filter (·.bucket = b)).foldl Operation.onList [] ∧ (list b).Nodup) ∧
    (∀ b flag, ((s.add b flag).1 = true ↔ flag ∉ list b) ∧
      ((s.discard b flag).1 = true ↔ flag ∈ list b)) ∧
    (∀ b flag, (s.add b flag).1 = true → ∀ others : List Operation, (∀ o ∈ others, o.bucket ≠ b) →
      let t := (s.add b flag).2.run others
      (t.discard b flag).1 = true ∧ ((t.discard b flag).2.get b).toList = list b) ∧
    (∀ b fs, (b, fs) ∈ s.filled ↔ fs.toList = list b ∧ list b ≠ []) ∧
    s.filled.Pairwise (fun x y => x.1.ListedBefore y.1) ∧
    (s.isEmpty = true ↔ ∀ b, list b = []) := by
  intro s list
  refine ⟨fun b => ⟨toList_get_run empty ops b, OrderedSet.nodup _⟩,
    fun b flag => ⟨add_fst s b flag, discard_fst s b flag⟩, ?_, ?_, ?_, isEmpty_iff⟩
  · intro b flag hnew others hothers
    obtain ⟨hthere, hget⟩ := get_discard_run_add hnew hothers
    exact ⟨hthere, congrArg OrderedSet.toList hget⟩
  · intro b fs
    have hread : s.get b = fs ↔ fs.toList = list b :=
      ⟨fun h => congrArg OrderedSet.toList h.symm, fun h => OrderedSet.ext h.symm⟩
    rw [mem_filled, hread]
    refine and_congr_right fun h => ?_
    rw [← h]
    exact List.isEmpty_eq_false_iff
  · exact s.sorted_filled.imp Bucket.lt_iff_listedBefore.1

end Store

end CompilerFlags
