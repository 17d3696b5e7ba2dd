import CompilerFlags.Proofs.Capability.Keeping
import CompilerFlags.Proofs.Capability.Sequence
import CompilerFlags.Proofs.Search.Commit

/-!
# Requests only add flags

Flags are taken out of a store in three places: the compile flag and the link flag of a refused
candidate, and the user's thread flags if the program does not link with them.  Each place takes out
what it added last, so that no bucket loses or reorders anything.

* A search adds at most one flag to a bucket (`Search.get_run`), because it keeps the flags of one
  candidate and these go to different buckets.
* The check of a request makes the store grow within the buckets that the request may write to
  (`Request.check_grows`): those in its scope, and of these only the compile buckets if it is about a
  warning.
* Hence any number of requests only adds flags (`Request.answers_grows`, `Request.checkFrom_grows`).
-/

namespace CompilerFlags

variable {σ : Type}

/-! ## Threads -/

namespace Threads

variable (ctx : Context σ) (targets : Targets) (profile : Profile)

lemma searchTable_grows (w : Bench σ) :
    w.store.GrowsWithin (·.InScope targets profile) (searchTable ctx targets profile w).2.store :=
  .of_insert? fun b => Search.get_run ctx.compiler ctx.ids
    (search (candidateTable ctx.platform (consultConfig ctx w.memory).1) targets profile)
    (fun _ hl => Bucket.inScope_compile hl) (fun _ _ => Or.inl Bucket.inScope_link)
    { w with memory := (consultConfig ctx w.memory).2 } b

lemma detect_grows (w : Bench σ) :
    w.store.GrowsWithin (·.InScope targets profile) (detect ctx targets profile w).2.store := by
  have huser := tryUserFlags_grows ctx targets profile (targets.primary?.getD .c) w
  have hfound : w.store.GrowsWithin (·.InScope targets profile)
      (findFlags ctx targets profile (targets.primary?.getD .c) w).2.store := by
    unfold findFlags
    dsimp only
    split
    · exact huser
    · exact huser.trans (searchTable_grows ctx targets profile _)
  unfold detect
  dsimp only
  split
  · exact hfound.trans (adjust_grows ctx targets profile (targets.primary?.getD .c) _)
  · exact hfound

end Threads

/-! ## Requests -/

namespace Request

/-- The buckets to which a request may add flags: those in its scope, but for a warning only the
compile buckets. -/
def Writes (r : Request) (b : Bucket) : Prop :=
  ∃ targets profile, r.scope = .ok (targets, profile) ∧ b.InScope targets profile ∧
    (r.capability = .threads ∨ ∃ l, b.kind = .compile l)

variable (ctx : Context σ)

/-- A request for a warning adds at most one flag to each bucket. -/
lemma get_check_of_warning {r : Request} (hr : r.capability ≠ .threads) (s : Session σ)
    (b : Bucket) :
    ∃ flag, (r.check ctx s).2.bench.store.get b = (s.bench.store.get b).insert? flag ∧
      (r.Writes b ∨ flag = none) := by
  cases hscope : r.scope with
  | error cause => exact ⟨none, by rw [session_check_of_error hscope]; rfl, Or.inr rfl⟩
  | ok found =>
    obtain ⟨targets, profile⟩ := found
    rw [bench_check_warning hr hscope]
    refine Search.get_run ctx.compiler ctx.ids _ (fun l hl => ?_) (fun c hc => ?_) s.bench b
    · exact ⟨targets, profile, hscope, Bucket.inScope_compile hl, Or.inr ⟨l, rfl⟩⟩
    · obtain ⟨flag, _, rfl⟩ := List.mem_map.1 hc
      exact Or.inr rfl

/-- The check of a request only adds flags, and only where the request may write. -/
lemma check_grows (r : Request) (s : Session σ) :
    s.bench.store.GrowsWithin r.Writes (r.check ctx s).2.bench.store := by
  by_cases hr : r.capability = .threads
  · cases hscope : r.scope with
    | error cause =>
      rw [session_check_of_error hscope]
      exact .refl _
    | ok found =>
      obtain ⟨targets, profile⟩ := found
      rw [bench_check_threads hr hscope]
      exact (Threads.detect_grows ctx targets profile s.bench).mono fun b hb =>
        ⟨targets, profile, hscope, hb, Or.inl hr⟩
  · exact .of_insert? (get_check_of_warning ctx hr s)

/-- What grows from the store that a first request leaves has grown from the store before it. -/
lemma grows_of_check {r : Request} {rs : List Request} {s : Session σ} {t : Store}
    (h : (r.check ctx s).2.bench.store.GrowsWithin (fun b => ∃ r' ∈ rs, r'.Writes b) t) :
    s.bench.store.GrowsWithin (fun b => ∃ r' ∈ r :: rs, r'.Writes b) t := by
  have hfirst := (check_grows ctx r s).mono (Q := fun b => ∃ r' ∈ r :: rs, r'.Writes b)
    fun b hb => ⟨r, List.mem_cons_self, hb⟩
  refine hfirst.trans (h.mono ?_)
  rintro b ⟨r', hr', hb⟩
  exact ⟨r', List.mem_cons_of_mem r hr', hb⟩

/-- Requests one after another only add flags. -/
lemma answers_grows (rs : List Request) (s : Session σ) :
    s.bench.store.GrowsWithin (fun b => ∃ r ∈ rs, r.Writes b)
      (answers ctx rs s).2.bench.store := by
  induction rs generalizing s with
  | nil => exact .refl _
  | cons r rs ih => exact grows_of_check ctx (ih (r.check ctx s).2)

/-- Requests only add flags, also if the sequence ends at one that makes no sense. -/
lemma checkFrom_grows (number : Nat) (rs : List Request) (s : Session σ) :
    s.bench.store.GrowsWithin (fun b => ∃ r ∈ rs, r.Writes b)
      (checkFrom ctx number rs s).2.bench.store := by
  induction rs generalizing number s with
  | nil => exact .refl _
  | cons r rs ih =>
    unfold checkFrom
    dsimp only
    split
    · exact grows_of_check ctx (.refl _)
    · exact grows_of_check ctx (ih (number + 1) (r.check ctx s).2)

/-- The check of a request, whether it is answered or refused, adds flags at the ends of buckets and
does nothing else to what is read; a sequence of requests does the same. -/
theorem check_appends_in_scope :
    (∀ (r : Request) (s : Session σ),
      let before := fun b => (s.bench.store.get b).toList
      let after := fun b => ((r.check ctx s).2.bench.store.get b).toList
      (∀ b, before b <+: after b ∧ (after b).Nodup) ∧
      -- only a request with a scope changes anything, and only in its profile
      (∀ b, after b ≠ before b → ∃ targets profile, r.scope = .ok (targets, profile) ∧
        b.profile = profile ∧
        ((∃ l ∈ targets, b.kind = .compile l) ∨
          r.capability = .threads ∧ (b.kind = .preprocessor ∨ b.kind = .link))) ∧
      (r.capability ≠ .threads → ∀ b, (after b).length ≤ (before b).length + 1)) ∧
    ∀ (rs : List Request) (s : Session σ) (b : Bucket),
      let before := (s.bench.store.get b).toList
      let after := fun (t : Session σ) => (t.bench.store.get b).toList
      before <+: after (answers ctx rs s).2 ∧ (after (answers ctx rs s).2).Nodup ∧
        before <+: after (checkAll ctx rs s).2 ∧ (after (checkAll ctx rs s).2).Nodup := by
  constructor
  · intro r s before after
    have hgrows := check_grows ctx r s
    refine ⟨fun b => ⟨hgrows.appended b, OrderedSet.nodup _⟩, fun b hb => ?_, fun hr b => ?_⟩
    · obtain ⟨targets, profile, hscope, ⟨hprofile, hlanguage⟩, hkind⟩ : r.Writes b := by
        by_contra hwrites
        exact hb (congrArg OrderedSet.toList (hgrows.get_eq b hwrites))
      refine ⟨targets, profile, hscope, hprofile, ?_⟩
      cases hk : b.kind with
      | compile l => exact Or.inl ⟨l, hlanguage l hk, rfl⟩
      | preprocessor => exact Or.inr ⟨hkind.resolve_right (by simp [hk]), Or.inl rfl⟩
      | link => exact Or.inr ⟨hkind.resolve_right (by simp [hk]), Or.inr rfl⟩
    · obtain ⟨flag, hget, _⟩ := get_check_of_warning ctx hr s b
      show ((r.check ctx s).2.bench.store.get b).toList.length ≤ _
      rw [hget, OrderedSet.toList_insert?]
      exact length_appendNew_le _ flag
  · intro rs s b before after
    exact ⟨(answers_grows ctx rs s).appended b, OrderedSet.nodup _,
      (checkFrom_grows ctx 1 rs s).appended b, OrderedSet.nodup _⟩

end Request

end CompilerFlags
