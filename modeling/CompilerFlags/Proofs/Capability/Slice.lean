import CompilerFlags.Proofs.Capability.Sequence

/-!
# Requests read their own slice of the store

A trial for a profile is made of the flags of the default profile and of the profile itself, and of
compile flags it sees only those of its language.  So a request reads the buckets that its target
languages own or share in these two profiles (`Request.Reads`), and nothing that other profiles or the
other language have recorded can make a difference to it.

Two runs of a request from stores that agree on this slice stay in step through all trials, all flags
that are added, and all flags that are taken out again; that is `Request.check_alike` for the slice.
-/

namespace CompilerFlags

namespace Request

/-- The buckets that a request reads: those in its scope, and their counterparts in the default
profile. -/
def Reads (r : Request) (b : Bucket) : Prop :=
  ∃ targets profile, r.scope = .ok (targets, profile) ∧
    (b.InScope targets .default ∨ b.InScope targets profile)

/-- What the target languages of a request see under its profile is in its slice. -/
lemma covers_reads (r : Request) : r.Covers r.Reads := by
  rintro targets profile hscope l hl b ⟨hprofile, hlanguage⟩
  have htarget : ∀ l', b.kind = .compile l' → l' ∈ targets := fun l' hkind =>
    hlanguage l' hkind ▸ hl
  exact ⟨targets, profile, hscope, hprofile.imp (⟨·, htarget⟩) (⟨·, htarget⟩)⟩

variable {σ : Type}

/-- A request does the same in two sessions that differ only in buckets outside its slice: it gets the
same answer, makes the same calls, gives the same report, leaves the same memory, and leaves stores
that agree on the slice. -/
theorem check_eq_of_agreeOn_reads (ctx : Context σ) (r : Request) (s : Session σ) (store : Store)
    (h : s.bench.store.AgreeOn r.Reads store) :
    let t : Session σ := { s with bench := { s.bench with store := store } }
    (r.check ctx s).1 = (r.check ctx t).1 ∧
      calls ctx [r] s = calls ctx [r] t ∧
      (r.check ctx s).2.reports = (r.check ctx t).2.reports ∧
      (r.check ctx s).2.bench.memory = (r.check ctx t).2.bench.memory ∧
      (r.check ctx s).2.bench.store.AgreeOn r.Reads (r.check ctx t).2.bench.store := by
  intro t
  have hst : s.Alike Eq r.Reads t := ⟨⟨rfl, h⟩, rfl⟩
  obtain ⟨hanswer, hafter⟩ := r.check_alike (.refl ctx) r.covers_reads hst
  have hrecord : s.unrecorded.Alike Eq r.Reads t.unrecorded := ⟨⟨rfl, h⟩, rfl⟩
  obtain ⟨_, hrecorded⟩ := r.check_alike (.refl ctx.recorded) r.covers_reads hrecord
  exact ⟨hanswer, congrArg Prod.snd hrecorded.bench.memory, hafter.reports, hafter.bench.memory,
    hafter.bench.store⟩

/-- What the compiler of the other language and another profile have recorded makes no difference. -/
theorem check_eq_of_other_language_and_profile :
    let ctx : Context Nat :=
      ⟨fun t m => (t.compileFlags.contains "-Wall", m + 1), .none, .linux, none, ⟨none, none⟩, none⟩
    let r : Request := ⟨.warnAll, ⟨false, some "strict", some (.one "c"), []⟩⟩
    let s : Session Nat := .start 0 (Store.empty.record ⟨.compile .c, .default⟩ (some "-O2"))
    let store := (s.bench.store.record ⟨.compile .cpp, .default⟩ (some "-Wall")).record
      ⟨.link, ⟨"pthread", by decide⟩⟩ (some "-pthread")
    let t : Session Nat := .start 0 store
    s.bench.store.AgreeOn r.Reads store ∧ s.bench.store ≠ store ∧
      (r.check ctx s).1 = (r.check ctx t).1 ∧ calls ctx [r] s = calls ctx [r] t ∧
      (r.check ctx s).2.bench.store.AgreeOn r.Reads (r.check ctx t).2.bench.store := by
  intro ctx r s store t
  have hscope : r.scope = .ok (⟨[.c], by decide⟩, ⟨"strict", by decide⟩) := rfl
  have hagree : s.bench.store.AgreeOn r.Reads store := by
    rintro b ⟨targets, profile, htargets, hb⟩
    obtain ⟨rfl, rfl⟩ := Prod.mk.inj (Except.ok.inj (hscope.symm.trans htargets))
    have hlink : b ≠ ⟨.link, ⟨"pthread", by decide⟩⟩ := by
      rintro rfl
      rcases hb with ⟨hprofile, _⟩ | ⟨hprofile, _⟩
      · exact absurd hprofile (by decide)
      · exact absurd hprofile (by decide)
    have hcompile : b ≠ ⟨.compile .cpp, .default⟩ := by
      rintro rfl
      rcases hb with ⟨_, hlanguage⟩ | ⟨_, hlanguage⟩
      · exact absurd (hlanguage .cpp rfl) (by decide)
      · exact absurd (hlanguage .cpp rfl) (by decide)
    show s.bench.store.get b = ((s.bench.store.record _ _).record _ _).get b
    rw [Store.get_record_of_ne hlink, Store.get_record_of_ne hcompile]
  obtain ⟨hanswer, hcalls, _, _, hafter⟩ := check_eq_of_agreeOn_reads ctx r s store hagree
  exact ⟨hagree, by decide, hanswer, hcalls, hafter⟩

end Request

end CompilerFlags
