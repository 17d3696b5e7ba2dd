import CompilerFlags.Proofs.Capability.Sequence
import CompilerFlags.Proofs.Store.Persistence

/-!
# Saving between requests changes nothing

Requests may be checked in one run of the program, or in several runs that hand the store on in its
written form.  The two ways are not the same inside: a trial that failed may leave a bucket without
flags, and such a bucket is not written.

Nobody can tell, and this is shown at the end of the module.  A request reads flags from buckets and
never asks whether a bucket exists, so the stores of the two runs need only read the same, and that
survives every request (`Request.check_alike`) and every reloading (`Session.reload_eq_ok`).
-/

namespace CompilerFlags

variable {σ : Type}

/-- Replaces the store of a session by what is read from its written form. -/
def Session.reload (s : Session σ) : Except Store.FileError (Session σ) :=
  (Store.ofToml s.bench.store.toToml).map fun store =>
    { s with bench := { s.bench with store := store } }

namespace Request

variable (ctx : Context σ)

/-- Checks requests one after another, and reloads the store before each of them. -/
def answersReloading : List Request → Session σ →
    Except Store.FileError (List (Except RequestError Status) × Session σ)
  | [], s => .ok ([], s)
  | r :: rs, s => do
    let s ← s.reload
    let first := r.check ctx s
    let others ← answersReloading rs first.2
    .ok (first.1 :: others.1, others.2)

/-- The calls that are made for requests if the store is reloaded before each of them. -/
def callsReloading (rs : List Request) (s : Session σ) : Except Store.FileError (List Call) :=
  (answersReloading ctx.recorded rs s.unrecorded).map fun result => result.2.bench.memory.2

end Request

/-! ## Sessions that read the same -/

/-- Two sessions that differ at most in the buckets without flags. -/
abbrev Session.ReadsLike (s t : Session σ) : Prop := s.Alike Eq (fun _ => True) t

lemma Session.ReadsLike.refl (s : Session σ) : s.ReadsLike s := ⟨⟨rfl, .refl _⟩, rfl⟩

lemma Session.ReadsLike.trans {s t u : Session σ} (h : s.ReadsLike t) (h' : t.ReadsLike u) :
    s.ReadsLike u :=
  ⟨⟨h.bench.memory.trans h'.bench.memory, h.bench.store.trans h'.bench.store⟩,
    h.reports.trans h'.reports⟩

/-- A store is reloaded without an error, and the session reads as before. -/
lemma Session.reload_eq_ok (s : Session σ) : ∃ t, s.reload = .ok t ∧ s.ReadsLike t := by
  obtain ⟨store, hload, hread⟩ := s.bench.store.exists_ofToml_toToml
  refine ⟨{ s with bench := { s.bench with store := store } }, ?_, ⟨rfl, fun b _ => ?_⟩, rfl⟩
  · rw [reload, hload]
    rfl
  · exact (hread b).symm

namespace Request

variable (ctx : Context σ)

/-- From sessions that read the same, requests get the same answers with and without reloading, and
leave sessions that read the same. -/
lemma answersReloading_alike (rs : List Request) {s t : Session σ} (h : s.ReadsLike t) :
    ∃ after, answersReloading ctx rs t = .ok ((answers ctx rs s).1, after) ∧
      (answers ctx rs s).2.ReadsLike after := by
  induction rs generalizing s t with
  | nil => exact ⟨t, rfl, h⟩
  | cons r rs ih =>
    obtain ⟨t', hload, hread⟩ := t.reload_eq_ok
    obtain ⟨hanswer, hafter⟩ :=
      r.check_alike (.refl ctx) (fun _ _ _ _ _ _ _ => trivial) (h.trans hread)
    obtain ⟨after, hothers, hend⟩ := ih hafter
    refine ⟨after, ?_, hend⟩
    unfold answersReloading
    rw [hload]
    show (answersReloading ctx rs (r.check ctx t').2).bind _ = _
    rw [hothers, ← hanswer]
    rfl

/-- Checking requests on one store and checking them with the store reloaded before each of them is
the same: the answers, the calls, the memory, the reports, and what is read from the store at the
end. -/
theorem answersReloading_eq_answers (rs : List Request) (s : Session σ) :
    callsReloading ctx rs s = .ok (calls ctx rs s) ∧
      ∃ after, answersReloading ctx rs s = .ok ((answers ctx rs s).1, after) ∧
        after.bench.memory = (answers ctx rs s).2.bench.memory ∧
        after.reports = (answers ctx rs s).2.reports ∧
        (∀ b, after.bench.store.get b = (answers ctx rs s).2.bench.store.get b) ∧
        after.bench.store.toToml = (answers ctx rs s).2.bench.store.toToml := by
  constructor
  · obtain ⟨after, hanswers, hend⟩ :=
      answersReloading_alike ctx.recorded rs (.refl s.unrecorded)
    rw [callsReloading, hanswers, calls, hend.bench.memory]
    rfl
  · obtain ⟨after, hanswers, hend⟩ := answersReloading_alike ctx rs (.refl s)
    have hread (b : Bucket) : after.bench.store.get b = (answers ctx rs s).2.bench.store.get b :=
      (hend.bench.store b trivial).symm
    exact ⟨after, hanswers, hend.bench.memory.symm, hend.reports.symm, hread,
      Store.toToml_congr hread⟩

end Request

end CompilerFlags
