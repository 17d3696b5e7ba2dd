import CompilerFlags.Proofs.Capability.Keeping
import CompilerFlags.Proofs.Capability.Reporting

/-!
# What an unavailable capability leaves behind

A request whose status is `no` has tried flags and taken them out again, so that the store reads as
before.  For a search this is the rollback of its course (`Search.run_agree`); in the check for threads
it holds of the user's flags and of the table, one after the other (`Threads.findFlags_agree`).

There is one exception.  On AIX the check for threads ends with a look at the C compiler, after the
flags have been found and recorded; if the compiler is not one that builds thread-safe programs the
status becomes `no`, and the flags stay.  The name of the C compiler is read nowhere else
(`Threads.detect_program`), hence the store is then the one that a safe compiler would have got.
-/

namespace CompilerFlags

variable {σ : Type}

/-! ## Threads -/

namespace Threads

variable {ctx : Context σ} {targets : Targets} {profile : Profile} {primary : Language}
  {w : Bench σ}

/-- If neither the user's flags nor the table give a program that links, the store reads as before. -/
lemma findFlags_agree (h : (findFlags ctx targets profile primary w).1 = false) :
    w.store.AgreeOn (fun _ => True) (findFlags ctx targets profile primary w).2.store := by
  rcases tryUserFlags_store ctx targets profile primary w with ⟨huser, _⟩ | ⟨huser, hread⟩
  · rw [findFlags_of_taken huser] at h
    cases h
  · rw [findFlags_of_refused huser] at h ⊢
    exact hread.trans (Search.run_agree h)

/-- Threads are unavailable because no flags were found, or because the C compiler is not safe. -/
lemma detect_eq_false (h : (detect ctx targets profile w).1 = false) :
    w.store.AgreeOn (fun _ => True) (detect ctx targets profile w).2.store ∨
      ((findFlags ctx targets profile (targets.primary?.getD .c) w).1 = true ∧
        compilerIsSafe ctx.platform ctx.cProgram = false) := by
  unfold detect at h ⊢
  dsimp only at h ⊢
  split at h
  · next hfound => exact Or.inr ⟨hfound, h⟩
  · next hfound =>
    rw [if_neg hfound]
    exact Or.inl (findFlags_agree h)

/-- The name of the C compiler matters for the result alone, and only if flags were found. -/
lemma detect_program (ctx : Context σ) (targets : Targets) (profile : Profile) (w : Bench σ)
    (program : Option String) :
    detect { ctx with cProgram := program } targets profile w =
      ((findFlags ctx targets profile (targets.primary?.getD .c) w).1 &&
          compilerIsSafe ctx.platform program,
        (detect ctx targets profile w).2) := by
  have hfind : findFlags { ctx with cProgram := program } targets profile
      (targets.primary?.getD .c) w = findFlags ctx targets profile (targets.primary?.getD .c) w :=
    rfl
  unfold detect
  dsimp only
  rw [hfind]
  cases hfound : (findFlags ctx targets profile (targets.primary?.getD .c) w).1 with
  | false =>
    rw [if_neg Bool.false_ne_true, if_neg Bool.false_ne_true]
    exact Prod.ext hfound rfl
  | true => rfl

lemma compilerIsSafe_eq_false_iff {platform : Platform} {program : Option String} :
    compilerIsSafe platform program = false ↔
      platform = .aix ∧ program.getD "" ∉ aixCompilers := by
  simp [compilerIsSafe]

lemma compilerIsSafe_of_mem {program : String} (h : program ∈ aixCompilers)
    (platform : Platform) : compilerIsSafe platform (some program) = true := by
  unfold compilerIsSafe
  rw [Option.getD_some, decide_eq_true h, Bool.or_true]

end Threads

/-! ## Requests -/

namespace Request

/-- If a capability is not available, everything reads as before the request, except for threads on
AIX with a C compiler that does not build thread-safe programs.  Then the flags may have been found all
the same; they are recorded exactly as for a safe C compiler, for which the status is `yes`. -/
theorem unavailable_reads_as_before_unless_unsafe (ctx : Context σ) (r : Request) (s : Session σ)
    (h : (r.check ctx s).1 = .ok .no) :
    (∀ b, (r.check ctx s).2.bench.store.get b = s.bench.store.get b) ∨
    (r.capability = .threads ∧ ctx.platform = .aix ∧
      ctx.cProgram.getD "" ∉ Threads.aixCompilers ∧
      ∀ program ∈ Threads.aixCompilers,
        let other := r.check { ctx with cProgram := some program } s
        other.1 = .ok .yes ∧ other.2.bench = (r.check ctx s).2.bench) := by
  unfold check at h ⊢
  cases hplan : r.plan with
  | error cause =>
    rw [checkWith_of_plan_error hplan] at h
    cases h
  | ok found =>
    obtain ⟨targets, profile⟩ := found
    simp only [checkWith_of_plan_ok hplan] at h ⊢
    have hstatus : (r.work ctx targets profile s.bench).1 = .no := Except.ok.inj h
    unfold work at hstatus ⊢
    by_cases hr : r.capability = .threads
    · simp only [if_pos hr] at hstatus ⊢
      have hfalse : (Threads.detect ctx targets profile s.bench).1 = false := by
        cases hfound : (Threads.detect ctx targets profile s.bench).1 with
        | false => rfl
        | true =>
          rw [hfound] at hstatus
          cases hstatus
      rcases Threads.detect_eq_false hfalse with hread | ⟨hfound, hunsafe⟩
      · exact Or.inl fun b => (hread b trivial).symm
      · obtain ⟨hplatform, hprogram⟩ := Threads.compilerIsSafe_eq_false_iff.1 hunsafe
        refine Or.inr ⟨hr, hplatform, hprogram, fun program hmem => ?_⟩
        rw [Threads.detect_program, hfound, Threads.compilerIsSafe_of_mem hmem]
        exact ⟨rfl, rfl⟩
    · simp only [if_neg hr] at hstatus ⊢
      have hfailed := Status.ofOutcome_eq_no_iff.1 hstatus
      exact Or.inl fun b => (Search.run_agree hfailed b trivial).symm

/-- On AIX the compiler `xlc` gets the status `no` although the definition for threads was recorded. -/
theorem unavailable_xlc_reads_as_before_unless_unsafe :
    let ctx : Context Unit :=
      ⟨fun _ m => (true, m), .none, .aix, some "xlc", ⟨none, none⟩, none⟩
    let r : Request := ⟨.threads, .default⟩
    let s : Session Unit := .start () .empty
    (r.check ctx s).1 = .ok .no ∧
    ((∀ b, (r.check ctx s).2.bench.store.get b = s.bench.store.get b) ∨
    (r.capability = .threads ∧ ctx.platform = .aix ∧
      ctx.cProgram.getD "" ∉ Threads.aixCompilers ∧
      ∀ program ∈ Threads.aixCompilers,
        let other := r.check { ctx with cProgram := some program } s
        other.1 = .ok .yes ∧ other.2.bench = (r.check ctx s).2.bench)) :=
  ⟨by decide, unavailable_reads_as_before_unless_unsafe _ _ _ (by decide)⟩

/-- It is not true that an unavailable capability never changes what is read. -/
theorem not_forall_unavailable_reads_as_before :
    ¬∀ (ctx : Context Unit) (r : Request) (s : Session Unit),
      (r.check ctx s).1 = .ok .no →
        ∀ b, (r.check ctx s).2.bench.store.get b = s.bench.store.get b := by
  intro h
  have hread := h ⟨fun _ m => (true, m), .none, .aix, some "xlc", ⟨none, none⟩, none⟩
    ⟨.threads, .default⟩ (.start () .empty) (by decide)
    ⟨.preprocessor, ⟨"pthread", by decide⟩⟩
  revert hread
  decide

end Request

end CompilerFlags
