import CompilerFlags.Proofs.Capability.Errors
import CompilerFlags.Proofs.Capability.Sequence
import CompilerFlags.Proofs.Search.Commit

/-!
# When a request reports

A check takes its way to report as a parameter.  Here both the compiler and the reports write what they
do into one list, the `Request.timeline` of the check, so that the order of calls and reports can be
read off.  Nothing else is different in a `timed` context (`Request.work_timed`).

A request that is refused does nothing at all.  Any other request makes its calls and then gives one
report, which shows its status (`Request.check_refuses_or_reports`).
-/

namespace CompilerFlags

variable {σ : Type}

/-! ## Timelines -/

/-- Something that a check does and that is seen outside. -/
inductive Happening
  | call (c : Call)
  | report (r : Report)
deriving DecidableEq, Repr

/-- The compiler that writes its calls into a timeline. -/
def Compiler.timed (compiler : Compiler σ) : Compiler (σ × List Happening) := fun t m =>
  let answer := compiler t m.1
  (answer.1, answer.2, m.2 ++ [.call ⟨t, answer.1⟩])

/-- The program that answers from the memory beside a timeline. -/
def Query.timed (query : Query σ) : Query (σ × List Happening) := fun option m =>
  let answer := query option m.1
  (answer.1, answer.2, m.2)

/-- The context in which a timeline is kept. -/
def Context.timed (ctx : Context σ) : Context (σ × List Happening) where
  compiler := ctx.compiler.timed
  ids := ctx.ids
  platform := ctx.platform
  cProgram := ctx.cProgram
  threadFlags := ctx.threadFlags
  threadConfig := ctx.threadConfig.map Query.timed

/-- The session in which a timeline begins. -/
def Session.untimed (s : Session σ) : Session (σ × List Happening) :=
  { bench := ⟨(s.bench.memory, []), s.bench.store⟩, reports := s.reports }

/-- Gives a report and writes it into the timeline. -/
def Session.reportTimed : Reporter (σ × List Happening) := fun s r =>
  let memory := (s.bench.memory.1, s.bench.memory.2 ++ [.report r])
  { s with bench := { s.bench with memory := memory } }.report r

/-- What happens in the check of a request, the first thing first. -/
def Request.timeline (ctx : Context σ) (r : Request) (s : Session σ) : List Happening :=
  (r.checkWith Session.reportTimed ctx.timed s.untimed).2.bench.memory.2

/-- A timeline of calls alone is their record. -/
def OnlyCalls (m : σ × List Happening) (n : σ × List Call) : Prop :=
  m.1 = n.1 ∧ m.2 = n.2.map Happening.call

/-- Until a report is given, a timeline is a record of calls. -/
lemma Context.timed_alike (ctx : Context σ) : ctx.timed.Alike OnlyCalls ctx.recorded where
  compiler := by
    rintro t ⟨m, happenings⟩ ⟨n, calls⟩ ⟨hm, hcalls⟩
    obtain rfl : m = n := hm
    obtain rfl : happenings = calls.map Happening.call := hcalls
    refine ⟨rfl, rfl, ?_⟩
    show calls.map Happening.call ++ [.call _] = (calls ++ [_]).map Happening.call
    rw [List.map_append]
    rfl
  ids := rfl
  platform := rfl
  cProgram := rfl
  threadFlags := rfl
  threadConfig := by
    unfold timed recorded
    dsimp only
    cases ctx.threadConfig with
    | none => exact .none
    | some query =>
      refine .some ?_
      rintro option _ ⟨m, happenings⟩ ⟨n, calls⟩ ⟨hm, hcalls⟩
      obtain rfl : m = n := hm
      exact ⟨rfl, rfl, hcalls⟩

/-! ## The status of a request -/

/-- A search is reported as unavailable if it does not succeed. -/
lemma Status.ofOutcome_eq_no_iff {outcome : Outcome} :
    ofOutcome outcome = .no ↔ outcome.isSuccess = false := by
  cases outcome <;> simp [ofOutcome, Outcome.isSuccess]

namespace Request

variable {r : Request} {targets : Targets} {profile : Profile} (ctx : Context σ)

/-- The status `error` is for warnings that were asked for as errors; they do not get the status
`yes`. -/
lemma status_work (r : Request) (targets : Targets) (profile : Profile) (w : Bench σ) :
    ((r.work ctx targets profile w).1 = .error →
      r.options.error = true ∧ r.capability ≠ .threads) ∧
    ((r.work ctx targets profile w).1 = .yes →
      r.options.error = false ∨ r.capability = .threads) := by
  unfold work
  split
  · next hr =>
    refine ⟨fun h => ?_, fun _ => Or.inr hr⟩
    dsimp only at h
    split at h
    · cases h
    · cases h
  · next hr =>
    dsimp only
    by_cases hsuccess : ((Warning.search r.warningFlags targets profile r.options.error).run
      ctx.compiler ctx.ids w).1.isSuccess = true
    · have hescalated :
          (Warning.search r.warningFlags targets profile r.options.error).escalated =
            r.options.error := rfl
      rw [Search.outcome_of_isSuccess hsuccess, hescalated]
      cases herror : r.options.error with
      | false => exact ⟨fun h => (nomatch h), fun _ => Or.inl rfl⟩
      | true => exact ⟨fun _ => ⟨rfl, hr⟩, fun h => (nomatch h)⟩
    · rw [Status.ofOutcome_eq_no_iff.2 (Bool.eq_false_iff.2 hsuccess)]
      exact ⟨fun h => (nomatch h), fun h => (nomatch h)⟩

/-! ## What happens in a check -/

/-- With a timeline, the work of a request comes to the same status, and its calls are the timeline. -/
lemma work_timed (h : r.plan = .ok (targets, profile)) (s : Session σ) :
    (r.work ctx.timed targets profile s.untimed.bench).1 =
        (r.work ctx targets profile s.bench).1 ∧
      (r.work ctx.timed targets profile s.untimed.bench).2.memory.2 =
        (calls ctx [r] s).map Happening.call := by
  have hprimary := primary_mem_of_scope (scope_of_plan h)
  have hcovers : Bucket.Covers (fun _ => True) targets.toList profile := fun _ _ _ _ => trivial
  have hrecorded := r.work_alike ctx.recorded_alike hcovers hprimary
    (w := s.unrecorded.bench) (v := s.bench) ⟨rfl, .refl _⟩
  have htimed := r.work_alike ctx.timed_alike hcovers hprimary
    (w := s.untimed.bench) (v := s.unrecorded.bench) ⟨⟨rfl, rfl⟩, .refl _⟩
  have hcalls : calls ctx [r] s =
      (r.work ctx.recorded targets profile s.unrecorded.bench).2.memory.2 := by
    show (r.check ctx.recorded s.unrecorded).2.bench.memory.2 = _
    rw [check, checkWith_of_plan_ok h]
    rfl
  rw [hcalls]
  exact ⟨htimed.1.trans hrecorded.1, htimed.2.memory.2⟩

/-- A request is refused exactly for the reasons of `Refused`, and then nothing happens and nothing
changes.  Any other request makes its calls and gives one report afterwards, which shows its status; the
status is `error` only for warnings that were asked for as errors, and `yes` only for the others. -/
theorem check_refuses_or_reports (r : Request) (s : Session σ) :
    (∀ e, (r.check ctx s).1 = .error e ↔ r.Refused e) ∧
    (∀ e, (r.check ctx s).1 = .error e → (r.check ctx s).2 = s ∧ r.timeline ctx s = []) ∧
    (∀ status, (r.check ctx s).1 = .ok status →
      (r.check ctx s).2.reports = s.reports ++ [r.reportOf status] ∧
      r.timeline ctx s =
        (calls ctx [r] s).map Happening.call ++ [.report (r.reportOf status)] ∧
      (r.reportOf status).result = status.name ∧
      (status = .error → r.options.error = true ∧ r.capability ≠ .threads) ∧
      (status = .yes → r.options.error = false ∨ r.capability = .threads)) := by
  simp only [← plan_eq_error_iff]
  unfold check timeline
  cases hplan : r.plan with
  | error cause =>
    rw [checkWith_of_plan_error hplan, checkWith_of_plan_error hplan]
    refine ⟨fun e => by simp, fun _ _ => ⟨rfl, rfl⟩, fun status h => ?_⟩
    cases h
  | ok found =>
    obtain ⟨targets, profile⟩ := found
    obtain ⟨hstatus, hcalls⟩ := work_timed ctx hplan s
    rw [checkWith_of_plan_ok hplan, checkWith_of_plan_ok hplan]
    refine ⟨fun e => by simp, fun e h => (nomatch h), fun status h => ?_⟩
    obtain rfl : (r.work ctx targets profile s.bench).1 = status := Except.ok.inj h
    obtain ⟨herror, hyes⟩ := status_work ctx r targets profile s.bench
    refine ⟨rfl, ?_, rfl, herror, hyes⟩
    show (r.work ctx.timed targets profile s.untimed.bench).2.memory.2 ++ [_] = _
    rw [hcalls, hstatus]

end Request

end CompilerFlags
