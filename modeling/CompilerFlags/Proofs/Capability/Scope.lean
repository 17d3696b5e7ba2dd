import CompilerFlags.Capability.Check
import Mathlib.Tactic.Lemma

/-!
# What a request is about

The target languages and the profile of a request follow from its options; together they are its
`Request.scope`.  A request without a scope changes nothing.  Any other request does to its bench what
one search does (`bench_check_warning`) or what the check for threads does (`bench_check_threads`).

A check is taken apart once: `Request.plan` says whether it is refused, `Request.work` what it does if
not, and `Request.reportOf` what it then reports (`checkWith_of_plan_error`, `checkWith_of_plan_ok`).
-/

namespace CompilerFlags

/-- The target languages and the profile of a request. -/
def Request.scope (r : Request) : Except RequestError (Targets × Profile) :=
  CompilerFlags.scope r.options.languages
    (if r.capability = .threads then some (r.options.profile.getD Threads.defaultProfile)
      else r.options.profile)

/-- A bucket of a profile that some target languages own or share with all languages. -/
def Bucket.InScope (targets : Targets) (profile : Profile) (b : Bucket) : Prop :=
  b.profile = profile ∧ ∀ l, b.kind = .compile l → l ∈ targets

namespace Bucket

variable {targets : Targets} {profile : Profile}

lemma inScope_compile {l : Language} (hl : l ∈ targets) :
    InScope targets profile ⟨.compile l, profile⟩ :=
  ⟨rfl, fun _ h => FlagKind.compile.inj h ▸ hl⟩

lemma inScope_preprocessor : InScope targets profile ⟨.preprocessor, profile⟩ :=
  ⟨rfl, fun _ h => FlagKind.noConfusion h⟩

lemma inScope_link : InScope targets profile ⟨.link, profile⟩ :=
  ⟨rfl, fun _ h => FlagKind.noConfusion h⟩

end Bucket

/-! ## The primary language -/

/-- A selector that names languages names one first. -/
lemma Targets.primary_mem_of_resolve {selector : Option Selector} {targets : Targets}
    (h : resolve selector = .ok targets) : targets.primary?.getD .c ∈ targets.toList := by
  have hne : targets.toList ≠ [] := by
    cases selector with
    | none =>
      obtain rfl := Except.ok.inj h
      exact List.cons_ne_nil _ _
    | some selector =>
      unfold resolve at h
      dsimp only at h
      split at h
      · cases h
      · cases h
      · next l ls _ =>
        obtain rfl := Except.ok.inj h
        have hmem (s : OrderedSet Language) (more : List Language) (h : l ∈ s) :
            l ∈ s.insertMany more := by
          induction more generalizing s with
          | nil => exact h
          | cons a more ih => exact ih (s.insert a) (OrderedSet.mem_insert.2 (Or.inl h))
        exact List.ne_nil_of_mem (hmem _ ls (OrderedSet.mem_insert.2 (Or.inr rfl)))
  obtain ⟨l, ls, heq⟩ := List.exists_cons_of_ne_nil hne
  rw [primary?, heq]
  exact List.mem_cons_self

/-- The primary language of a scope is one of its target languages. -/
lemma primary_mem_of_scope {languages : Option Selector} {name : Option String} {targets : Targets}
    {profile : Profile} (h : scope languages name = .ok (targets, profile)) :
    targets.primary?.getD .c ∈ targets.toList := by
  unfold scope at h
  split at h
  · cases h
  · next resolved hresolve =>
    split at h
    · cases h
    · obtain ⟨rfl, rfl⟩ := Prod.mk.inj (Except.ok.inj h)
      exact Targets.primary_mem_of_resolve hresolve

/-! ## What a check does -/

namespace Request

variable {σ : Type} {r : Request} {targets : Targets} {profile : Profile}

/-- The compile flags that a request for a warning tries. -/
def warningFlags (r : Request) : List String :=
  match r.capability with
  | .warnAll => Warning.allFlags r.options.error
  | .warnExtra => Warning.extraFlags r.options.error
  | .lateDeclarations => Warning.lateDeclarationFlags r.options.error
  | .ignoreWarning => Warning.userFlags r.options
  | .threads => []

/-- Whether a request lacks the flags that its capability leaves to the user. -/
def LacksFlags (r : Request) : Prop :=
  r.capability = .ignoreWarning ∧ r.options.flags = []

instance (r : Request) : Decidable r.LacksFlags :=
  inferInstanceAs (Decidable (r.capability = .ignoreWarning ∧ r.options.flags = []))

/-- What a request works on, or why it is refused. -/
def plan (r : Request) : Except RequestError (Targets × Profile) :=
  if r.LacksFlags then .error (.missingFlags .ignoreWarning) else r.scope

/-- The status that a request comes to, and the bench that it leaves. -/
def work (ctx : Context σ) (r : Request) (targets : Targets) (profile : Profile) (w : Bench σ) :
    Status × Bench σ :=
  if r.capability = .threads then
    let found := Threads.detect ctx targets profile w
    (if found.1 then .yes else .no, found.2)
  else
    let found := (Warning.search r.warningFlags targets profile r.options.error).run
      ctx.compiler ctx.ids w
    (.ofOutcome found.1, found.2)

/-- The report of a request that comes to a status. -/
def reportOf (r : Request) (status : Status) : Report where
  message := r.capability.question
  result := status.name
  color :=
    if r.capability = .threads then if status.isAvailable then .green else .red else .yellow

lemma scope_of_warning (hr : r.capability ≠ .threads) :
    r.scope = CompilerFlags.scope r.options.languages r.options.profile := by
  rw [scope, if_neg hr]

lemma scope_of_threads (hr : r.capability = .threads) :
    r.scope = CompilerFlags.scope r.options.languages
      (some (r.options.profile.getD Threads.defaultProfile)) := by
  rw [scope, if_pos hr]

lemma not_lacksFlags_of_plan (h : r.plan = .ok (targets, profile)) : ¬r.LacksFlags := by
  intro hlacks
  rw [plan, if_pos hlacks] at h
  cases h

lemma scope_of_plan (h : r.plan = .ok (targets, profile)) : r.scope = .ok (targets, profile) := by
  rw [← h, plan, if_neg (not_lacksFlags_of_plan h)]

lemma warningFlags_of_lacksFlags (h : r.LacksFlags) : r.warningFlags = [] := by
  obtain ⟨hr, hflags⟩ := h
  unfold warningFlags
  rw [hr]
  show Warning.userFlags r.options = []
  rw [Warning.userFlags, hflags]
  exact ite_self []

/-- A request for a warning is refused at once for want of flags, or all its flags are tried. -/
lemma checkWith_of_warning (hr : r.capability ≠ .threads) (tell : Reporter σ) (ctx : Context σ)
    (s : Session σ) :
    r.checkWith tell ctx s =
      if r.LacksFlags then (.error (.missingFlags .ignoreWarning), s)
      else Warning.checkWith tell ctx r.capability.question r.warningFlags r.options s := by
  obtain ⟨capability, options⟩ := r
  cases capability with
  | warnAll => exact (if_neg fun h => Capability.noConfusion h.1).symm
  | warnExtra => exact (if_neg fun h => Capability.noConfusion h.1).symm
  | lateDeclarations => exact (if_neg fun h => Capability.noConfusion h.1).symm
  | ignoreWarning =>
    show Warning.checkUserFlagsWith tell ctx _ options s = _
    unfold Warning.checkUserFlagsWith
    by_cases hflags : options.flags = []
    · have hlacks : LacksFlags ⟨.ignoreWarning, options⟩ := ⟨rfl, hflags⟩
      rw [if_pos hlacks, if_pos (List.isEmpty_iff.2 hflags)]
    · have hlacks : ¬LacksFlags ⟨.ignoreWarning, options⟩ := fun h => hflags h.2
      rw [if_neg hlacks, if_neg (mt List.isEmpty_iff.1 hflags)]
      rfl
  | threads => exact absurd rfl hr

lemma checkWith_of_threads (hr : r.capability = .threads) (tell : Reporter σ) (ctx : Context σ)
    (s : Session σ) :
    r.checkWith tell ctx s = Threads.checkWith tell ctx r.capability.question r.options s := by
  obtain ⟨capability, options⟩ := r
  cases hr
  rfl

/-- A request that is refused changes nothing, whichever way reports are given. -/
lemma checkWith_of_plan_error {cause : RequestError} (h : r.plan = .error cause)
    (tell : Reporter σ) (ctx : Context σ) (s : Session σ) :
    r.checkWith tell ctx s = (.error cause, s) := by
  unfold plan at h
  by_cases hr : r.capability = .threads
  · have hlacks : ¬r.LacksFlags := fun h => Capability.noConfusion (hr.symm.trans h.1)
    rw [if_neg hlacks, scope_of_threads hr] at h
    rw [checkWith_of_threads hr, Threads.checkWith, h]
  · rw [checkWith_of_warning hr]
    split at h
    · next hlacks =>
      obtain rfl := Except.error.inj h
      rw [if_pos hlacks]
    · next hlacks =>
      rw [scope_of_warning hr] at h
      rw [if_neg hlacks, Warning.checkWith, h]

/-- A request that is not refused does its work and then gives its one report. -/
lemma checkWith_of_plan_ok (h : r.plan = .ok (targets, profile)) (tell : Reporter σ)
    (ctx : Context σ) (s : Session σ) :
    r.checkWith tell ctx s =
      (.ok (r.work ctx targets profile s.bench).1,
        tell { s with bench := (r.work ctx targets profile s.bench).2 }
          (r.reportOf (r.work ctx targets profile s.bench).1)) := by
  have hlacks := not_lacksFlags_of_plan h
  have hscope := scope_of_plan h
  unfold work reportOf
  by_cases hr : r.capability = .threads
  · rw [scope_of_threads hr] at hscope
    rw [checkWith_of_threads hr, Threads.checkWith, hscope, if_pos hr, if_pos hr]
    cases hfound : (Threads.detect ctx targets profile s.bench).1 with
    | false => simp only [hfound]; rfl
    | true => simp only [hfound]; rfl
  · rw [scope_of_warning hr] at hscope
    rw [checkWith_of_warning hr, if_neg hlacks, Warning.checkWith, hscope, if_neg hr, if_neg hr]

/-- A request that fails changes nothing. -/
lemma session_of_check_error {cause : RequestError} {ctx : Context σ} {s : Session σ}
    (h : (r.check ctx s).1 = .error cause) : (r.check ctx s).2 = s := by
  unfold check at h ⊢
  cases hplan : r.plan with
  | error cause => rw [checkWith_of_plan_error hplan]
  | ok found =>
    rw [checkWith_of_plan_ok hplan] at h
    cases h

/-- A request that is answered gives one report, which shows its status. -/
lemma reports_of_check_ok {status : Status} {ctx : Context σ} {s : Session σ}
    (h : (r.check ctx s).1 = .ok status) :
    (r.check ctx s).2.reports = s.reports ++ [r.reportOf status] := by
  unfold check at h ⊢
  cases hplan : r.plan with
  | error cause =>
    rw [checkWith_of_plan_error hplan] at h
    cases h
  | ok found =>
    rw [checkWith_of_plan_ok hplan] at h ⊢
    obtain rfl := Except.ok.inj h
    rfl

/-- A request without a scope changes nothing. -/
lemma session_check_of_error {cause : RequestError} (h : r.scope = .error cause) (ctx : Context σ)
    (s : Session σ) : (r.check ctx s).2 = s := by
  have hplan : ∃ e, r.plan = .error e := by
    unfold plan
    split
    · exact ⟨_, rfl⟩
    · exact ⟨cause, h⟩
  obtain ⟨e, he⟩ := hplan
  rw [check, checkWith_of_plan_error he]

/-- A request for a warning does one search, which is empty if there are no flags to try. -/
lemma bench_check_warning (hr : r.capability ≠ .threads) (hscope : r.scope = .ok (targets, profile))
    (ctx : Context σ) (s : Session σ) :
    (r.check ctx s).2.bench = ((Warning.search r.warningFlags targets profile r.options.error).run
      ctx.compiler ctx.ids s.bench).2 := by
  by_cases hlacks : r.LacksFlags
  · have hplan : r.plan = .error (.missingFlags .ignoreWarning) := if_pos hlacks
    rw [check, checkWith_of_plan_error hplan, warningFlags_of_lacksFlags hlacks]
    rfl
  · have hplan : r.plan = .ok (targets, profile) := (if_neg hlacks).trans hscope
    rw [check, checkWith_of_plan_ok hplan, work, if_neg hr]
    rfl

/-- A request for threads is not refused for want of flags. -/
lemma plan_of_threads (hr : r.capability = .threads) (hscope : r.scope = .ok (targets, profile)) :
    r.plan = .ok (targets, profile) := by
  have hlacks : ¬r.LacksFlags := fun h => Capability.noConfusion (hr.symm.trans h.1)
  rw [plan, if_neg hlacks, hscope]

/-- A request for threads does the check for threads. -/
lemma bench_check_threads (hr : r.capability = .threads) (hscope : r.scope = .ok (targets, profile))
    (ctx : Context σ) (s : Session σ) :
    (r.check ctx s).2.bench = (Threads.detect ctx targets profile s.bench).2 := by
  rw [check, checkWith_of_plan_ok (plan_of_threads hr hscope), work, if_pos hr]
  rfl

/-- The status of a request for threads says whether the check has found them. -/
lemma status_check_threads (hr : r.capability = .threads) (hscope : r.scope = .ok (targets, profile))
    (ctx : Context σ) (s : Session σ) :
    (r.check ctx s).1 =
      .ok (if (Threads.detect ctx targets profile s.bench).1 then .yes else .no) := by
  rw [check, checkWith_of_plan_ok (plan_of_threads hr hscope), work, if_pos hr]

end Request

end CompilerFlags
