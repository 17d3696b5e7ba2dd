import CompilerFlags.Proofs.Capability.Scope
import CompilerFlags.Proofs.Search.Alike

/-!
# Requests that cannot be told apart

A request reads of its session the memory of the compiler and those buckets that its target languages
see, and nothing else.  `Request.check_alike` says so for two contexts at once, as `Search.run_alike`
does for searches: if compilers and thread configuration programs answer alike, and the stores agree
on these buckets, then the results are the same, the reports are the same, and the sessions stay
alike.

The buckets that a request may see follow from its `Request.scope`.  A request without a scope is
refused, and changes nothing.
-/

namespace CompilerFlags

/-- Every bucket that the target languages of a request see has the property. -/
def Request.Covers (P : Bucket → Prop) (r : Request) : Prop :=
  ∀ targets profile, r.scope = .ok (targets, profile) → Bucket.Covers P targets.toList profile

variable {σ τ : Type}

/-! ## Contexts and sessions -/

/-- What the thread configuration program is asked about. -/
def Threads.configOptions : List String := ["--cflags", "--ldflags", "--libs"]

/-- From related memories two programs give the same answers to what they are asked and keep related
memories. -/
def Query.Alike (R : σ → τ → Prop) (query : Query σ) (other : Query τ) : Prop :=
  ∀ option ∈ Threads.configOptions, ∀ m n, R m n →
    (query option m).1 = (other option n).1 ∧ R (query option m).2 (other option n).2

/-- Two contexts whose programs answer alike, and which are the same otherwise. -/
structure Context.Alike (R : σ → τ → Prop) (ctx : Context σ) (other : Context τ) : Prop where
  compiler : ctx.compiler.Alike R other.compiler
  ids : ctx.ids = other.ids
  platform : ctx.platform = other.platform
  cProgram : ctx.cProgram = other.cProgram
  threadFlags : ctx.threadFlags = other.threadFlags
  threadConfig : Option.Rel (Query.Alike R) ctx.threadConfig other.threadConfig

/-- Two sessions with the same reports whose benches are alike. -/
structure Session.Alike (R : σ → τ → Prop) (P : Bucket → Prop) (s : Session σ) (t : Session τ) :
    Prop where
  bench : s.bench.Alike R P t.bench
  reports : s.reports = t.reports

/-- Two results are the same and come with sessions that are alike. -/
def Session.SameAnswer {α : Type} (R : σ → τ → Prop) (P : Bucket → Prop) (x : α × Session σ)
    (y : α × Session τ) : Prop :=
  x.1 = y.1 ∧ x.2.Alike R P y.2

/-- From equal memories a context answers like itself. -/
lemma Context.Alike.refl (ctx : Context σ) : ctx.Alike Eq ctx where
  compiler := by
    rintro t m _ rfl
    exact ⟨rfl, rfl⟩
  ids := rfl
  platform := rfl
  cProgram := rfl
  threadFlags := rfl
  threadConfig := by
    cases ctx.threadConfig with
    | none => exact .none
    | some query =>
      refine .some ?_
      rintro option _ m _ rfl
      exact ⟨rfl, rfl⟩

variable {R : σ → τ → Prop} {P : Bucket → Prop} {ctx : Context σ} {other : Context τ}

/-- The same report is given in both sessions. -/
lemma Session.Alike.report {w : Bench σ} {v : Bench τ} (h : w.Alike R P v) {before after : List Report}
    (hreports : before = after) (r : Report) :
    (Session.report ⟨w, before⟩ r).Alike R P (Session.report ⟨v, after⟩ r) :=
  ⟨h, congrArg (· ++ [r]) hreports⟩

/-! ## Threads -/

namespace Threads

/-- The same entries are new in stores that agree on their buckets. -/
lemma addEntries_alike {entries : List (Bucket × String)} (hentries : ∀ e ∈ entries, P e.1)
    {s t : Store} (h : s.AgreeOn P t) :
    (addEntries entries s).1 = (addEntries entries t).1 ∧
      (addEntries entries s).2.AgreeOn P (addEntries entries t).2 := by
  induction entries generalizing s t with
  | nil => exact ⟨rfl, h⟩
  | cons e entries ih =>
    obtain ⟨b, flag⟩ := e
    have hnew : (s.add b flag).1 = (t.add b flag).1 := by
      show (!s.contains b flag) = !t.contains b flag
      rw [h.contains_eq (hentries (b, flag) List.mem_cons_self)]
    obtain ⟨hothers, hafter⟩ :=
      ih (fun e he => hentries e (List.mem_cons_of_mem _ he)) (h.add b flag)
    unfold addEntries
    dsimp only
    rw [hnew, hothers]
    exact ⟨rfl, hafter⟩

lemma dropEntries_agree (entries : List (Bucket × String)) {s t : Store} (h : s.AgreeOn P t) :
    (dropEntries entries s).AgreeOn P (dropEntries entries t) := by
  induction entries generalizing s t with
  | nil => exact h
  | cons e entries ih => exact ih (h.discard e.1 e.2)

/-- The user's flags go to buckets that the target languages see. -/
lemma mem_userEntries {flags : ThreadFlags} {targets : Targets} {profile : Profile}
    {e : Bucket × String} (h : e ∈ userEntries flags targets profile) :
    (e.1 = ⟨.link, profile⟩ ∧ flags.link = some e.2) ∨
      ∃ l ∈ targets.toList, e.1 = ⟨.compile l, profile⟩ ∧ flags.compile = some e.2 := by
  unfold userEntries at h
  rcases List.mem_append.1 h with h | h
  · obtain ⟨flag, hflag, rfl⟩ := List.mem_map.1 h
    exact Or.inl ⟨rfl, Option.mem_toList.1 hflag⟩
  · obtain ⟨flag, hflag, h⟩ := List.mem_flatMap.1 h
    obtain ⟨l, hl, rfl⟩ := List.mem_map.1 h
    exact Or.inr ⟨l, hl, rfl, Option.mem_toList.1 hflag⟩

lemma ask_alike {query : Query σ} {query' : Query τ} (hquery : query.Alike R query')
    (option : String) (hoption : option ∈ configOptions) {m : σ} {n : τ} (h : R m n) :
    (ask query option m).1 = (ask query' option n).1 ∧
      R (ask query option m).2 (ask query' option n).2 := by
  obtain ⟨hanswer, hafter⟩ := hquery option hoption m n h
  unfold ask
  dsimp only
  rw [hanswer]
  exact ⟨rfl, hafter⟩

lemma consultConfig_alike (hctx : ctx.Alike R other) {m : σ} {n : τ} (h : R m n) :
    (consultConfig ctx m).1 = (consultConfig other n).1 ∧
      R (consultConfig ctx m).2 (consultConfig other n).2 := by
  have hconfig := hctx.threadConfig
  unfold consultConfig
  cases hleft : ctx.threadConfig with
  | none =>
    cases hright : other.threadConfig with
    | none => exact ⟨rfl, h⟩
    | some query' =>
      rw [hleft, hright] at hconfig
      cases hconfig
  | some query =>
    cases hright : other.threadConfig with
    | none =>
      rw [hleft, hright] at hconfig
      cases hconfig
    | some query' =>
      rw [hleft, hright] at hconfig
      cases hconfig with
      | some hquery =>
        obtain ⟨hcompile, hafter⟩ := ask_alike hquery "--cflags" (by decide) h
        obtain ⟨hlink, hafter'⟩ := ask_alike hquery "--ldflags" (by decide) hafter
        obtain ⟨hlibraries, hend⟩ := ask_alike hquery "--libs" (by decide) hafter'
        dsimp only [consult]
        rw [hcompile, hlink, hlibraries]
        exact ⟨rfl, hend⟩

section

variable {targets : Targets} {profile : Profile} {primary : Language} {w : Bench σ} {v : Bench τ}

lemma tryUserFlags_alike (hctx : ctx.Alike R other)
    (hcovers : Bucket.Covers P targets.toList profile) (hprimary : primary ∈ targets.toList)
    (h : w.Alike R P v) :
    Bench.SameAnswer R P (tryUserFlags ctx targets profile primary w)
      (tryUserFlags other targets profile primary v) := by
  have hentries : ∀ e ∈ userEntries ctx.threadFlags targets profile, P e.1 := by
    intro e he
    rcases mem_userEntries he with ⟨heq, _⟩ | ⟨l, hl, heq, _⟩
    · exact heq ▸ hcovers primary hprimary _ (Bucket.visibleTo_link primary profile)
    · exact heq ▸ hcovers l hl _ (Bucket.visibleTo_compile l profile)
  obtain ⟨hnew, hadded⟩ := addEntries_alike hentries h.store
  have hbench : Bench.Alike R P
      { w with store := (addEntries (userEntries ctx.threadFlags targets profile) w.store).2 }
      { v with store := (addEntries (userEntries ctx.threadFlags targets profile) v.store).2 } :=
    ⟨h.memory, hadded⟩
  obtain ⟨hanswer, hafter⟩ :=
    hbench.builds hctx.compiler (hcovers primary hprimary) joinFragment true
  unfold tryUserFlags
  rw [← hctx.threadFlags]
  by_cases hset : ctx.threadFlags.isSet = true
  · rw [if_pos hset, if_pos hset]
    dsimp only
    rw [← hanswer, ← hnew]
    split
    · exact ⟨hanswer, hafter⟩
    · exact ⟨rfl, hafter.memory, dropEntries_agree _ hafter.store⟩
  · rw [if_neg hset, if_neg hset]
    exact ⟨rfl, h⟩

/-- The table is searched alike if the thread configuration programs have said the same. -/
lemma searchTable_alike_of_config (hcompiler : ctx.compiler.Alike R other.compiler)
    (hids : ctx.ids = other.ids) (hplatform : ctx.platform = other.platform)
    (hcovers : Bucket.Covers P targets.toList profile) (hstore : w.store.AgreeOn P v.store)
    (hconfig : (consultConfig ctx w.memory).1 = (consultConfig other v.memory).1)
    (hmemory : R (consultConfig ctx w.memory).2 (consultConfig other v.memory).2) :
    Bench.SameAnswer R P (searchTable ctx targets profile w)
      (searchTable other targets profile v) := by
  have hbench : Bench.Alike R P { w with memory := (consultConfig ctx w.memory).2 }
      { v with memory := (consultConfig other v.memory).2 } := ⟨hmemory, hstore⟩
  obtain ⟨houtcome, hafter⟩ := Search.run_alike hcompiler ctx.ids
    (search (candidateTable ctx.platform (consultConfig ctx w.memory).1) targets profile)
    hcovers hbench
  unfold searchTable
  dsimp only
  rw [← hplatform, ← hids, ← hconfig]
  exact ⟨congrArg Outcome.isSuccess houtcome, hafter⟩

lemma searchTable_alike (hctx : ctx.Alike R other)
    (hcovers : Bucket.Covers P targets.toList profile) (h : w.Alike R P v) :
    Bench.SameAnswer R P (searchTable ctx targets profile w)
      (searchTable other targets profile v) := by
  obtain ⟨hconfig, hmemory⟩ := consultConfig_alike hctx h.memory
  exact searchTable_alike_of_config hctx.compiler hctx.ids hctx.platform hcovers h.store hconfig
    hmemory

lemma findFlags_alike (hctx : ctx.Alike R other)
    (hcovers : Bucket.Covers P targets.toList profile) (hprimary : primary ∈ targets.toList)
    (h : w.Alike R P v) :
    Bench.SameAnswer R P (findFlags ctx targets profile primary w)
      (findFlags other targets profile primary v) := by
  obtain ⟨hanswer, hafter⟩ := tryUserFlags_alike hctx hcovers hprimary h
  unfold findFlags
  dsimp only
  rw [← hanswer]
  split
  · exact ⟨hanswer, hafter⟩
  · exact searchTable_alike hctx hcovers hafter

lemma adjustAttribute_alike (hctx : ctx.Alike R other)
    (hprimary : ∀ b : Bucket, b.VisibleTo primary profile → P b) (h : w.Alike R P v) :
    (adjustAttribute ctx profile primary w).Alike R P (adjustAttribute other profile primary v) := by
  obtain ⟨husual, hafter⟩ := h.builds hctx.compiler hprimary (attributeFragment joinable) true
  obtain ⟨hother, hafter'⟩ :=
    hafter.builds hctx.compiler hprimary (attributeFragment undetached) true
  unfold adjustAttribute
  dsimp only
  rw [← husual, ← hother]
  split
  · exact hafter
  · split
    · exact (hafter'.addFlag (hprimary _ (Bucket.visibleTo_preprocessor primary profile)) _).2
    · exact hafter'

lemma lacksLinkFlag_alike (hcovers : Bucket.Covers P targets.toList profile)
    (hprimary : primary ∈ targets.toList) {s t : Store} (h : s.AgreeOn P t) :
    lacksLinkFlag targets profile s = lacksLinkFlag targets profile t := by
  have hcompile : ∀ l ∈ targets.toList, s.contains ⟨.compile l, profile⟩ "-pthread" =
      t.contains ⟨.compile l, profile⟩ "-pthread" := fun l hl =>
    h.contains_eq (hcovers l hl _ (Bucket.visibleTo_compile l profile)) _
  have hlink := h.contains_eq (hcovers primary hprimary _ (Bucket.visibleTo_link primary profile))
    "-pthread"
  rw [lacksLinkFlag, lacksLinkFlag, hlink, Bool.eq_iff_iff, Bool.and_eq_true, Bool.and_eq_true,
    List.any_eq_true, List.any_eq_true]
  refine and_congr_left fun _ => exists_congr fun l => and_congr_right fun hl => ?_
  rw [hcompile l hl]

lemma adjustLink_alike (hctx : ctx.Alike R other)
    (hcovers : Bucket.Covers P targets.toList profile) (hprimary : primary ∈ targets.toList)
    (h : w.Alike R P v) :
    (adjustLink ctx targets profile primary w).Alike R P
      (adjustLink other targets profile primary v) := by
  obtain ⟨hanswer, hafter⟩ := h.builds hctx.compiler (hcovers primary hprimary) fullFragment true
  unfold adjustLink
  dsimp only
  rw [← lacksLinkFlag_alike hcovers hprimary h.store, ← hanswer]
  split
  · split
    · exact hafter
    · exact (hafter.addFlag (hcovers primary hprimary _ (Bucket.visibleTo_link primary profile)) _).2
  · exact h

lemma adjust_alike (hctx : ctx.Alike R other)
    (hcovers : Bucket.Covers P targets.toList profile) (hprimary : primary ∈ targets.toList)
    (h : w.Alike R P v) :
    Bench.SameAnswer R P (adjust ctx targets profile primary w)
      (adjust other targets profile primary v) := by
  have hattribute := adjustAttribute_alike hctx (hcovers primary hprimary) h
  have hdefinition := (hattribute.addFlag
    (hcovers primary hprimary _ (Bucket.visibleTo_preprocessor primary profile))
    (platformDefinition? ctx.platform)).2
  unfold adjust
  dsimp only
  rw [← hctx.platform, ← hctx.cProgram]
  exact ⟨rfl, adjustLink_alike hctx hcovers hprimary hdefinition⟩

lemma detect_alike (hctx : ctx.Alike R other) (hcovers : Bucket.Covers P targets.toList profile)
    (hprimary : targets.primary?.getD .c ∈ targets.toList) (h : w.Alike R P v) :
    Bench.SameAnswer R P (detect ctx targets profile w) (detect other targets profile v) := by
  obtain ⟨hfound, hafter⟩ := findFlags_alike hctx hcovers hprimary h
  unfold detect
  dsimp only
  rw [← hfound]
  split
  · exact adjust_alike hctx hcovers hprimary hafter
  · exact ⟨hfound, hafter⟩

end

end Threads

/-! ## Requests -/

/-- What a request does is alike on benches that are alike. -/
lemma Request.work_alike (hctx : ctx.Alike R other) (r : Request) {targets : Targets}
    {profile : Profile} (hcovers : Bucket.Covers P targets.toList profile)
    (hprimary : targets.primary?.getD .c ∈ targets.toList) {w : Bench σ} {v : Bench τ}
    (h : w.Alike R P v) :
    Bench.SameAnswer R P (r.work ctx targets profile w) (r.work other targets profile v) := by
  unfold work
  split
  · obtain ⟨hfound, hafter⟩ := Threads.detect_alike hctx hcovers hprimary h
    dsimp only
    rw [← hfound]
    exact ⟨rfl, hafter⟩
  · obtain ⟨houtcome, hafter⟩ := Search.run_alike hctx.compiler ctx.ids
      (Warning.search r.warningFlags targets profile r.options.error) hcovers h
    dsimp only
    rw [← hctx.ids, ← houtcome]
    exact ⟨rfl, hafter⟩

/-- A request cannot tell contexts apart that answer alike, nor stores that agree on the buckets its
target languages see. -/
theorem Request.check_alike (hctx : ctx.Alike R other) (r : Request) (hcovers : r.Covers P)
    {s : Session σ} {t : Session τ} (h : s.Alike R P t) :
    Session.SameAnswer R P (r.check ctx s) (r.check other t) := by
  unfold check
  cases hplan : r.plan with
  | error cause =>
    rw [checkWith_of_plan_error hplan, checkWith_of_plan_error hplan]
    exact ⟨rfl, h⟩
  | ok found =>
    obtain ⟨targets, profile⟩ := found
    have hscope := scope_of_plan hplan
    obtain ⟨hstatus, hafter⟩ := r.work_alike hctx (hcovers targets profile hscope)
      (primary_mem_of_scope hscope) h.bench
    rw [checkWith_of_plan_ok hplan, checkWith_of_plan_ok hplan, ← hstatus]
    exact ⟨rfl, Session.Alike.report hafter h.reports _⟩

end CompilerFlags
