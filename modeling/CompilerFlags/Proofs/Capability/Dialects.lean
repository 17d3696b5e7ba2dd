import CompilerFlags.Proofs.Bucket.Naming
import CompilerFlags.Proofs.Capability.Refusal
import CompilerFlags.Proofs.Capability.Sources

/-!
# Which compilers see which arguments

A candidate is shown to the compiler of a language only if its dialect accepts the compile flag.  The
dialect looks at how the flag starts.  But a flag may be an entry of several arguments, which are
separated only when the compiler is called; and the thread flags of the user are not looked at.

So arguments that a compiler does not understand may reach it after all.  They do exactly if a
request brings them in one of three ways, each named by a field of `Request.Clean`.  All other flags
are in the tables of the library and bring none.
-/

namespace CompilerFlags

variable {σ : Type}

/-! ## Entries that a dialect speaks -/

/-- The dialect accepts every argument of an entry. -/
def Dialect.Speaks (d : Dialect) (entry : String) : Prop :=
  ∀ a ∈ Text.words entry, d.accepts a = true

instance (d : Dialect) (entry : String) : Decidable (d.Speaks entry) :=
  inferInstanceAs (Decidable (∀ a ∈ Text.words entry, d.accepts a = true))

/-- A flag counts for the compiler of a language only in the buckets that the compiler sees; there
its dialect must speak the flag. -/
def Dialect.Suits (d : Dialect) (l : Language) (b : Bucket) (flag : String) : Prop :=
  b.kind = .preprocessor ∨ b.kind = .compile l → d.Speaks flag

lemma Dialect.suits_link (d : Dialect) (l : Language) (profile : Profile) (flag : String) :
    d.Suits l ⟨.link, profile⟩ flag := by
  rintro (h | h) <;> cases h

lemma Dialect.suits_compile {d : Dialect} {l l' : Language} {profile : Profile} {flag : String} :
    d.Suits l ⟨.compile l', profile⟩ flag ↔ (l' = l → d.Speaks flag) := by
  constructor
  · exact fun h heq => h (Or.inr (congrArg FlagKind.compile heq))
  · rintro h (hkind | hkind)
    · cases hkind
    · exact h (FlagKind.compile.inj hkind)

/-! ## What trials show -/

/-- A trial of a store whose flags suit a language shows its compiler no argument that it does not
understand. -/
lemma Trial.MadeWithin.accepts {d : Dialect} {t : Trial} (h : t.MadeWithin (d.Suits t.language)) :
    ∀ a ∈ t.compileArguments, d.accepts a = true := by
  obtain ⟨s, hs, l, profile, fragment, link, rfl⟩ := h
  intro a ha
  obtain ⟨flag, hflag, ha⟩ := List.mem_flatMap.1 ha
  obtain ⟨kind, hkind, b, hb, hflag⟩ := Store.mem_gather.1 hflag
  refine hs b flag hflag ?_ a ha
  rw [Store.kind_of_mem_visible hb]
  exact (List.mem_cons.1 hkind).imp id List.mem_singleton.1

/-! ## Clean requests -/

/-- What the context of a request fixes apart from the compiler, together with the answers that the
thread configuration program may give when it is asked for compile flags. -/
structure Surroundings where
  ids : CompilerIds
  platform : Platform
  cProgram : Option String
  threadFlags : ThreadFlags
  configFlags : String → Prop

/-- A context with given surroundings. -/
structure Context.In (e : Surroundings) (ctx : Context σ) : Prop where
  ids : ctx.ids = e.ids
  platform : ctx.platform = e.platform
  cProgram : ctx.cProgram = e.cProgram
  threadFlags : ctx.threadFlags = e.threadFlags
  configFlags : ∀ query, ctx.threadConfig = some query → ∀ m flag,
    (query "--cflags" m).1 = some flag → e.configFlags flag

/-- In the given surroundings a request brings no argument that the compiler of a language does not
understand. -/
structure Request.Clean (e : Surroundings) (l : Language) (r : Request) : Prop where
  /-- The user's flags are spoken if they are accepted. -/
  options : r.capability = .ignoreWarning → ∀ flag ∈ Warning.userFlags r.options,
    (e.ids.dialect l).accepts flag = true → (e.ids.dialect l).Speaks flag
  /-- The user's thread flags are spoken, accepted or not. -/
  user : r.capability = .threads → ∀ flag, e.threadFlags.compile = some flag →
    (e.ids.dialect l).Speaks flag
  /-- The flags of the thread configuration program are spoken if they are accepted. -/
  config : r.capability = .threads → ∀ flag, e.configFlags flag →
    (e.ids.dialect l).accepts flag = true → (e.ids.dialect l).Speaks flag

/-- The compile flags in the tables for warnings are spoken where they are accepted. -/
lemma Warning.speaks_of_mem_table {d : Dialect} {error : Bool} {flag : String}
    (h : flag ∈ allFlags error ++ extraFlags error ++ lateDeclarationFlags error)
    (haccepts : d.accepts flag = true) : d.Speaks flag := by
  revert flag
  cases d <;> cases error <;> decide

/-- The compile flags in the table for threads are spoken by all dialects. -/
lemma Threads.speaks_of_mem_table (d : Dialect) {platform : Platform} {config : Option Candidate}
    {c : Candidate} (hc : c ∈ candidateTable platform config) (hconfig : config ≠ some c)
    {flag : String} (hflag : c.compile = some flag) : d.Speaks flag := by
  have htable : ∀ c ∈ [Candidate.ofCompile "-pthreads", .ofLink "-lpthread", .ofCompile "-mt",
      .ofCompile "-pthread", .ofLink "-lpthreads", .bare, .ofLink "-lthread",
      .ofCompile "-mthreads", .ofCompile "--thread-safe", .ofCompile "-Kthread",
      .ofCompile "-kthread"], ∀ flag ∈ c.compile, d.Speaks flag := by
    cases d <;> decide
  refine htable c ?_ flag hflag
  unfold candidateTable at hc
  simp only [List.mem_append, Option.mem_toList] at hc
  rcases hc with ((hc | hc) | hc) | hc
  · split at hc
    · simp only [List.mem_cons, List.not_mem_nil, or_false] at hc ⊢
      tauto
    · cases hc
  · simp only [List.mem_cons, List.not_mem_nil, or_false] at hc ⊢
    tauto
  · exact absurd hc hconfig
  · simp only [List.mem_cons, List.not_mem_nil, or_false] at hc ⊢
    tauto

/-- The compile flag of the candidate that the thread configuration program gives is its answer. -/
lemma Threads.configFlags_of_consultConfig {e : Surroundings} {ctx : Context σ} (hctx : ctx.In e)
    {m : σ} {c : Candidate} (hc : (consultConfig ctx m).1 = some c) {flag : String}
    (hflag : c.compile = some flag) : e.configFlags flag := by
  unfold consultConfig at hc
  split at hc
  · cases hc
  · next query hquery =>
    dsimp only [consult, configCandidate?] at hc
    split at hc
    · cases hc
    · obtain rfl := Option.some.inj hc
      have hanswer : ((query "--cflags" m).1.filter (!·.isEmpty)) = some flag := hflag
      exact hctx.configFlags query hquery m flag (Option.filter_eq_some_iff.1 hanswer).1

/-- The flags of a request for a warning come from the user or from a table. -/
lemma Request.mem_warningFlags {r : Request} {flag : String} (h : flag ∈ r.warningFlags) :
    (r.capability = .ignoreWarning ∧ flag ∈ Warning.userFlags r.options) ∨
      flag ∈ Warning.allFlags r.options.error ++ Warning.extraFlags r.options.error ++
        Warning.lateDeclarationFlags r.options.error := by
  obtain ⟨capability, options⟩ := r
  rw [List.mem_append, List.mem_append]
  cases capability with
  | warnAll => exact Or.inr (Or.inl (Or.inl h))
  | warnExtra => exact Or.inr (Or.inl (Or.inr h))
  | lateDeclarations => exact Or.inr (Or.inr h)
  | ignoreWarning => exact Or.inl ⟨rfl, h⟩
  | threads => cases h

namespace Request.Clean

variable {e : Surroundings} {l : Language} {r : Request} {ctx : Context σ} {targets : Targets}
  {profile : Profile}

/-- The warning flags of a request suit a language if the request is clean for it, or if it is not a
target. -/
lemma allowed_warning (h : l ∈ targets → r.Clean e l) (hctx : ctx.In e) :
    (Warning.search r.warningFlags targets profile r.options.error).Allowed
      ((e.ids.dialect l).Suits l) ctx.ids where
  compile := by
    intro c hc flag hflag l' hl'
    rw [Dialect.suits_compile]
    rintro rfl
    obtain ⟨hl, heligible⟩ := List.mem_filter.1 hl'
    have haccepts : (e.ids.dialect l').accepts flag = true := by
      rw [Search.eligible, hflag, hctx.ids] at heligible
      exact heligible
    obtain ⟨flag', hmem, rfl⟩ := List.mem_map.1 hc
    obtain rfl := Option.some.inj hflag
    rcases mem_warningFlags hmem with ⟨hr, huser⟩ | htable
    · exact (h hl).options hr flag' huser haccepts
    · exact Warning.speaks_of_mem_table htable haccepts
  link := fun _ _ _ _ => Dialect.suits_link _ _ _ _

/-- The thread flags of a request suit a language if the request is clean for it, or if it is not a
target. -/
lemma allowed_threads (hr : r.capability = .threads) (h : l ∈ targets → r.Clean e l)
    (hctx : ctx.In e) :
    Threads.Allowed ((e.ids.dialect l).Suits l) ctx targets profile where
  compile := by
    intro flag hflag l' hl'
    rw [Dialect.suits_compile]
    rintro rfl
    exact (h hl').user hr flag (hctx.threadFlags ▸ hflag)
  link := fun _ _ => Dialect.suits_link _ _ _ _
  table := by
    refine fun m => ⟨?_, fun _ _ _ _ => Dialect.suits_link _ _ _ _⟩
    intro c hc flag hflag l' hl'
    rw [Dialect.suits_compile]
    rintro rfl
    by_cases hconfig : (Threads.consultConfig ctx m).1 = some c
    · obtain ⟨hl, heligible⟩ := List.mem_filter.1 hl'
      have haccepts : (e.ids.dialect l').accepts flag = true := by
        rw [Search.eligible, hflag, hctx.ids] at heligible
        exact heligible
      exact (h hl).config hr flag (Threads.configFlags_of_consultConfig hctx hconfig hflag) haccepts
    · exact Threads.speaks_of_mem_table _ hc hconfig hflag
  joinable := fun _ => by
    cases e.ids.dialect l <;> decide
  platform := by
    intro flag hflag _
    have hdefinitions : ∀ flag ∈ ["-DTHREAD_SAFE", "-D_REENTRANT"],
        (e.ids.dialect l).Speaks flag := by
      cases e.ids.dialect l <;> decide
    refine hdefinitions flag ?_
    cases hplatform : ctx.platform <;> rw [hplatform] at hflag <;>
      simp_all [Threads.platformDefinition?]
  linker := Dialect.suits_link _ _ _ _

/-- A request that is clean for a language if it targets it tries and records only flags that suit
the language. -/
lemma allowed (h : ∀ targets profile, r.scope = .ok (targets, profile) → l ∈ targets → r.Clean e l)
    (hctx : ctx.In e) : r.Allowed ((e.ids.dialect l).Suits l) ctx where
  warning := fun _ targets profile hscope => allowed_warning (h targets profile hscope) hctx
  threads := fun hr targets profile hscope => allowed_threads hr (h targets profile hscope) hctx

end Request.Clean

/-! ## Requests that are not clean -/

/-- Some call shows a flag to the compiler of a language. -/
def ShownIn (calls : List Call) (l : Language) (flag : String) : Prop :=
  ∃ call ∈ calls, call.trial.language = l ∧ flag ∈ call.trial.compileFlags

/-- The trial of a candidate in a language shows what the compile bucket holds, and the compile flag
of the candidate. -/
lemma Search.mem_compileFlags_trialOf {search : Search} {s : Store} {c : Candidate} {l : Language}
    {flag : String} (h : flag ∈ s.get ⟨.compile l, search.profile⟩ ∨ c.compile = some flag) :
    flag ∈ (search.trialOf s c l).compileFlags := by
  have hvisible : (⟨.compile l, search.profile⟩ : Bucket) ∈
      Store.visible search.profile (.compile l) := by
    unfold Store.visible
    split
    · next hdefault => rw [Profile.isDefault_iff.1 hdefault]; exact List.mem_singleton_self _
    · exact List.mem_cons_of_mem _ (List.mem_singleton_self _)
  have hlink : (⟨.compile l, search.profile⟩ : Bucket) ≠ ⟨.link, search.profile⟩ := by simp
  refine Store.mem_gather.2 ⟨.compile l, List.mem_cons_of_mem _ (List.mem_singleton_self _), _,
    hvisible, ?_⟩
  rw [Store.get_record_self, OrderedSet.mem_insert?, Store.get_record_of_ne hlink]
  exact h

namespace Surroundings

variable (e : Surroundings)

/-- The context whose compiler is `once`, with a thread configuration program that knows at most one
flag. -/
def context (flag? : Option String) : Context Bool where
  compiler := once
  ids := e.ids
  platform := e.platform
  cProgram := e.cProgram
  threadFlags := e.threadFlags
  threadConfig := flag?.map fun flag option m => (if option = "--cflags" then some flag else none, m)

variable {e}

lemma context_in {flag? : Option String} (h : ∀ flag, flag? = some flag → e.configFlags flag) :
    (e.context flag?).In e where
  ids := rfl
  platform := rfl
  cProgram := rfl
  threadFlags := rfl
  configFlags := by
    intro query hquery m flag hflag
    obtain ⟨flag', hflag', rfl⟩ := Option.map_eq_some_iff.1 hquery
    obtain rfl := Option.some.inj hflag
    exact h flag' hflag'

lemma quiet_context (flag? : Option String) : Threads.Quiet (e.context flag?) := by
  intro query hquery option m
  obtain ⟨flag, _, rfl⟩ := Option.map_eq_some_iff.1 hquery
  rfl

/-- The flag that the thread configuration program knows makes a candidate. -/
lemma mem_candidateTable_context {flag : String} (h : flag ≠ "") :
    Candidate.ofCompile flag ∈ Threads.candidateTable (e.context (some flag)).platform
      (Threads.consultConfig (e.context (some flag)) false).1 := by
  have hconfig : (Threads.consultConfig (e.context (some flag)) false).1 =
      some (.ofCompile flag) := by
    have hask : Option.filter (fun s : String => !s.isEmpty) (some flag) = some flag := by
      rw [Option.filter_some, if_pos (by simpa using h)]
    show Threads.configCandidate? (Option.filter (!·.isEmpty) (some flag)) none none = _
    rw [hask]
    rfl
  rw [hconfig]
  simp [Threads.candidateTable]

end Surroundings

namespace Request

variable {e : Surroundings} {l : Language} {r : Request} {targets : Targets} {profile : Profile}
  {flag : String}

/-- A refusing compiler is shown all accepted flags of a request for a warning. -/
lemma shown_of_mem_warningFlags (hr : r.capability ≠ .threads)
    (hscope : r.scope = .ok (targets, profile)) (hl : l ∈ targets) (hflag : flag ∈ r.warningFlags)
    (haccepts : (e.ids.dialect l).accepts flag = true) :
    ShownIn (calls (e.context none) [r] (.start false .empty)) l flag := by
  let search := Warning.search r.warningFlags targets profile r.options.error
  let w : Bench (Bool × List Call) := ⟨(false, []), .empty⟩
  have hcalls : calls (e.context none) [r] (.start false .empty) =
      (search.run once.recorded e.ids w).2.memory.2 :=
    congrArg (fun w => w.memory.2) (bench_check_warning hr hscope (e.context none).recorded ⟨w, []⟩)
  obtain ⟨made, _, hmemory, htrials⟩ := search.run_spent e.ids (w := w) rfl
  have hc : Candidate.ofCompile flag ∈ search.candidates := List.mem_map_of_mem hflag
  have heligible : l ∈ search.eligibleTargets e.ids (.ofCompile flag) :=
    List.mem_filter.2 ⟨hl, haccepts⟩
  have htrial : search.trialOf .empty (.ofCompile flag) l ∈ made.map Call.trial :=
    htrials ▸ List.mem_flatMap.2 ⟨_, hc, List.mem_map_of_mem heligible⟩
  obtain ⟨call, hcall, heq⟩ := List.mem_map.1 htrial
  refine ⟨call, ?_, by rw [heq]; rfl, ?_⟩
  · rw [hcalls, hmemory]
    exact hcall
  · rw [heq]
    exact Search.mem_compileFlags_trialOf (Or.inr rfl)

/-- A refusing compiler is shown an accepted flag of the thread configuration program. -/
lemma shown_of_configFlag (hr : r.capability = .threads) (hscope : r.scope = .ok (targets, profile))
    (hl : l ∈ targets) (hne : flag ≠ "") (haccepts : (e.ids.dialect l).accepts flag = true) :
    ShownIn (calls (e.context (some flag)) [r] (.start false .empty)) l flag := by
  let ctx := e.context (some flag)
  let w : Bench (Bool × List Call) := ⟨(false, []), .empty⟩
  have hcalls : calls ctx [r] (.start false .empty) =
      (Threads.detect ctx.recorded targets profile w).2.memory.2 :=
    congrArg (fun w => w.memory.2) (bench_check_threads hr hscope ctx.recorded ⟨w, []⟩)
  obtain ⟨s, _, hshown⟩ := Threads.detect_spent targets profile (w := w) rfl
    (Surroundings.quiet_context (some flag)) rfl
  have hc := Surroundings.mem_candidateTable_context (e := e) hne
  obtain ⟨call, hcall, heq⟩ := hshown _ hc _
    (List.mem_map_of_mem (List.mem_filter.2 ⟨hl, haccepts⟩))
  refine ⟨call, hcalls ▸ hcall, by rw [heq]; rfl, ?_⟩
  rw [heq]
  exact Search.mem_compileFlags_trialOf (Or.inr rfl)

/-- A compiler that accepts the user's thread flags once and then refuses is shown them in all target
languages. -/
lemma shown_of_userFlag (hr : r.capability = .threads) (hscope : r.scope = .ok (targets, profile))
    (hl : l ∈ targets) (hflag : e.threadFlags.compile = some flag) :
    ShownIn (calls (e.context none) [r, r] (.start true .empty)) l flag := by
  let ctx := e.context none
  let w : Bench (Bool × List Call) := ⟨(true, []), .empty⟩
  let first := (r.check ctx.recorded ⟨w, []⟩).2
  have hfirst : first.bench = (Threads.detect ctx.recorded targets profile w).2 :=
    bench_check_threads hr hscope ctx.recorded ⟨w, []⟩
  have hcalls : calls ctx [r, r] (.start true .empty) =
      (Threads.detect ctx.recorded targets profile first.bench).2.memory.2 :=
    congrArg (fun w => w.memory.2) (bench_check_threads hr hscope ctx.recorded first)
  have hset : ctx.threadFlags.isSet = true := by
    show (e.threadFlags.compile.isSome || e.threadFlags.link.isSome) = true
    rw [hflag]
    rfl
  have hquiet : Threads.Quiet ctx := Surroundings.quiet_context none
  have hprimary : targets.primary?.getD .c ∈ targets.toList := primary_mem_of_scope hscope
  obtain ⟨hspent, hstay⟩ := Threads.detect_once targets profile rfl hquiet hset hprimary
    (w := w) rfl
  rw [← hfirst] at hspent hstay
  -- the flag is in the compile bucket of the language now, and stays there
  have hmem : flag ∈ first.bench.store.get ⟨.compile l, profile⟩ := by
    refine hstay (⟨.compile l, profile⟩, flag) (List.mem_append_right _ ?_)
    exact List.mem_flatMap.2 ⟨flag, Option.mem_toList.2 hflag,
      List.mem_map.2 ⟨l, hl, rfl⟩⟩
  obtain ⟨s, hkeeps, hshown⟩ := Threads.detect_spent targets profile rfl hquiet hspent
  have hc : Candidate.bare ∈ Threads.candidateTable ctx.platform
      (Threads.consultConfig ctx false).1 := by
    simp [Threads.candidateTable]
  obtain ⟨call, hcall, heq⟩ := hshown _ hc _
    (List.mem_map_of_mem (List.mem_filter.2 ⟨hl, rfl⟩))
  refine ⟨call, hcalls ▸ hcall, by rw [heq]; rfl, ?_⟩
  rw [heq]
  exact Search.mem_compileFlags_trialOf (Or.inl (hkeeps _ _ hmem))

/-- A flag that is shown to a compiler is spoken if all its arguments are accepted. -/
lemma speaks_of_shown {d : Dialect} {calls : List Call} (hshown : ShownIn calls l flag)
    (haccepts : ∀ call ∈ calls, call.trial.language = l →
      ∀ a ∈ call.trial.compileArguments, d.accepts a = true) : d.Speaks flag := by
  obtain ⟨call, hcall, hl, hflag⟩ := hshown
  exact fun a ha => haccepts call hcall hl a (List.mem_flatMap.2 ⟨flag, hflag, ha⟩)

/-! ## The exact condition -/

/-- In given surroundings, and from an empty store, no sequence of admitted requests ever shows the
compiler of a language an argument that its dialect does not accept, whatever the compilers answer,
if and only if every admitted request that targets the language is clean for it. -/
theorem calls_accepted_iff_clean (e : Surroundings) (l : Language) (admitted : Request → Prop) :
    (∀ (σ : Type) (ctx : Context σ) (m : σ) (rs : List Request), ctx.In e →
      (∀ r ∈ rs, admitted r) →
      ∀ call ∈ calls ctx rs (.start m .empty), call.trial.language = l →
        ∀ a ∈ call.trial.compileArguments, (e.ids.dialect l).accepts a = true) ↔
    ∀ r, admitted r → ∀ targets profile, r.scope = .ok (targets, profile) → l ∈ targets →
      r.Clean e l := by
  constructor
  · intro hsafe r hr targets profile hscope hl
    -- each way of bringing a flag is refuted by a compiler that is shown it
    have hspeaks {flag? : Option String} {m : Bool} {rs : List Request} {flag : String}
        (hin : (e.context flag?).In e) (hrs : ∀ r' ∈ rs, r' = r)
        (hshown : ShownIn (calls (e.context flag?) rs (.start m .empty)) l flag) :
        (e.ids.dialect l).Speaks flag :=
      speaks_of_shown hshown fun call hcall hlanguage =>
        hsafe Bool _ m rs hin (fun r' hr' => hrs r' hr' ▸ hr) call hcall hlanguage
    have hnone : (e.context none).In e := Surroundings.context_in fun _ h => nomatch h
    constructor
    · intro hcapability flag hflag haccepts
      have hne : r.capability ≠ .threads := by
        rw [hcapability]
        decide
      have hmem : flag ∈ r.warningFlags := by
        rw [warningFlags, hcapability]
        exact hflag
      exact hspeaks hnone (by simp) (shown_of_mem_warningFlags hne hscope hl hmem haccepts)
    · intro hcapability flag hflag
      exact hspeaks hnone (by simp) (shown_of_userFlag hcapability hscope hl hflag)
    · intro hcapability flag hflag haccepts
      by_cases hempty : flag = ""
      · rw [hempty]
        exact fun a ha => nomatch ha
      · refine hspeaks (Surroundings.context_in fun flag' h => ?_) (by simp)
          (shown_of_configFlag hcapability hscope hl hempty haccepts)
        exact Option.some.inj h ▸ hflag
  · rintro hclean σ ctx m rs hctx hrs call hcall rfl
    have hallowed : ∀ r ∈ rs, r.Allowed ((e.ids.dialect call.trial.language).Suits
        call.trial.language) ctx := fun r hr => Clean.allowed (hclean r (hrs r hr)) hctx
    have hwithin := answers_within hallowed (s := (Session.start m .empty).unrecorded)
      ⟨Store.within_empty, fun _ h => nomatch h⟩
    exact (hwithin.calls call hcall).accepts

/-- One entry that starts like a flag of its own dialect takes a flag of the other along. -/
example :
    (calls ⟨fun _ _ => (false, ()), ⟨some "msvc", none⟩, .linux, none, ⟨none, none⟩, none⟩
      [⟨.ignoreWarning, ⟨false, none, some (.one "c"), ["/W4 -Wall"]⟩⟩]
      (.start () .empty)).map (fun call => call.trial.compileArguments) = [["/W4", "-Wall"]] := by
  decide

end Request

end CompilerFlags
