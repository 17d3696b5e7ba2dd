import CompilerFlags.Proofs.Capability.Sequence

/-!
# Where flags come from

A request takes the flags that it tries from few places: a table of its own, its options, the thread
flags of the user, and the thread configuration program.  If whatever comes from there is allowed in
the bucket that it is meant for (`Request.Allowed`), then a store of allowed flags stays one, and
every trial is made of such a store (`Request.answers_within`).

Which flags are allowed is left open: `A b flag` may be any property of a bucket and a flag.  A flag
that is tried and taken out again must be allowed as well, because a trial sees it.
-/

namespace CompilerFlags

variable {σ : Type} {A : Bucket → String → Prop}

/-! ## Stores of allowed flags -/

namespace Store

/-- Every flag is allowed in its bucket. -/
def Within (A : Bucket → String → Prop) (s : Store) : Prop :=
  ∀ b, ∀ flag ∈ s.get b, A b flag

lemma within_empty : empty.Within A := fun _ _ h => nomatch h

variable {s t : Store}

lemma Within.of_agree (h : s.Within A) (hagree : t.AgreeOn (fun _ => True) s) : t.Within A := by
  intro b flag hflag
  rw [hagree b trivial] at hflag
  exact h b flag hflag

lemma Within.record (h : s.Within A) {b : Bucket} {flag : Option String}
    (hflag : ∀ f, flag = some f → A b f) : (s.record b flag).Within A := by
  intro c f hf
  rw [get_record] at hf
  split at hf
  · next hcb =>
    rcases OrderedSet.mem_insert?.1 hf with hf | heq
    · exact h c f (hcb ▸ hf)
    · exact hcb ▸ hflag f heq
  · exact h c f hf

lemma Within.add (h : s.Within A) {b : Bucket} {flag : String} (hflag : A b flag) :
    (s.add b flag).2.Within A := by
  have hrecord : (s.record b (some flag)).Within A :=
    h.record fun _ heq => Option.some.inj heq ▸ hflag
  exact hrecord

lemma Within.discard (h : s.Within A) (b : Bucket) (flag : String) :
    (s.discard b flag).2.Within A := by
  intro c f hf
  rw [get_discard] at hf
  split at hf
  · next hcb => exact h c f (hcb ▸ (OrderedSet.mem_erase.1 hf).2)
  · exact h c f hf

end Store

/-- A trial is made of a store of allowed flags. -/
def Trial.MadeWithin (A : Bucket → String → Prop) (t : Trial) : Prop :=
  ∃ s : Store, s.Within A ∧ ∃ l profile fragment link, t = s.trial l profile fragment link

/-- A store of allowed flags, and a record of trials that were made of such stores. -/
structure Bench.Within (A : Bucket → String → Prop) (w : Bench (σ × List Call)) : Prop where
  store : w.store.Within A
  calls : ∀ call ∈ w.memory.2, call.trial.MadeWithin A

namespace Bench.Within

variable {w : Bench (σ × List Call)}

lemma addFlag (h : w.Within A) {b : Bucket} {flag : Option String}
    (hflag : ∀ f, flag = some f → A b f) : (w.addFlag b flag).2.Within A := by
  constructor
  · rw [addFlag_store]
    exact h.store.record hflag
  · rw [addFlag_memory]
    exact h.calls

lemma builds (h : w.Within A) (compiler : Compiler σ) (l : Language) (profile : Profile)
    (fragment : String) (link : Bool) :
    (w.builds compiler.recorded l profile fragment link).2.Within A := by
  refine ⟨h.store, fun call hcall => ?_⟩
  rcases List.mem_append.1 hcall with hcall | hcall
  · exact h.calls call hcall
  · obtain rfl := List.mem_singleton.1 hcall
    exact ⟨w.store, h.store, l, profile, fragment, link, rfl⟩

end Bench.Within

/-! ## Searches -/

namespace Search

/-- The flags of all candidates are allowed where they are tried. -/
structure Allowed (A : Bucket → String → Prop) (ids : CompilerIds) (search : Search) : Prop where
  compile : ∀ c ∈ search.candidates, ∀ flag, c.compile = some flag →
    ∀ l ∈ search.eligibleTargets ids c, A ⟨.compile l, search.profile⟩ flag
  link : ∀ c ∈ search.candidates, ∀ flag, c.link = some flag → A ⟨.link, search.profile⟩ flag

/-- Every call of a course is a trial of one of the candidates. -/
lemma Course.trial_mem {ids : CompilerIds} {search : Search} {s : Store} {cs : List Candidate}
    {calls : List Call} {winner : Option (Candidate × List Call)}
    (h : Course ids search s cs calls winner) {call : Call} (hcall : call ∈ calls) :
    ∃ c ∈ cs, call.trial ∈ search.trialsOf ids s c := by
  have hmem {c : Candidate} {calls : List Call} (htrials : calls.map Call.trial =
      search.trialsOf ids s c) (hcall : call ∈ calls) : call.trial ∈ search.trialsOf ids s c :=
    htrials ▸ List.mem_map_of_mem hcall
  induction h with
  | finished => cases hcall
  | @refused c _ _ _ _ htrials _ _ ih =>
    rcases List.mem_append.1 hcall with hcall | hcall
    · exact ⟨c, List.mem_cons_self, hmem htrials hcall⟩
    · obtain ⟨c', hc', h'⟩ := ih hcall
      exact ⟨c', List.mem_cons_of_mem c hc', h'⟩
  | @accepted c _ _ htrials _ => exact ⟨c, List.mem_cons_self, hmem htrials hcall⟩

variable {ids : CompilerIds} {search : Search} {s : Store}

/-- The trials of an allowed candidate are made of a store of allowed flags. -/
lemma Allowed.madeWithin (h : search.Allowed A ids) (hs : s.Within A) {c : Candidate}
    (hc : c ∈ search.candidates) {t : Trial} (ht : t ∈ search.trialsOf ids s c) :
    t.MadeWithin A := by
  obtain ⟨l, hl, rfl⟩ := List.mem_map.1 ht
  have hlink := hs.record (b := ⟨.link, search.profile⟩) fun f heq => h.link c hc f heq
  have hcompile := hlink.record (b := ⟨.compile l, search.profile⟩)
    fun f heq => h.compile c hc f heq l hl
  exact ⟨_, hcompile, l, search.profile, search.fragment, search.link, rfl⟩

/-- The flags of an allowed candidate may be kept. -/
lemma Allowed.leave_within (h : search.Allowed A ids) (hs : s.Within A) {calls : List Call}
    {winner : Option (Candidate × List Call)}
    (hcourse : Course ids search s search.candidates calls winner) :
    (search.leave s winner).Within A := by
  cases winner with
  | none => exact hs
  | some winner =>
    obtain ⟨c, final⟩ := winner
    obtain ⟨hc, hfinal⟩ := hcourse.winner_mem
    have hlink := hs.record (b := ⟨.link, search.profile⟩) fun f heq => h.link c hc f heq
    intro b flag hflag
    rw [leave, get_keep] at hflag
    split at hflag
    · next hkept =>
      obtain ⟨call, hcall, _, rfl⟩ := hkept
      rcases OrderedSet.mem_insert?.1 hflag with hflag | heq
      · exact hlink _ flag hflag
      · have htrial : call.trial ∈ search.trialsOf ids s c := hfinal ▸ List.mem_map_of_mem hcall
        obtain ⟨l, hl, htrial⟩ := List.mem_map.1 htrial
        rw [← htrial]
        exact h.compile c hc flag heq l hl
    · exact hlink b flag hflag

/-- A search for allowed candidates tries and keeps allowed flags only. -/
lemma run_within (h : search.Allowed A ids) (compiler : Compiler σ) {w : Bench (σ × List Call)}
    (hw : w.Within A) : (search.run compiler.recorded ids w).2.Within A := by
  obtain ⟨calls, winner, hcourse, _, hmemory, hread⟩ :=
    walk_recorded compiler ids search false search.candidates w
  refine ⟨(h.leave_within hw.store hcourse).of_agree hread, fun call hcall => ?_⟩
  have hcall' : call ∈ w.memory.2 ++ calls := hmemory ▸ hcall
  rcases List.mem_append.1 hcall' with hcall | hcall
  · exact hw.calls call hcall
  · obtain ⟨c, hc, htrial⟩ := hcourse.trial_mem hcall
    exact h.madeWithin hw.store hc htrial

end Search

/-! ## Threads -/

namespace Threads

/-- The flags that a check for threads may try or record are allowed where they go. -/
structure Allowed (A : Bucket → String → Prop) (ctx : Context σ) (targets : Targets)
    (profile : Profile) : Prop where
  compile : ∀ flag, ctx.threadFlags.compile = some flag → ∀ l ∈ targets.toList,
    A ⟨.compile l, profile⟩ flag
  link : ∀ flag, ctx.threadFlags.link = some flag → A ⟨.link, profile⟩ flag
  table : ∀ m, (search (candidateTable ctx.platform (consultConfig ctx m).1) targets
    profile).Allowed A ctx.ids
  joinable : A ⟨.preprocessor, profile⟩ joinableDefinition
  platform : ∀ flag, platformDefinition? ctx.platform = some flag →
    A ⟨.preprocessor, profile⟩ flag
  linker : A ⟨.link, profile⟩ "-pthread"

lemma addEntries_within {entries : List (Bucket × String)} (hentries : ∀ e ∈ entries, A e.1 e.2)
    {s : Store} (h : s.Within A) : (addEntries entries s).2.Within A := by
  induction entries generalizing s with
  | nil => exact h
  | cons e entries ih =>
    exact ih (fun e' he' => hentries e' (List.mem_cons_of_mem e he'))
      (h.add (hentries e List.mem_cons_self))

lemma dropEntries_within (entries : List (Bucket × String)) {s : Store} (h : s.Within A) :
    (dropEntries entries s).Within A := by
  induction entries generalizing s with
  | nil => exact h
  | cons e entries ih => exact ih (h.discard e.1 e.2)

variable {ctx : Context σ} {targets : Targets} {profile : Profile} (primary : Language)
  {w : Bench (σ × List Call)}

lemma tryUserFlags_within (h : Allowed A ctx targets profile) (hw : w.Within A) :
    (tryUserFlags ctx.recorded targets profile primary w).2.Within A := by
  have hentries : ∀ e ∈ userEntries ctx.threadFlags targets profile, A e.1 e.2 := by
    intro e he
    rcases mem_userEntries he with ⟨heq, hflag⟩ | ⟨l, hl, heq, hflag⟩
    · exact heq ▸ h.link e.2 hflag
    · exact heq ▸ h.compile e.2 hflag l hl
  have hadded : Bench.Within A
      { w with store := (addEntries (userEntries ctx.threadFlags targets profile) w.store).2 } :=
    ⟨addEntries_within hentries hw.store, hw.calls⟩
  have hbuilds := hadded.builds ctx.compiler primary profile joinFragment true
  unfold tryUserFlags
  split
  · dsimp only
    split
    · exact hbuilds
    · exact ⟨dropEntries_within _ hbuilds.store, hbuilds.calls⟩
  · exact hw

lemma searchTable_within (h : Allowed A ctx targets profile) (hw : w.Within A) :
    (searchTable ctx.recorded targets profile w).2.Within A := by
  have hbench : Bench.Within A
      { w with memory := ((consultConfig ctx w.memory.1).2, w.memory.2) } := ⟨hw.store, hw.calls⟩
  unfold searchTable
  dsimp only
  rw [consultConfig_recorded]
  exact Search.run_within (h.table w.memory.1) ctx.compiler hbench

lemma adjustAttribute_within (h : Allowed A ctx targets profile) (hw : w.Within A) :
    (adjustAttribute ctx.recorded profile primary w).Within A := by
  have husual := hw.builds ctx.compiler primary profile (attributeFragment joinable) true
  have hother := husual.builds ctx.compiler primary profile (attributeFragment undetached) true
  unfold adjustAttribute
  dsimp only
  split
  · exact husual
  · split
    · exact hother.addFlag fun f heq => Option.some.inj heq ▸ h.joinable
    · exact hother

lemma adjustLink_within (h : Allowed A ctx targets profile) (hw : w.Within A) :
    (adjustLink ctx.recorded targets profile primary w).Within A := by
  have hanswer := hw.builds ctx.compiler primary profile fullFragment true
  unfold adjustLink
  split
  · dsimp only
    split
    · exact hanswer
    · exact hanswer.addFlag fun f heq => Option.some.inj heq ▸ h.linker
  · exact hw

lemma detect_within (h : Allowed A ctx targets profile) (hw : w.Within A) :
    (detect ctx.recorded targets profile w).2.Within A := by
  have huser := tryUserFlags_within (targets.primary?.getD .c) h hw
  have hfound : (findFlags ctx.recorded targets profile (targets.primary?.getD .c) w).2.Within
      A := by
    unfold findFlags
    dsimp only
    split
    · exact huser
    · exact searchTable_within h huser
  unfold detect
  dsimp only
  split
  · have hattribute := adjustAttribute_within (targets.primary?.getD .c) h hfound
    exact adjustLink_within (targets.primary?.getD .c) h (hattribute.addFlag h.platform)
  · exact hfound

end Threads

/-! ## Requests -/

namespace Request

/-- The flags that a request may try or record are allowed where they go. -/
structure Allowed (A : Bucket → String → Prop) (ctx : Context σ) (r : Request) : Prop where
  warning : r.capability ≠ .threads → ∀ targets profile, r.scope = .ok (targets, profile) →
    (Warning.search r.warningFlags targets profile r.options.error).Allowed A ctx.ids
  threads : r.capability = .threads → ∀ targets profile, r.scope = .ok (targets, profile) →
    Threads.Allowed A ctx targets profile

/-- A request whose flags are allowed tries and records allowed flags only. -/
lemma check_within {ctx : Context σ} {r : Request} (h : r.Allowed A ctx)
    {s : Session (σ × List Call)} (hs : s.bench.Within A) :
    (r.check ctx.recorded s).2.bench.Within A := by
  cases hscope : r.scope with
  | error cause =>
    rw [session_check_of_error hscope]
    exact hs
  | ok found =>
    obtain ⟨targets, profile⟩ := found
    by_cases hr : r.capability = .threads
    · rw [bench_check_threads hr hscope]
      exact Threads.detect_within (h.threads hr targets profile hscope) hs
    · rw [bench_check_warning hr hscope]
      exact Search.run_within (h.warning hr targets profile hscope) ctx.compiler hs

/-- Requests whose flags are allowed try and record allowed flags only. -/
theorem answers_within {ctx : Context σ} {rs : List Request} (h : ∀ r ∈ rs, r.Allowed A ctx)
    {s : Session (σ × List Call)} (hs : s.bench.Within A) :
    (answers ctx.recorded rs s).2.bench.Within A := by
  induction rs generalizing s with
  | nil => exact hs
  | cons r rs ih =>
    exact ih (fun r' hr' => h r' (List.mem_cons_of_mem r hr'))
      (check_within (h r List.mem_cons_self) hs)

end Request

end CompilerFlags
