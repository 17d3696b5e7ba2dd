import CompilerFlags.Proofs.Capability.Sequence
import CompilerFlags.Proofs.Capability.Unavailable
import CompilerFlags.Proofs.Search.Fixed

/-!
# What the platform adds to thread flags

Once flags for threads are found, the check looks at the platform.  Each of its steps changes the
store that the next one sees; but if the compiler answers as a function of the trial says, then the
store that the flags were found in decides everything that comes.

This module computes the second phase in closed form: `Threads.attributeDefinition?` and
`Threads.linkerFlag?` are the flags that depend on trials, `Threads.defined` is the store between
the two, and `Threads.adjustCalls` are all the calls.  `Request.check_threads_adjusts` spells out
what this means for a request.
-/

namespace CompilerFlags

variable {σ : Type} {compiler : Compiler σ} {accepts : Trial → Bool}

/-! ## Single trials -/

/-- Keeping a record changes no answer. -/
lemma Compiler.Answers.recorded (h : compiler.Answers accepts) :
    compiler.recorded.Answers accepts :=
  fun t m => h t m.1

/-- The call that a trial becomes if the function answers it. -/
def Trial.call (accepts : Trial → Bool) (t : Trial) : Call := ⟨t, accepts t⟩

/-- The record of one trial. -/
lemma Bench.calls_builds (h : compiler.Answers accepts) (l : Language) (profile : Profile)
    (fragment : String) (link : Bool) (w : Bench (σ × List Call)) :
    (w.builds compiler.recorded l profile fragment link).2.memory.2 =
      w.memory.2 ++ [(w.store.trial l profile fragment link).call accepts] := by
  have hanswer := h (w.store.trial l profile fragment link) w.memory.1
  unfold builds Compiler.recorded Trial.call
  dsimp only
  rw [hanswer]

namespace Threads

/-! ## The closed form -/

section

variable (accepts : Trial → Bool) (platform : Platform) (targets : Targets) (profile : Profile)
  (primary : Language) (s : Store)

/-- The trial that links a program of the primary language with all flags of a store. -/
def linkTrial (fragment : String) : Trial := s.trial primary profile fragment true

/-- The calls for the attribute of joinable threads; the other spelling is tried only if the usual
one is not known. -/
def attributeCalls : List Call :=
  let usual := linkTrial profile primary s (attributeFragment joinable)
  let other := linkTrial profile primary s (attributeFragment undetached)
  if accepts usual then [usual.call accepts] else [usual.call accepts, other.call accepts]

/-- The definition that is needed if only the other spelling is known. -/
def attributeDefinition? : Option String :=
  if accepts (linkTrial profile primary s (attributeFragment joinable)) = false ∧
      accepts (linkTrial profile primary s (attributeFragment undetached)) = true then
    some joinableDefinition
  else none

/-- The store with both definitions for the preprocessor. -/
def defined : Store :=
  (s.record ⟨.preprocessor, profile⟩ (attributeDefinition? accepts profile primary s)).record
    ⟨.preprocessor, profile⟩ (platformDefinition? platform)

/-- The call that asks whether the linker needs `-pthread`, if there is reason to ask. -/
def linkerCalls : List Call :=
  if lacksLinkFlag targets profile s then [(linkTrial profile primary s fullFragment).call accepts]
  else []

/-- The flag that the linker needs. -/
def linkerFlag? : Option String :=
  if lacksLinkFlag targets profile s = true ∧
      accepts (linkTrial profile primary s fullFragment) = false then
    some "-pthread"
  else none

/-- The calls of the second phase. -/
def adjustCalls : List Call :=
  attributeCalls accepts profile primary s ++
    linkerCalls accepts targets profile primary (defined accepts platform profile primary s)

end

/-! ## The second phase -/

section

variable {ctx : Context σ} {targets : Targets} {profile : Profile} {primary : Language}

lemma adjustAttribute_store (h : ctx.compiler.Answers accepts) (w : Bench σ) :
    (adjustAttribute ctx profile primary w).store =
      w.store.record ⟨.preprocessor, profile⟩
        (attributeDefinition? accepts profile primary w.store) := by
  have hanswer (fragment : String) (m : σ) :
      (ctx.compiler (w.store.trial primary profile fragment true) m).1 =
        accepts (linkTrial profile primary w.store fragment) := h _ m
  unfold adjustAttribute attributeDefinition? Bench.builds
  dsimp only
  rw [hanswer, hanswer]
  cases husual : accepts (linkTrial profile primary w.store (attributeFragment joinable)) with
  | true => rfl
  | false =>
    cases hother : accepts (linkTrial profile primary w.store (attributeFragment undetached)) with
    | true => rfl
    | false => rfl

lemma adjustAttribute_calls (h : ctx.compiler.Answers accepts) (w : Bench (σ × List Call)) :
    (adjustAttribute ctx.recorded profile primary w).memory.2 =
      w.memory.2 ++ attributeCalls accepts profile primary w.store := by
  have hanswer (fragment : String) (v : Bench (σ × List Call)) :
      (v.builds ctx.recorded.compiler primary profile fragment true).1 =
        accepts (linkTrial profile primary v.store fragment) := h _ v.memory.1
  have hcalls (fragment : String) (v : Bench (σ × List Call)) :
      (v.builds ctx.recorded.compiler primary profile fragment true).2.memory.2 =
        v.memory.2 ++ [(linkTrial profile primary v.store fragment).call accepts] :=
    Bench.calls_builds h primary profile fragment true v
  have hstore (fragment : String) (v : Bench (σ × List Call)) :
      (v.builds ctx.recorded.compiler primary profile fragment true).2.store = v.store := rfl
  unfold adjustAttribute attributeCalls
  dsimp only
  rw [hanswer]
  split
  · exact hcalls _ w
  · split
    · rw [Bench.addFlag_memory, hcalls, hcalls, hstore, List.append_assoc]
      rfl
    · rw [hcalls, hcalls, hstore, List.append_assoc]
      rfl

lemma adjustLink_store (h : ctx.compiler.Answers accepts) (w : Bench σ) :
    (adjustLink ctx targets profile primary w).store =
      w.store.record ⟨.link, profile⟩ (linkerFlag? accepts targets profile primary w.store) := by
  have hanswer : (w.builds ctx.compiler primary profile fullFragment true).1 =
      accepts (linkTrial profile primary w.store fullFragment) := h _ w.memory
  unfold adjustLink linkerFlag?
  dsimp only
  rw [hanswer]
  cases lacksLinkFlag targets profile w.store with
  | false => rfl
  | true =>
    cases accepts (linkTrial profile primary w.store fullFragment) with
    | true => rfl
    | false => rfl

lemma adjustLink_calls (h : ctx.compiler.Answers accepts) (w : Bench (σ × List Call)) :
    (adjustLink ctx.recorded targets profile primary w).memory.2 =
      w.memory.2 ++ linkerCalls accepts targets profile primary w.store := by
  have hcalls : (w.builds ctx.recorded.compiler primary profile fullFragment true).2.memory.2 =
      w.memory.2 ++ [(linkTrial profile primary w.store fullFragment).call accepts] :=
    Bench.calls_builds h primary profile fullFragment true w
  unfold adjustLink linkerCalls
  split
  · dsimp only
    split
    · exact hcalls
    · rw [Bench.addFlag_memory]
      exact hcalls
  · exact (List.append_nil _).symm

/-- The store after the second phase. -/
lemma adjust_store (h : ctx.compiler.Answers accepts) (w : Bench σ) :
    (adjust ctx targets profile primary w).2.store =
      (defined accepts ctx.platform profile primary w.store).record ⟨.link, profile⟩
        (linkerFlag? accepts targets profile primary
          (defined accepts ctx.platform profile primary w.store)) := by
  unfold adjust
  dsimp only
  rw [adjustLink_store h, Bench.addFlag_store, adjustAttribute_store h]
  rfl

/-- The calls of the second phase. -/
lemma adjust_calls (h : ctx.compiler.Answers accepts) (w : Bench (σ × List Call)) :
    (adjust ctx.recorded targets profile primary w).2.memory.2 =
      w.memory.2 ++ adjustCalls accepts ctx.platform targets profile primary w.store := by
  have hstore : (adjustAttribute ctx.recorded profile primary w).store =
      w.store.record ⟨.preprocessor, profile⟩
        (attributeDefinition? accepts profile primary w.store) :=
    adjustAttribute_store h.recorded w
  unfold adjust
  dsimp only
  rw [adjustLink_calls h, Bench.addFlag_memory, Bench.addFlag_store, adjustAttribute_calls h,
    hstore, List.append_assoc]
  rfl

end

/-! ## What is read afterwards -/

/-- The systems that need a definition for threads. -/
lemma platformDefinition?_eq (platform : Platform) :
    platformDefinition? platform =
      if platform ∈ [Platform.aix, .freeBsd, .darwin] then some "-DTHREAD_SAFE"
      else if platform ∈ [Platform.sunOs, .hpUx] then some "-D_REENTRANT"
      else none := by
  cases platform with
  | other name => simp [platformDefinition?]
  | _ => rfl

section

variable {ctx : Context σ} {targets : Targets} {profile : Profile} {primary : Language}

lemma lacksLinkFlag_iff {s : Store} :
    lacksLinkFlag targets profile s = true ↔
      (∃ l ∈ targets, "-pthread" ∈ s.get ⟨.compile l, profile⟩) ∧
        "-pthread" ∉ s.get ⟨.link, profile⟩ := by
  simp [lacksLinkFlag, Store.contains]

lemma get_defined_of_ne {platform : Platform} {s : Store} {b : Bucket}
    (hb : b ≠ ⟨.preprocessor, profile⟩) :
    (defined accepts platform profile primary s).get b = s.get b := by
  rw [defined, Store.get_record_of_ne hb, Store.get_record_of_ne hb]

/-- The definitions are seen by the trial for the linker, but they do not matter for the question
whether there is reason to ask. -/
lemma lacksLinkFlag_defined {platform : Platform} {s : Store} :
    lacksLinkFlag targets profile (defined accepts platform profile primary s) =
      lacksLinkFlag targets profile s := by
  have hlink : (⟨.link, profile⟩ : Bucket) ≠ ⟨.preprocessor, profile⟩ := by simp
  have hcompile (l : Language) : (⟨.compile l, profile⟩ : Bucket) ≠ ⟨.preprocessor, profile⟩ := by
    simp
  rw [Bool.eq_iff_iff, lacksLinkFlag_iff, lacksLinkFlag_iff, get_defined_of_ne hlink]
  refine and_congr_left fun _ => exists_congr fun l => and_congr_right fun _ => ?_
  rw [get_defined_of_ne (hcompile l)]

lemma linkerFlag?_eq_some_iff {s : Store} :
    linkerFlag? accepts targets profile primary s = some "-pthread" ↔
      lacksLinkFlag targets profile s = true ∧
        accepts (linkTrial profile primary s fullFragment) = false := by
  unfold linkerFlag?
  split
  · next hneeded => exact iff_of_true rfl hneeded
  · next hneeded => exact iff_of_false (by simp) hneeded

/-- The linker gets `-pthread` or nothing. -/
lemma linkerFlag?_eq_none {s : Store}
    (h : linkerFlag? accepts targets profile primary s ≠ some "-pthread") :
    linkerFlag? accepts targets profile primary s = none := by
  unfold linkerFlag?
  exact if_neg (mt linkerFlag?_eq_some_iff.2 h)

/-- Both definitions go to the bucket of the preprocessor. -/
lemma get_adjust_preprocessor (h : ctx.compiler.Answers accepts) (w : Bench σ) :
    ((adjust ctx targets profile primary w).2.store.get ⟨.preprocessor, profile⟩).toList =
      appendNew (appendNew (w.store.get ⟨.preprocessor, profile⟩).toList
        (attributeDefinition? accepts profile primary w.store))
        (platformDefinition? ctx.platform) := by
  have hlink : (⟨.preprocessor, profile⟩ : Bucket) ≠ ⟨.link, profile⟩ := by simp
  rw [adjust_store h, Store.get_record_of_ne hlink, defined, Store.get_record_self,
    Store.get_record_self, OrderedSet.toList_insert?, OrderedSet.toList_insert?]

/-- At most `-pthread` goes to the bucket of the linker. -/
lemma get_adjust_link (h : ctx.compiler.Answers accepts) (w : Bench σ) :
    ((adjust ctx targets profile primary w).2.store.get ⟨.link, profile⟩).toList =
      appendNew (w.store.get ⟨.link, profile⟩).toList
        (linkerFlag? accepts targets profile primary
          (defined accepts ctx.platform profile primary w.store)) := by
  have hpreprocessor : (⟨.link, profile⟩ : Bucket) ≠ ⟨.preprocessor, profile⟩ := by simp
  rw [adjust_store h, Store.get_record_self, OrderedSet.toList_insert?,
    get_defined_of_ne hpreprocessor]

/-- All other buckets read as before. -/
lemma get_adjust_of_ne (h : ctx.compiler.Answers accepts) (w : Bench σ) {b : Bucket}
    (hpreprocessor : b ≠ ⟨.preprocessor, profile⟩) (hlink : b ≠ ⟨.link, profile⟩) :
    (adjust ctx targets profile primary w).2.store.get b = w.store.get b := by
  rw [adjust_store h, Store.get_record_of_ne hlink, get_defined_of_ne hpreprocessor]

end

lemma compilerIsSafe_eq_false_iff_forall {platform : Platform} {program : Option String} :
    compilerIsSafe platform program = false ↔
      platform = .aix ∧ ∀ p, program = some p → p ∉ ["gcc", "xlc_r", "cc_r"] := by
  rw [compilerIsSafe_eq_false_iff]
  refine and_congr_right fun _ => ?_
  cases program with
  | none => decide
  | some p => simp [aixCompilers]

end Threads

/-! ## Requests -/

namespace Request

/-- A request for threads that has found flags does the second phase on them. -/
lemma check_of_findFlags {ctx : Context σ} {r : Request} (hr : r.capability = .threads)
    {targets : Targets} {profile : Profile} (hscope : r.scope = .ok (targets, profile))
    {primary : Language} (hprimary : targets.primary? = some primary) {s : Session σ}
    {found : Bench σ}
    (hfound : Threads.findFlags ctx targets profile primary s.bench = (true, found)) :
    (r.check ctx s).1 =
        .ok (if Threads.compilerIsSafe ctx.platform ctx.cProgram then .yes else .no) ∧
      (r.check ctx s).2.bench = (Threads.adjust ctx targets profile primary found).2 := by
  have hdetect : Threads.detect ctx targets profile s.bench =
      Threads.adjust ctx targets profile primary found :=
    Threads.detect_of_findFlags (by rw [hprimary, Option.getD_some]) hfound
  rw [status_check_threads hr hscope, bench_check_threads hr hscope, hdetect]
  exact ⟨rfl, rfl⟩

/-- **What the platform adds.**  Once flags for threads are found, the buckets of the preprocessor
and of the linker get what the platform needs, everything else stays as it is, and the status is
`no` exactly if the C compiler of an AIX system is not one that builds thread-safe programs. -/
theorem check_threads_adjusts {ctx : Context σ} (hcompiler : ctx.compiler.Answers accepts)
    {r : Request} (hr : r.capability = .threads) {targets : Targets} {profile : Profile}
    (hscope : r.scope = .ok (targets, profile)) {primary : Language}
    (hprimary : targets.primary? = some primary) {s : Session σ} {found : Bench σ}
    (hfound : Threads.findFlags ctx targets profile primary s.bench = (true, found)) :
    let flags := fun (t : Store) kind => (t.get ⟨kind, profile⟩).toList
    let links := fun (t : Store) fragment => accepts (t.trial primary profile fragment true)
    let after := (r.check ctx s).2.bench.store
    let spelling? : Option String :=
      if links found.store (Threads.attributeFragment "PTHREAD_CREATE_JOINABLE") = false ∧
          links found.store (Threads.attributeFragment "PTHREAD_CREATE_UNDETACHED") = true then
        some "-DPTHREAD_CREATE_JOINABLE=PTHREAD_CREATE_UNDETACHED"
      else none
    let system? : Option String :=
      if ctx.platform ∈ [Platform.aix, .freeBsd, .darwin] then some "-DTHREAD_SAFE"
      else if ctx.platform ∈ [Platform.sunOs, .hpUx] then some "-D_REENTRANT"
      else none
    -- the store that the last trial sees
    let defined := (found.store.record ⟨.preprocessor, profile⟩ spelling?).record
      ⟨.preprocessor, profile⟩ system?
    let needsLinkFlag := (∃ l ∈ targets, "-pthread" ∈ flags found.store (.compile l)) ∧
      "-pthread" ∉ flags found.store .link ∧ links defined Threads.fullFragment = false
    flags after .preprocessor =
        appendNew (appendNew (flags found.store .preprocessor) spelling?) system? ∧
      (needsLinkFlag → flags after .link = flags found.store .link ++ ["-pthread"]) ∧
      (¬needsLinkFlag → flags after .link = flags found.store .link) ∧
      (∀ b, b ≠ ⟨.preprocessor, profile⟩ → b ≠ ⟨.link, profile⟩ →
        after.get b = found.store.get b) ∧
      ((r.check ctx s).1 = .ok .yes ∨ (r.check ctx s).1 = .ok .no) ∧
      ((r.check ctx s).1 = .ok .no ↔ ctx.platform = .aix ∧
        ∀ program, ctx.cProgram = some program → program ∉ ["gcc", "xlc_r", "cc_r"]) := by
  intro flags links after spelling? system? defined needsLinkFlag
  obtain ⟨hstatus, hbench⟩ := check_of_findFlags hr hscope hprimary hfound
  have hafter : after = (Threads.adjust ctx targets profile primary found).2.store :=
    congrArg Bench.store hbench
  have hsystem : Threads.platformDefinition? ctx.platform = system? :=
    Threads.platformDefinition?_eq ctx.platform
  have hdefined : Threads.defined accepts ctx.platform profile primary found.store = defined := by
    rw [Threads.defined, hsystem]
    rfl
  have hlink : flags after .link = appendNew (flags found.store .link)
      (Threads.linkerFlag? accepts targets profile primary defined) := by
    rw [hafter, ← hdefined]
    exact Threads.get_adjust_link hcompiler found
  have hlinker : Threads.linkerFlag? accepts targets profile primary defined = some "-pthread" ↔
      needsLinkFlag := by
    rw [← hdefined, Threads.linkerFlag?_eq_some_iff, Threads.lacksLinkFlag_defined,
      Threads.lacksLinkFlag_iff, and_assoc, hdefined]
    rfl
  refine ⟨?_, ?_, ?_, ?_, ?_, ?_⟩
  · rw [hafter, ← hsystem]
    exact Threads.get_adjust_preprocessor hcompiler found
  · intro hlacks
    rw [hlink, hlinker.2 hlacks, appendNew, if_neg hlacks.2.1]
  · intro hlacks
    rw [hlink, Threads.linkerFlag?_eq_none (mt hlinker.1 hlacks), appendNew]
  · intro b hpreprocessor hother
    rw [hafter]
    exact Threads.get_adjust_of_ne hcompiler found hpreprocessor hother
  · rw [hstatus]
    split
    · exact Or.inl rfl
    · exact Or.inr rfl
  · rw [hstatus, ← Threads.compilerIsSafe_eq_false_iff_forall]
    cases Threads.compilerIsSafe ctx.platform ctx.cProgram with
    | true => decide
    | false => decide

/-- On FreeBSD, the program links in C++ only, where `-pthread` is recorded already, and only the
other spelling of the attribute is known.  The macro of the system is there from before. -/
theorem check_threads_adjusts_on_freeBsd :
    let accepts : Trial → Bool := fun t =>
      t.fragment ≠ Threads.attributeFragment "PTHREAD_CREATE_JOINABLE" ∧
        (t.fragment = Threads.fullFragment → t.language = .cpp)
    let ctx : Context Nat :=
      ⟨fun t m => (accepts t, m + 1), .none, .freeBsd, some "cc", ⟨none, none⟩, none⟩
    let r : Request := ⟨.threads, .default⟩
    let profile : Profile := ⟨"pthread", by decide⟩
    let s : Session Nat := .start 0 ((Store.empty.record ⟨.preprocessor, profile⟩
      (some "-DTHREAD_SAFE")).record ⟨.compile .cpp, profile⟩ (some "-pthread"))
    let found := Threads.findFlags ctx .both profile .c s.bench
    let flags := fun (t : Store) kind => (t.get ⟨kind, profile⟩).toList
    let after := (r.check ctx s).2.bench.store
    ctx.compiler.Answers accepts ∧ r.scope = .ok (.both, profile) ∧ found.1 = true ∧
      flags found.2.store .preprocessor = ["-DTHREAD_SAFE"] ∧
      flags after .preprocessor =
        ["-DTHREAD_SAFE", "-DPTHREAD_CREATE_JOINABLE=PTHREAD_CREATE_UNDETACHED"] ∧
      flags found.2.store .link = ["-lpthreads"] ∧ flags after .link = ["-lpthreads", "-pthread"] ∧
      after.get ⟨.compile .cpp, profile⟩ = found.2.store.get ⟨.compile .cpp, profile⟩ ∧
      (r.check ctx s).1 ≠ .ok .no := by
  intro accepts ctx r profile s found flags after
  have hcompiler : ctx.compiler.Answers accepts := fun _ _ => rfl
  have hscope : r.scope = .ok (.both, profile) := by decide
  have hsuccess : found.1 = true := by decide +kernel
  have hstore : found.2.store = s.bench.store.record ⟨.link, profile⟩ (some "-lpthreads") := by
    decide +kernel
  have hpair (x : Bool × Bench Nat) (h : x.1 = true) : x = (true, x.2) := Prod.ext h rfl
  obtain ⟨hpreprocessor, hlink, _, hother, _, hstatus⟩ :=
    check_threads_adjusts hcompiler (r := r) rfl hscope rfl (s := s) (hpair found hsuccess)
  have hreason : "-pthread" ∈ flags found.2.store (.compile .cpp) := by
    rw [hstore]
    decide
  have hbefore : flags found.2.store .link = ["-lpthreads"] := by
    rw [hstore]
    decide
  have habsent : "-pthread" ∉ flags found.2.store .link := by
    rw [hbefore]
    decide
  refine ⟨hcompiler, hscope, hsuccess, ?_, hpreprocessor.trans ?_, hbefore, ?_, ?_, ?_⟩
  · rw [hstore]
    decide
  · rw [hstore]
    decide +kernel
  · refine (hlink ⟨⟨.cpp, by decide, hreason⟩, habsent, ?_⟩).trans ?_
    · rw [hstore]
      decide +kernel
    · exact congrArg (· ++ ["-pthread"]) hbefore
  · exact hother ⟨.compile .cpp, profile⟩ (by decide) (by decide)
  · rw [Ne, hstatus]
    rintro ⟨hplatform, _⟩
    cases hplatform

/-- It is not true that the status is `no` only if an AIX system has no C compiler: the compiler
`xlc` gets it as well. -/
theorem not_forall_threads_no_iff_no_program :
    ¬∀ (ctx : Context Unit) (accepts : Trial → Bool), ctx.compiler.Answers accepts →
      ∀ (r : Request) (targets : Targets) (profile : Profile) (primary : Language),
      r.capability = .threads → r.scope = .ok (targets, profile) →
      targets.primary? = some primary → ∀ (s : Session Unit) (found : Bench Unit),
      Threads.findFlags ctx targets profile primary s.bench = (true, found) →
      ((r.check ctx s).1 = .ok .no ↔ ctx.platform = .aix ∧ ctx.cProgram = none) := by
  intro h
  let ctx : Context Unit := ⟨fun _ m => (true, m), .none, .aix, some "xlc", ⟨none, none⟩, none⟩
  let profile : Profile := ⟨"pthread", by decide⟩
  have hno := h ctx (fun _ => true) (fun _ _ => rfl) ⟨.threads, .default⟩ .both profile .c rfl
    (by decide) rfl (.start () .empty) _ rfl
  exact absurd (hno.1 (by decide)).2 (by decide)

end Request

end CompilerFlags
