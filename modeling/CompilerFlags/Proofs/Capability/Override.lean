import CompilerFlags.Proofs.Capability.Adjustment

/-!
# Thread flags that the user sets

The check for threads tries the flags of the user first.  If the small program links with them they
stay, and the table of candidates is not looked at.  If not, they are taken out again, and from then
on the check cannot be told apart from one for a user who sets no flags: its store reads the same
(`tryUserFlags_store`), and its calls are the same but for the one that failed.

The comparison is between two whole runs with records.  The record of the one run is that of the
other one with the failed call in front (`Preceded`), from the search of the table on to the end.
-/

namespace CompilerFlags

variable {σ : Type} {accepts : Trial → Bool}

/-- The store with the thread flags of a user: the link flag is recorded once, the compile flag for
each target language. -/
def Store.withThreadFlags (s : Store) (flags : ThreadFlags) (targets : Targets)
    (profile : Profile) : Store :=
  targets.toList.foldl (fun s l => s.record ⟨.compile l, profile⟩ flags.compile)
    (s.record ⟨.link, profile⟩ flags.link)

/-- The same context for a user who sets no thread flags. -/
def Context.withoutThreadFlags (ctx : Context σ) : Context σ :=
  { ctx with threadFlags := ⟨none, none⟩ }

/-- The first record is the second one with a call in front. -/
def Preceded (first : Call) (m n : σ × List Call) : Prop := m.2 = first :: n.2

/-- Records that differ by one call in front stay so with a compiler that does not learn. -/
lemma Compiler.Answers.recorded_alike {compiler : Compiler σ} (h : compiler.Answers accepts)
    (first : Call) : compiler.recorded.Alike (Preceded first) compiler.recorded := by
  intro t m n hrecord
  have hrecord' : m.2 = first :: n.2 := hrecord
  have hanswer : (compiler t m.1).1 = (compiler t n.1).1 := (h t m.1).trans (h t n.1).symm
  refine ⟨hanswer, ?_⟩
  show m.2 ++ [⟨t, (compiler t m.1).1⟩] = first :: (n.2 ++ [⟨t, (compiler t n.1).1⟩])
  rw [hrecord', hanswer]
  rfl

namespace Threads

/-- A trial changes nothing about what the thread configuration program says.  The compiler and that
program are two programs, and only a common memory could connect them. -/
def KeepsConfig (ctx : Context σ) : Prop :=
  ∀ t m, (consultConfig ctx (ctx.compiler t m).2).1 = (consultConfig ctx m).1

/-- The trial of the user's thread flags. -/
def userTrial (flags : ThreadFlags) (targets : Targets) (profile : Profile) (primary : Language)
    (s : Store) : Trial :=
  linkTrial profile primary (s.withThreadFlags flags targets profile) joinFragment

/-! ## Trying the user's flags -/

section

variable {ctx : Context σ} {targets : Targets} {profile : Profile} {primary : Language}

lemma addEntries_store (entries : List (Bucket × String)) (s : Store) :
    (addEntries entries s).2 = entries.foldl (fun s e => (s.add e.1 e.2).2) s := by
  induction entries generalizing s with
  | nil => rfl
  | cons e entries ih => exact ih (s.add e.1 e.2).2

/-- The entries of the user are added to the store as they belong. -/
lemma addEntries_userEntries (flags : ThreadFlags) (targets : Targets) (profile : Profile)
    (s : Store) :
    (addEntries (userEntries flags targets profile) s).2 =
      s.withThreadFlags flags targets profile := by
  obtain ⟨compile, link⟩ := flags
  have hlink : (link.toList.map fun flag => ((⟨.link, profile⟩ : Bucket), flag)).foldl
      (fun s e => (s.add e.1 e.2).2) s = s.record ⟨.link, profile⟩ link := by
    cases link with
    | none => rfl
    | some flag => rfl
  rw [addEntries_store, userEntries, List.foldl_append, hlink, Store.withThreadFlags]
  cases compile with
  | none => exact (List.foldl_fixed _).symm
  | some flag =>
    rw [Option.toList_some, List.flatMap_singleton, List.foldl_map]
    rfl

/-- The user's flags are tried with one call.  If it succeeds they are recorded, and if not, the
store reads as before. -/
lemma tryUserFlags_of_isSet (h : ctx.compiler.Answers accepts)
    (hset : ctx.threadFlags.isSet = true) (w : Bench (σ × List Call)) :
    let trial := userTrial ctx.threadFlags targets profile primary w.store
    let user := tryUserFlags ctx.recorded targets profile primary w
    user.1 = accepts trial ∧
      user.2.memory = ((ctx.compiler trial w.memory.1).2, w.memory.2 ++ [trial.call accepts]) ∧
      (accepts trial = true →
        user.2.store = w.store.withThreadFlags ctx.threadFlags targets profile) ∧
      (accepts trial = false → w.store.AgreeOn (fun _ => True) user.2.store) := by
  intro trial user
  have hset' : ctx.recorded.threadFlags.isSet = true := hset
  have htrial : (addEntries (userEntries ctx.recorded.threadFlags targets profile)
      w.store).2.trial primary profile joinFragment true = trial := by
    rw [addEntries_userEntries]
    rfl
  have hanswer : (ctx.recorded.compiler trial w.memory).1 = accepts trial := h trial w.memory.1
  have hmemory : (ctx.recorded.compiler trial w.memory).2 =
      ((ctx.compiler trial w.memory.1).2, w.memory.2 ++ [trial.call accepts]) := by
    show (_, w.memory.2 ++ [⟨trial, (ctx.compiler trial w.memory.1).1⟩]) = _
    rw [h trial w.memory.1]
    rfl
  have huser : user.1 = accepts trial ∧
      user.2.memory = (ctx.recorded.compiler trial w.memory).2 := by
    show (tryUserFlags ctx.recorded targets profile primary w).1 = _ ∧
      (tryUserFlags ctx.recorded targets profile primary w).2.memory = _
    unfold tryUserFlags Bench.builds
    rw [if_pos hset']
    dsimp only
    rw [htrial, hanswer]
    cases accepts trial with
    | true => exact ⟨rfl, rfl⟩
    | false => exact ⟨rfl, rfl⟩
  refine ⟨huser.1, huser.2.trans hmemory, ?_, ?_⟩
  · intro hlinks
    rcases tryUserFlags_store ctx.recorded targets profile primary w with ⟨_, hstore⟩ | ⟨hfail, _⟩
    · exact hstore.trans (addEntries_userEntries _ _ _ _)
    · exact absurd (huser.1.trans hlinks) (Bool.eq_false_iff.1 hfail)
  · intro hfails
    rcases tryUserFlags_store ctx.recorded targets profile primary w with ⟨hlink, _⟩ | ⟨_, hread⟩
    · exact absurd hlink (Bool.eq_false_iff.1 (huser.1.trans hfails))
    · exact hread

/-! ## Flags that link -/

lemma mem_userEntries_link {flags : ThreadFlags} {flag : String} (h : flags.link = some flag) :
    ((⟨.link, profile⟩ : Bucket), flag) ∈ userEntries flags targets profile := by
  unfold userEntries
  rw [h]
  exact List.mem_append_left _ (List.mem_singleton.2 rfl)

lemma mem_userEntries_compile {flags : ThreadFlags} {flag : String}
    (h : flags.compile = some flag) {l : Language} (hl : l ∈ targets) :
    ((⟨.compile l, profile⟩ : Bucket), flag) ∈ userEntries flags targets profile := by
  unfold userEntries
  rw [h, Option.toList_some, List.flatMap_singleton]
  exact List.mem_append_right _ (List.mem_map_of_mem hl)

/-- The user's flags are tried with another program than the table of candidates. -/
lemma joinFragment_ne_fullFragment : joinFragment ≠ fullFragment := by decide

/-- The attribute of joinable threads is tried with other programs than the table of candidates. -/
lemma fragment_of_mem_attributeCalls {s : Store} {call : Call}
    (h : call ∈ attributeCalls accepts profile primary s) : call.trial.fragment ≠ fullFragment := by
  have husual : attributeFragment joinable ≠ fullFragment := by decide
  have hother : attributeFragment undetached ≠ fullFragment := by decide
  unfold attributeCalls at h
  dsimp only at h
  split at h
  · obtain rfl := List.mem_singleton.1 h
    exact husual
  · rcases List.mem_cons.1 h with rfl | h
    · exact husual
    · obtain rfl := List.mem_singleton.1 h
      exact hother

/-! ## Flags that do not link -/

/-- A call more in the record makes no difference to the second phase, which reads neither the
user's flags nor the thread configuration program. -/
lemma adjust_alike_of_answers (h : ctx.compiler.Answers accepts) (hmem : primary ∈ targets.toList)
    {first : Call} {w v : Bench (σ × List Call)}
    (hw : w.Alike (Preceded first) (fun _ => True) v) :
    Bench.SameAnswer (Preceded first) (fun _ => True)
      (adjust ctx.recorded targets profile primary w)
      (adjust ctx.withoutThreadFlags.recorded targets profile primary v) := by
  let silent : Context (σ × List Call) :=
    { ctx.recorded with threadFlags := ⟨none, none⟩, threadConfig := none }
  have hsilent : silent.Alike (Preceded first) silent :=
    ⟨h.recorded_alike first, rfl, rfl, rfl, rfl, .none⟩
  show Bench.SameAnswer _ _ (adjust silent targets profile primary w)
    (adjust silent targets profile primary v)
  exact adjust_alike hsilent (fun _ _ _ _ => trivial) hmem hw

/-- After flags that do not link the check goes on as if there were none. -/
lemma detect_of_failed_user_flags (h : ctx.compiler.Answers accepts)
    (hset : ctx.threadFlags.isSet = true) (hconfig : KeepsConfig ctx)
    (hprimary : targets.primary? = some primary) (w : Bench σ)
    (hfails : accepts (userTrial ctx.threadFlags targets profile primary w.store) = false) :
    Bench.SameAnswer
      (Preceded ((userTrial ctx.threadFlags targets profile primary w.store).call accepts))
      (fun _ => True) (detect ctx.recorded targets profile w.unrecorded)
      (detect ctx.withoutThreadFlags.recorded targets profile w.unrecorded) := by
  obtain ⟨hanswer, hmemory, _, hread⟩ := tryUserFlags_of_isSet h hset w.unrecorded
  have htable : Bench.SameAnswer
      (Preceded ((userTrial ctx.threadFlags targets profile primary w.store).call accepts))
      (fun _ => True)
      (searchTable ctx.recorded targets profile
        (tryUserFlags ctx.recorded targets profile primary w.unrecorded).2)
      (searchTable ctx.withoutThreadFlags.recorded targets profile w.unrecorded) := by
    refine searchTable_alike_of_config (h.recorded_alike _) rfl rfl (fun _ _ _ _ => trivial)
      (hread hfails).symm ?_ ?_
    · rw [consultConfig_recorded, consultConfig_recorded, hmemory]
      exact hconfig _ w.memory
    · rw [consultConfig_recorded, consultConfig_recorded, hmemory]
      rfl
  have hfind : findFlags ctx.recorded targets profile primary w.unrecorded =
      searchTable ctx.recorded targets profile
        (tryUserFlags ctx.recorded targets profile primary w.unrecorded).2 :=
    findFlags_of_refused (hanswer.trans hfails)
  have hfind' : findFlags ctx.withoutThreadFlags.recorded targets profile primary w.unrecorded =
      searchTable ctx.withoutThreadFlags.recorded targets profile w.unrecorded := rfl
  have hmem : primary ∈ targets.toList := List.mem_of_mem_head? (Option.mem_def.2 hprimary)
  obtain ⟨hfound, hafter⟩ := htable
  unfold detect
  dsimp only
  rw [hprimary, Option.getD_some, hfind, hfind', ← hfound]
  split
  · exact adjust_alike_of_answers h hmem hafter
  · exact ⟨hfound, hafter⟩

end

/-- With a record the check for threads finds the same. -/
lemma detect_recorded (ctx : Context σ) {targets : Targets} (profile : Profile)
    {primary : Language} (hprimary : targets.primary? = some primary) (w : Bench σ) :
    Bench.SameAnswer (fun m n => m.1 = n) (fun _ => True)
      (detect ctx.recorded targets profile w.unrecorded) (detect ctx targets profile w) := by
  have hmem : targets.primary?.getD .c ∈ targets.toList := by
    rw [hprimary]
    exact List.mem_of_mem_head? (Option.mem_def.2 hprimary)
  exact detect_alike ctx.recorded_alike (fun _ _ _ _ => trivial) hmem ⟨rfl, .refl _⟩

end Threads

/-! ## Requests -/

namespace Request

/-- The calls of a request for threads. -/
lemma calls_of_threads {r : Request} (hr : r.capability = .threads) {targets : Targets}
    {profile : Profile} (hscope : r.scope = .ok (targets, profile)) (ctx : Context σ)
    (s : Session σ) :
    calls ctx [r] s =
      (Threads.detect ctx.recorded targets profile s.bench.unrecorded).2.memory.2 := by
  show (r.check ctx.recorded s.unrecorded).2.bench.memory.2 = _
  rw [bench_check_threads hr hscope]
  rfl

section

variable {ctx : Context σ} {r : Request} {targets : Targets} {profile : Profile}
  {primary : Language}

/-- A request for threads whose flags do not link is the request without flags, after one call. -/
lemma check_of_failed_user_flags (h : ctx.compiler.Answers accepts) (hr : r.capability = .threads)
    (hscope : r.scope = .ok (targets, profile)) (hprimary : targets.primary? = some primary)
    (hset : ctx.threadFlags.isSet = true) (hconfig : Threads.KeepsConfig ctx) (s : Session σ)
    (hfails :
      accepts (Threads.userTrial ctx.threadFlags targets profile primary s.bench.store) = false) :
    (r.check ctx s).1 = (r.check ctx.withoutThreadFlags s).1 ∧
      calls ctx [r] s =
        (Threads.userTrial ctx.threadFlags targets profile primary s.bench.store).call accepts ::
          calls ctx.withoutThreadFlags [r] s ∧
      ∀ b, (r.check ctx s).2.bench.store.get b =
        (r.check ctx.withoutThreadFlags s).2.bench.store.get b := by
  obtain ⟨hfound, hafter⟩ :=
    Threads.detect_of_failed_user_flags h hset hconfig hprimary s.bench hfails
  -- what holds with records holds without them
  obtain ⟨hleft, hleftAfter⟩ := Threads.detect_recorded ctx profile hprimary s.bench
  obtain ⟨hright, hrightAfter⟩ :=
    Threads.detect_recorded ctx.withoutThreadFlags profile hprimary s.bench
  refine ⟨?_, ?_, fun b => ?_⟩
  · rw [status_check_threads hr hscope, status_check_threads hr hscope, ← hleft, ← hright, hfound]
  · rw [calls_of_threads hr hscope, calls_of_threads hr hscope]
    exact hafter.memory
  · rw [bench_check_threads hr hscope, bench_check_threads hr hscope]
    calc (Threads.detect ctx targets profile s.bench).2.store.get b
        = (Threads.detect ctx.recorded targets profile s.bench.unrecorded).2.store.get b :=
          (hleftAfter.store b trivial).symm
      _ = (Threads.detect ctx.withoutThreadFlags.recorded targets profile
            s.bench.unrecorded).2.store.get b := hafter.store b trivial
      _ = (Threads.detect ctx.withoutThreadFlags targets profile s.bench).2.store.get b :=
          hrightAfter.store b trivial

/-- A request for threads whose flags link makes one call for them, and then does the second phase. -/
lemma check_of_user_flags (h : ctx.compiler.Answers accepts) (hr : r.capability = .threads)
    (hscope : r.scope = .ok (targets, profile)) (hprimary : targets.primary? = some primary)
    (hset : ctx.threadFlags.isSet = true) (s : Session σ)
    (hlinks :
      accepts (Threads.userTrial ctx.threadFlags targets profile primary s.bench.store) = true) :
    let taken := s.bench.store.withThreadFlags ctx.threadFlags targets profile
    calls ctx [r] s =
        (Threads.userTrial ctx.threadFlags targets profile primary s.bench.store).call accepts ::
          Threads.adjustCalls accepts ctx.platform targets profile primary taken ∧
      taken.GrowsWithin (·.InScope targets profile) (r.check ctx s).2.bench.store := by
  intro taken
  let user := Threads.tryUserFlags ctx.recorded targets profile primary s.bench.unrecorded
  obtain ⟨hanswer, hmemory, hstore, _⟩ := Threads.tryUserFlags_of_isSet h hset s.bench.unrecorded
  have huser : user.1 = true := hanswer.trans hlinks
  have hdetect : Threads.detect ctx.recorded targets profile s.bench.unrecorded =
      Threads.adjust ctx.recorded targets profile primary user.2 :=
    Threads.detect_of_findFlags (by rw [hprimary, Option.getD_some])
      (Threads.findFlags_of_taken huser)
  have htaken : user.2.store = taken := hstore hlinks
  constructor
  · rw [calls_of_threads hr hscope, hdetect, Threads.adjust_calls h, htaken, hmemory]
    rfl
  · have hgrows := Threads.adjust_grows ctx.recorded targets profile primary user.2
    obtain ⟨_, hsame⟩ := Threads.detect_recorded ctx profile hprimary s.bench
    rw [htaken, ← hdetect] at hgrows
    rw [bench_check_threads hr hscope]
    exact hgrows.trans (.of_agree hsame.store)

end

/-- **The user's thread flags.**  If the small program does not link with them, the request gets the
same answer as without them, gives the same report, makes the same calls but for the failed one, and
leaves a store that reads the same.  If the program links, the table of candidates is not searched,
and the flags are there at the end. -/
theorem check_threads_of_user_flags {ctx : Context σ} (hcompiler : ctx.compiler.Answers accepts)
    {r : Request} (hr : r.capability = .threads) {targets : Targets} {profile : Profile}
    (hscope : r.scope = .ok (targets, profile)) {primary : Language}
    (hprimary : targets.primary? = some primary) (hset : ctx.threadFlags.isSet = true)
    (s : Session σ) :
    let taken := s.bench.store.withThreadFlags ctx.threadFlags targets profile
    let trial := taken.trial primary profile Threads.joinFragment true
    let plain := ctx.withoutThreadFlags
    let after := (r.check ctx s).2
    (accepts trial = false → Threads.KeepsConfig ctx →
      (r.check ctx s).1 = (r.check plain s).1 ∧
        after.reports = (r.check plain s).2.reports ∧
        calls ctx [r] s = ⟨trial, false⟩ :: calls plain [r] s ∧
        ∀ b, after.bench.store.get b = (r.check plain s).2.bench.store.get b) ∧
    (accepts trial = true →
      let spelling := Threads.attributeCalls accepts profile primary taken
      let linker := Threads.linkerCalls accepts targets profile primary
        (Threads.defined accepts ctx.platform profile primary taken)
      calls ctx [r] s = ⟨trial, true⟩ :: (spelling ++ linker) ∧
        -- the program of the table is built at the end of the second phase, if at all
        (∀ call ∈ ⟨trial, true⟩ :: spelling, call.trial.fragment ≠ Threads.fullFragment) ∧
        (∀ flag, ctx.threadFlags.link = some flag →
          flag ∈ after.bench.store.get ⟨.link, profile⟩) ∧
        ∀ flag, ctx.threadFlags.compile = some flag → ∀ l ∈ targets,
          flag ∈ after.bench.store.get ⟨.compile l, profile⟩) := by
  intro taken trial plain after
  constructor
  · intro hfails hconfig
    obtain ⟨hstatus, hcalls, hread⟩ :=
      check_of_failed_user_flags hcompiler hr hscope hprimary hset hconfig s hfails
    have hreports : after.reports = (r.check plain s).2.reports := by
      rw [reports_of_check_ok (status_check_threads hr hscope plain s)]
      exact reports_of_check_ok (hstatus.trans (status_check_threads hr hscope plain s))
    have hcall : trial.call accepts = ⟨trial, false⟩ := congrArg (Call.mk trial) hfails
    exact ⟨hstatus, hreports, hcall ▸ hcalls, hread⟩
  · intro hlinks spelling linker
    obtain ⟨hcalls, hgrows⟩ := check_of_user_flags hcompiler hr hscope hprimary hset s hlinks
    have hcall : trial.call accepts = ⟨trial, true⟩ := congrArg (Call.mk trial) hlinks
    have hkept {e : Bucket × String}
        (he : e ∈ Threads.userEntries ctx.threadFlags targets profile) :
        e.2 ∈ after.bench.store.get e.1 := by
      refine hgrows.mem ?_
      rw [← Threads.addEntries_userEntries]
      exact Threads.mem_addEntries he s.bench.store
    refine ⟨hcall ▸ hcalls, ?_, ?_, ?_⟩
    · intro call hcall
      rcases List.mem_cons.1 hcall with rfl | hcall
      · exact Threads.joinFragment_ne_fullFragment
      · exact Threads.fragment_of_mem_attributeCalls hcall
    · intro flag hflag
      exact hkept (Threads.mem_userEntries_link hflag)
    · intro flag hflag l hl
      exact hkept (Threads.mem_userEntries_compile hflag hl)

/-- Here `-pthread` is recorded for C from before.  With a library that cannot be linked it is tried
for C++ in vain, and C keeps it; with another library it is recorded for C++ too. -/
theorem check_threads_of_bad_and_good_flags :
    let accepts : Trial → Bool := fun t => "-lbad" ∉ t.linkFlags
    let ctx : String → Context Nat := fun library =>
      ⟨fun t m => (accepts t, m + 1), .none, .linux, none, ⟨some "-pthread", some library⟩,
        some fun option m => (if option = "--libs" then some "-lpth" else none, m + 1)⟩
    let r : Request := ⟨.threads, .default⟩
    let profile : Profile := ⟨"pthread", by decide⟩
    let s : Session Nat :=
      .start 0 (Store.empty.record ⟨.compile .c, profile⟩ (some "-pthread"))
    let bad := ctx "-lbad"
    let good := ctx "-lgood"
    let trial := fun (flags : ThreadFlags) => (s.bench.store.withThreadFlags flags .both
      profile).trial .c profile Threads.joinFragment true
    (r.scope = .ok (.both, profile) ∧ bad.threadFlags.isSet = true ∧
        good.threadFlags.isSet = true ∧ accepts (trial bad.threadFlags) = false ∧
        accepts (trial good.threadFlags) = true) ∧
      ((r.check bad s).1 = (r.check bad.withoutThreadFlags s).1 ∧
        (r.check bad s).2.reports = (r.check bad.withoutThreadFlags s).2.reports ∧
        calls bad [r] s =
          ⟨trial bad.threadFlags, false⟩ :: calls bad.withoutThreadFlags [r] s ∧
        ∀ b, (r.check bad s).2.bench.store.get b =
          (r.check bad.withoutThreadFlags s).2.bench.store.get b) ∧
      "-lgood" ∈ (r.check good s).2.bench.store.get ⟨.link, profile⟩ ∧
        "-pthread" ∈ (r.check good s).2.bench.store.get ⟨.compile .cpp, profile⟩ := by
  intro accepts ctx r profile s bad good trial
  have hanswers (library : String) : (ctx library).compiler.Answers accepts := fun _ _ => rfl
  have hscope : r.scope = .ok (.both, profile) := by decide
  have hconfig : Threads.KeepsConfig bad := fun _ _ => rfl
  have hfails : accepts (trial bad.threadFlags) = false := by decide
  have hlinks : accepts (trial good.threadFlags) = true := by decide
  obtain ⟨hbad, _⟩ := check_threads_of_user_flags (hanswers "-lbad") (r := r) rfl hscope rfl rfl s
  obtain ⟨_, hgood⟩ :=
    check_threads_of_user_flags (hanswers "-lgood") (r := r) rfl hscope rfl rfl s
  obtain ⟨_, _, hlink, hcompile⟩ := hgood hlinks
  exact ⟨⟨hscope, rfl, rfl, hfails, hlinks⟩, hbad hfails hconfig, hlink "-lgood" rfl,
    hcompile "-pthread" rfl .cpp (by decide)⟩

end Request

end CompilerFlags
