import CompilerFlags.Proofs.CommandLine.Probing
import CompilerFlags.Proofs.Toolchain.Trials

/-!
# All requests or none

`configure` reads its requests and the recorded flags before it sets anything up, and it writes the flags
once, after the last request.  Between the two it only takes the steps of a session.  So the file of
flags changes only if all requests were answered, and then it holds the flags of all of them.

The file is looked at through `World.entry`: whether it is there, and what can be read from it.  The
commands that are run might touch it like any other file.  That they do not is a matter of the
surroundings, and of those commands only that make the trials of the requests (`World.Undisturbed`).
Whether the flags can be saved is up to the surroundings too (`World.Prepares`), and so is it that a text
which was written can be read again (`World.WritesBack`).
-/

namespace CompilerFlags

variable {ω : Type}

namespace CommandLine

variable {w : World ω} {options : CommonOptions} {dryRun : Bool} {s : ω}

/-- The reports of requests that were answered, as they are shown. -/
def shownReports (console : Console) (rs : List Request) (statuses : List Status) : Output :=
  console.renderAll ((List.zipWith Request.reportOf rs statuses).map .check)

/-- What is said after all requests were answered. -/
def shownCount (console : Console) (rs : List Request) (statuses : List Status) : Output :=
  console.render (.status .finished (toString (statuses.countP (· ≠ .no)) ++ " of " ++
    toString rs.length ++ " capabilities available"))

lemma showReports_of_runs {ctx : Context (Workshop ω)} {rs : List Request}
    {session t : Session (Workshop ω)} {statuses : List Status}
    (hruns : Request.Runs ctx rs session statuses t) (hreports : session.reports = [])
    (console : Console) : showReports console t = shownReports console rs statuses := by
  unfold showReports shownReports
  rw [hruns.reports_eq, hreports, List.nil_append]

/-- A capability is counted as available unless its status is `no`. -/
lemma summary_eq (statuses : List Status) :
    summary statuses = toString (statuses.countP (· ≠ .no)) ++ " of " ++
      toString statuses.length ++ " capabilities available" := by
  have havailable : Status.isAvailable = fun status => decide (status ≠ .no) := by
    funext status
    cases status <;> rfl
  unfold summary
  rw [havailable, ← List.countP_eq_length_filter]

/-- The wording of the failure of a request names the request. -/
lemma message_checkRequest (number : Nat) (capability : Capability) (e : RequestError) :
    "error: " ++ (⟨[.checkRequest number capability], .request e⟩ : Failure).message =
      "error: request #" ++ toString number ++ " (" ++ capability.name ++ ") failed: " ++
        e.message := by
  have hmessage : (⟨[.checkRequest number capability], .request e⟩ : Failure).message =
      "request #" ++ toString number ++ " (" ++ capability.name ++ ") failed" ++ ": " ++
        e.message := rfl
  have hstart : "error: request #" = "error: " ++ "request #" := by decide
  have hend : ") failed: " = ") failed" ++ ": " := by decide
  rw [hmessage, hstart, hend]
  simp only [String.append_assoc]

/-! ## Before the first request -/

lemma configure_eq {file? : Option String} {rs : List Request}
    (hpresent : w.isPresent (file?.getD (Path.requestsFile w.directory)) s = true)
    (hrequests : w.loadRequests (file?.getD (Path.requestsFile w.directory)) s = .ok rs) :
    configure w options file? dryRun s = configureWith w options rs dryRun s := by
  unfold configure
  dsimp only
  rw [if_pos hpresent, hrequests]

lemma loadSession_eq {path : String} {store : Store} (hflags : w.loadFlags path s = .ok store) :
    loadSession w path s = openSession w w.directory store s := by
  unfold loadSession
  rw [hflags]

/-- Flags that cannot be loaded end the command at once. -/
lemma configureWith_of_loadFlags_error {rs : List Request} {f : Failure}
    (hflags : w.loadFlags (options.statePath w.directory) s = .error f) :
    configureWith w options rs dryRun s = .failed f .empty s := by
  unfold configureWith loadSession
  dsimp only
  rw [hflags]

section

variable {rs : List Request} {store : Store}
  (hflags : w.loadFlags (options.statePath w.directory) s = .ok store)
include hflags

lemma configureWith_of_openSession_error {f : Failure}
    (hopened : (openSession w w.directory store s).1 = .error f) :
    configureWith w options rs dryRun s =
      .failed f .empty (openSession w w.directory store s).2 := by
  unfold configureWith
  dsimp only
  rw [loadSession_eq hflags, hopened]

/-! ## The requests -/

variable {setup : Setup} {session : Session (Workshop ω)}
  (hopened : (openSession w w.directory store s).1 = .ok (setup, session))
include hopened

/-- A request that is refused ends the command after the reports of the earlier ones. -/
lemma configureWith_of_refused {earlier later : List Request} {r : Request}
    {statuses : List Status} {t : Session (Workshop ω)} {e : RequestError}
    (hruns : Request.Runs (setup.context w) earlier session statuses t)
    (herror : (r.check (setup.context w) t).1 = .error e) :
    configureWith w options (earlier ++ r :: later) dryRun s =
      .failed ⟨[.checkRequest (earlier.length + 1) r.capability], .request e⟩
        (shownReports (options.console w) earlier statuses) t.bench.memory.world := by
  have hreports := reports_of_openSession hopened
  unfold configureWith
  dsimp only
  rw [loadSession_eq hflags, hopened]
  dsimp only
  rw [Request.checkAll, hruns.checkFrom_eq_of_error herror later 1]
  dsimp only
  rw [showReports_of_runs hruns hreports, Nat.add_comm 1]
  rfl

/-- If all requests are answered, their count follows the reports, and the flags are recorded unless the
run is a dry one. -/
lemma configureWith_of_runs {statuses : List Status} {t : Session (Workshop ω)}
    (hruns : Request.Runs (setup.context w) rs session statuses t) :
    configureWith w options rs dryRun s =
      conclude w (options.console w) (options.statePath w.directory) dryRun
        (shownReports (options.console w) rs statuses ++
          shownCount (options.console w) rs statuses) t := by
  have hreports := reports_of_openSession hopened
  unfold configureWith
  dsimp only
  rw [loadSession_eq hflags, hopened]
  dsimp only
  rw [Request.checkAll, hruns.checkFrom_eq 1]
  dsimp only
  rw [showReports_of_runs hruns hreports, summary_eq, hruns.length_eq]
  rfl

end

/-! ## All or nothing -/

/-- Requests or flags that cannot be read end `configure` before anything is run, and a session that
cannot be opened ends it before the first request.  If a request is refused, exactly the earlier ones have
been reported, and the failure has its number and its capability.  If all are answered, those with a
status other than `no` are counted, and a dry run ends there.  Up to this point only steps of a session
were taken, with the trials of the requests that were answered; so the file of flags is as before unless
one of these steps disturbs it.  A run that is not dry goes on.  It succeeds just if the directory can be
made and the file can be written, and then the file holds the flags of all requests. -/
theorem configure_all_or_nothing (w : World ω) (options : CommonOptions) (file? : Option String)
    (dryRun : Bool) (s : ω) (hwriting : w.WritesBack (options.statePath w.directory)) :
    let path := options.statePath w.directory
    let file := file?.getD (Path.requestsFile w.directory)
    let console := options.console w
    let ending := configure w options file? dryRun s
    (w.isPresent file s = false → ending = .failed (.ofCause (.noRequests file)) .empty s) ∧
    (∀ f, w.isPresent file s = true → w.loadRequests file s = .error f →
      ending = .failed f .empty s) ∧
    ∀ rs, w.isPresent file s = true → w.loadRequests file s = .ok rs →
      (∀ f, w.loadFlags path s = .error f → ending = .failed f .empty s) ∧
      ∀ store, w.loadFlags path s = .ok store →
        (∀ f, (openSession w w.directory store s).1 = .error f →
          ending.result = .error f ∧ ending.output = .empty ∧
            (∃ scratch, w.Reaches w.directory s ⟨scratch, [], ending.world⟩) ∧
            (w.Undisturbed w.directory s [] path →
              w.entry path ending.world = w.entry path s)) ∧
        ∀ setup session, (openSession w w.directory store s).1 = .ok (setup, session) →
          let trials rs := (Request.calls (setup.context w) rs session).map Call.trial
          session.bench.store = store ∧
          (∀ rs statuses t, Request.Runs (setup.context w) rs session statuses t →
            w.Reaches w.directory s
              ⟨some t.bench.memory.scratch, trials rs, t.bench.memory.world⟩) ∧
          (ending.result = .ok () →
            ∃ statuses t, Request.Runs (setup.context w) rs session statuses t) ∧
          (∀ earlier r later statuses t e, rs = earlier ++ r :: later →
            Request.Runs (setup.context w) earlier session statuses t →
            (r.check (setup.context w) t).1 = .error e →
            ending.result =
              .error ⟨[.checkRequest (earlier.length + 1) r.capability], .request e⟩ ∧
            ending.fullOutput = shownReports console earlier statuses ++
              .errLine ("error: request #" ++ toString (earlier.length + 1) ++ " (" ++
                r.capability.name ++ ") failed: " ++ e.message) ∧
            ending.world = t.bench.memory.world ∧
            (w.Undisturbed w.directory s (trials earlier) path →
              w.entry path ending.world = w.entry path s)) ∧
          ∀ statuses t, Request.Runs (setup.context w) rs session statuses t →
            let shown := shownReports console rs statuses ++ shownCount console rs statuses
            let text := t.bench.store.toToml
            (dryRun = true →
              ending.result = .ok () ∧ ending.output = shown ∧
                ending.world = t.bench.memory.world ∧
                (w.Undisturbed w.directory s (trials rs) path →
                  w.entry path ending.world = w.entry path s)) ∧
            (dryRun = false →
              ending.output = shown ++ console.render (.status .saved ("flags to " ++ path)) ∧
              (ending.result = .ok () ↔ ∃ u, w.Prepares path t.bench.memory.world u ∧
                (w.writeText path text u).1 = .ok ()) ∧
              ∀ u, w.Prepares path t.bench.memory.world u →
                (w.writeText path text u).1 = .ok () →
                ending.world = (w.writeText path text u).2 ∧
                  w.entry path ending.world = (true, .ok text)) := by
  intro path file console ending
  refine ⟨fun hmissing => ?_, fun f hpresent hrequests => ?_, fun rs hpresent hrequests => ?_⟩
  · show configure w options file? dryRun s = _
    unfold configure
    dsimp only
    rw [if_neg (Bool.eq_false_iff.1 hmissing)]
  · show configure w options file? dryRun s = _
    unfold configure
    dsimp only
    rw [if_pos hpresent, hrequests]
  have hending : ending = configureWith w options rs dryRun s := configure_eq hpresent hrequests
  rw [hending]
  refine ⟨fun f hflags => configureWith_of_loadFlags_error hflags, fun store hflags => ?_⟩
  refine ⟨fun f hopened => ?_, fun setup session hopened => ?_⟩
  · obtain ⟨scratch, hreaches⟩ := exists_openSession_reaches w w.directory store s
    rw [configureWith_of_openSession_error hflags hopened]
    exact ⟨rfl, rfl, ⟨scratch, hreaches⟩, fun h => h.entry_eq hreaches List.prefix_rfl⟩
  intro trials
  have hstore : session.bench.store = store := by
    obtain ⟨_, scratch, t, rfl, _⟩ := exists_start_of_openSession hopened
    rfl
  have huntouched : ∀ rs statuses t, Request.Runs (setup.context w) rs session statuses t →
      w.Undisturbed w.directory s (trials rs) path →
      w.entry path t.bench.memory.world = w.entry path s := by
    intro rs statuses t hruns h
    exact h.entry_eq (hruns.reaches hopened) List.prefix_rfl
  refine ⟨hstore, fun rs statuses t hruns => hruns.reaches hopened, fun hsuccess => ?_, ?_,
    fun statuses t hruns => ?_⟩
  · rcases Request.runs_or_refused (setup.context w) rs session with
      hruns | ⟨earlier, r, later, statuses, t, e, rfl, hruns, herror⟩
    · exact hruns
    · rw [configureWith_of_refused hflags hopened hruns herror] at hsuccess
      cases hsuccess
  · rintro earlier r later statuses t e rfl hruns herror
    rw [configureWith_of_refused hflags hopened hruns herror]
    refine ⟨rfl, ?_, rfl, huntouched earlier statuses t hruns⟩
    rw [← message_checkRequest]
    rfl
  · intro shown text
    rw [configureWith_of_runs hflags hopened hruns]
    refine ⟨?_, ?_⟩
    · rintro rfl
      exact ⟨rfl, rfl, rfl, huntouched rs statuses t hruns⟩
    · rintro rfl
      refine ⟨rfl, World.saveFlags_eq_ok_iff, fun u hprepared hwritten => ?_⟩
      have hsaved : (w.saveFlags path t.bench.store t.bench.memory.world).2 =
          (w.writeText path text u).2 := congrArg Prod.snd (hprepared.saveFlags_eq _)
      refine ⟨hsaved, ?_⟩
      show w.entry path (w.saveFlags path t.bench.store t.bench.memory.world).2 = _
      rw [hsaved]
      exact hwriting text u hwritten

/-! ## On a small machine -/

section

open World

/-- What is not kept in the scratch directory is no file of a trial. -/
lemma not_mem_files {path : String} (h : ¬ "/tmp/probe".toList <+: path.toList)
    (toolchain : Toolchain) (number : Nat) (trial : Trial) :
    path ∉ Toolchain.files (toolchain.trialJob "/tmp/probe" number trial) := by
  intro hmem
  obtain ⟨suffix, _, rfl⟩ := Toolchain.exists_of_mem_files hmem
  refine h ?_
  have hrelative := Toolchain.isAbsolute_trialStem_append number suffix
  unfold Toolchain.trialFile Path.join
  rw [if_neg (Bool.eq_false_iff.1 hrelative)]
  split
  · simp
  · simp

/-- The small machine has one scratch directory. -/
lemma scratch_of_reaches_compilingDisk {root : String} {files : List (String × String)}
    {a : Stage (List (String × String))} (h : compilingDisk.Reaches root files a) :
    ∀ scratch ∈ a.scratch, scratch = "/tmp/probe" := by
  induction h with
  | refl =>
    intro scratch hscratch
    cases hscratch
  | tail before step ih =>
    cases step with
    | version chosen => exact ih
    | makeScratch =>
      intro scratch hscratch
      exact (Option.some.inj hscratch).symm
    | threadConfig facts found known => exact ih
    | unwritten place refused => exact ih
    | built facts place written => exact ih

/-- Only the file that a command is told to make is written when it is run. -/
lemma entry_run_compilingDisk {path : String} {c : Command}
    (h : ∀ output ∈ lastOutput? c.arguments, path ≠ output) (directory : Option String)
    (files : List (String × String)) :
    compilingDisk.entry path (compilingDisk.run c directory files).2 =
      compilingDisk.entry path files := by
  dsimp only [compilingDisk]
  split
  · rfl
  · cases houtput : lastOutput? c.arguments with
    | none => rfl
    | some output => exact entry_disk_cons_of_ne (h output houtput) "object" files

/-- A trial makes its own file unless its flags for the linker name another one. -/
lemma lastOutput?_command {cc cxx : String} {brand : Brand} {number : Nat} {trial : Trial}
    {job : Job} (hjob : job = (Toolchain.gnu cc cxx brand).trialJob "/tmp/probe" number trial)
    (hlink : "-o" ∉ trial.linkArguments) :
    lastOutput? ((Toolchain.gnu cc cxx brand).command trial.language job).arguments =
      some job.output := by
  have hfiles : "-o" ∉ Toolchain.files job := hjob ▸ not_mem_files (by decide) _ number trial
  have hlater : "-o" ∉ job.output :: if job.link then job.linkArguments else [] := by
    subst hjob
    cases hlinked : trial.link <;> simp_all [Toolchain.files, Toolchain.trialJob]
  rw [← lastOutput?_append hlater
    ((if job.link then [] else ["-c"]) ++ job.compileArguments ++ [job.source])]
  simp [Toolchain.command, Toolchain.gnuArguments]

/-- Trials whose flags for the linker name no file to make leave the file of flags alone. -/
lemma compilingDisk_undisturbed {files : List (String × String)} {setup : Setup}
    {cc cxx : String} {brand : Brand} {trials : List Trial}
    (hsetup : (compilingDisk.setup "/p" files).1 = .ok setup)
    (hgnu : setup.toolchain = .gnu cc cxx brand)
    (htrials : ∀ trial ∈ trials, "-o" ∉ trial.linkArguments) :
    compilingDisk.Undisturbed "/p" files trials "/p/.flagprobe/flags.toml" := by
  have hquiet : ∀ option ∈ "--version" :: Threads.configOptions,
      lastOutput? [option] = none := by decide
  intro a b hreaches hstep hway
  cases hstep with
  | version chosen =>
    refine entry_run_compilingDisk ?_ none _
    rw [hquiet _ List.mem_cons_self]
    exact fun _ => nofun
  | makeScratch => rfl
  | threadConfig facts found known =>
    refine entry_run_compilingDisk ?_ none _
    rw [hquiet _ (List.mem_cons_of_mem _ known)]
    exact fun _ => nofun
  | unwritten place refused => cases refused
  | @built scratch before t setup' trial job facts place written =>
    obtain rfl := scratch_of_reaches_compilingDisk hreaches scratch rfl
    obtain rfl : setup = setup' := Except.ok.inj (hsetup.symm.trans facts)
    have hlink : "-o" ∉ trial.linkArguments := htrials trial (hway.subset (by simp))
    have hfiles : "/p/.flagprobe/flags.toml" ∉ Toolchain.files job :=
      place ▸ not_mem_files (by decide) _ (before.length + 1) trial
    obtain ⟨hsource, houtput⟩ : "/p/.flagprobe/flags.toml" ≠ job.source ∧
        "/p/.flagprobe/flags.toml" ≠ job.output := by
      simpa [Toolchain.files] using hfiles
    rw [hgnu] at place ⊢
    have hmade : ∀ output ∈ lastOutput?
        ((Toolchain.gnu cc cxx brand).command trial.language job).arguments,
        "/p/.flagprobe/flags.toml" ≠ output := by
      intro output hmem
      rw [lastOutput?_command place hlink] at hmem
      exact Option.some.inj hmem ▸ houtput
    exact (entry_run_compilingDisk hmade (some "/tmp/probe") _).trans
      (entry_disk_cons_of_ne hsource trial.fragment t)

/-- The files of a project on the small machine: flags from before, and two lists of requests, the second of
which makes no sense. -/
def smallFiles : List (String × String) :=
  [("/p/.flagprobe/flags.toml", "CFLAGS = [\"-O2\"]\n"),
    ("/p/.flagprobe/requests.toml",
      "[[request]]\ncapability = \"warn-all\"\n\n[[request]]\ncapability = \"warn-extra\"\n"),
    ("/p/senseless.toml",
      "[[request]]\ncapability = \"warn-all\"\n\n[[request]]\ncapability = \"ignore-warning\"\n")]

/-- The flags from before. -/
def smallStore : Store := (Store.empty.add ⟨.compile .c, .default⟩ "-O2").2

/-- What is known of the project before its first request. -/
def smallSetup : Setup :=
  ⟨.gnu "/usr/bin/gcc" "/usr/bin/g++" .gcc, ⟨some "gcc", some "gcc"⟩, .linux, some "gcc",
    ⟨none, none⟩, none⟩

/-- A session of the project before its first request. -/
def smallSession : Session (Workshop (List (String × String))) :=
  .start ⟨smallFiles, "/tmp/probe", 0⟩ smallStore

def smallContext : Context (Workshop (List (String × String))) :=
  smallSetup.context compilingDisk

lemma setup_small : compilingDisk.setup "/p" smallFiles = (.ok smallSetup, smallFiles) := by
  decide +kernel

lemma openSession_small :
    (openSession compilingDisk "/p" smallStore smallFiles).1 =
      .ok (smallSetup, smallSession) := by
  unfold openSession
  rw [setup_small]
  rfl

/-- The compiler knows the flag of the first request. -/
lemma check_small_all :
    Request.check smallContext ⟨.warnAll, .default⟩ smallSession =
      (.ok .yes, (Request.check smallContext ⟨.warnAll, .default⟩ smallSession).2) := by
  have hstatus : (Request.check smallContext ⟨.warnAll, .default⟩ smallSession).1 = .ok .yes := by
    decide +kernel
  exact Prod.ext hstatus rfl

/-- What the first two requests leave. -/
def smallEnd : Session (Workshop (List (String × String))) :=
  (Request.check smallContext ⟨.warnExtra, .default⟩
    (Request.check smallContext ⟨.warnAll, .default⟩ smallSession).2).2

/-- The compiler does not know the flag of the second request. -/
lemma runs_small :
    Request.Runs smallContext [⟨.warnAll, .default⟩, ⟨.warnExtra, .default⟩] smallSession
      [.yes, .no] smallEnd := by
  have hstatus : (Request.check smallContext ⟨.warnExtra, .default⟩
      (Request.check smallContext ⟨.warnAll, .default⟩ smallSession).2).1 = .ok .no := by
    decide +kernel
  exact .cons check_small_all (.cons (Prod.ext hstatus rfl) (.nil _))

lemma toToml_smallEnd : smallEnd.bench.store.toToml =
    "CFLAGS = [\n    \"-O2\",\n    \"-Wall\",\n]\nCXXFLAGS = [\"-Wall\"]\n" := by
  have hfilled : smallEnd.bench.store.filled.map (fun e => (e.1.name, e.2.toList)) =
      [("CFLAGS", ["-O2", "-Wall"]), ("CXXFLAGS", ["-Wall"])] := by
    decide +kernel
  have hlists : smallEnd.bench.store.toLists =
      [("CFLAGS", ["-O2", "-Wall"]), ("CXXFLAGS", ["-Wall"])] := by
    rw [Store.toLists, hfilled]
    simp [Store.sortLists, List.mergeSort]
  rw [Store.toToml, hlists]
  decide +kernel

/-- Of three runs with the same files the first one stops at its second request, which lacks its flags, the
second one records the flag that the compiler knows beside the one from before, and the third one is dry.
Only the second one changes what is recorded. -/
theorem configure_on_compilingDisk :
    let path := "/p/.flagprobe/flags.toml"
    let options : CommonOptions := ⟨false, false, .never, false, none⟩
    let console := options.console compilingDisk
    let refused := configure compilingDisk options (some "/p/senseless.toml") false smallFiles
    let wet := configure compilingDisk options none false smallFiles
    let dry := configure compilingDisk options none true smallFiles
    let shown := shownReports console [⟨.warnAll, .default⟩, ⟨.warnExtra, .default⟩] [.yes, .no] ++
      console.render (.status .finished "1 of 2 capabilities available")
    (refused.result =
        .error ⟨[.checkRequest 2 .ignoreWarning], .request (.missingFlags .ignoreWarning)⟩ ∧
      refused.fullOutput = shownReports console [⟨.warnAll, .default⟩] [.yes] ++
        .errLine ("error: request #2 (ignore-warning) failed: " ++
          "`ignore-warning` requires at least one flag") ∧
      compilingDisk.entry path refused.world = (true, .ok "CFLAGS = [\"-O2\"]\n")) ∧
    (wet.result = .ok () ∧
      wet.output = shown ++ console.render (.status .saved ("flags to " ++ path)) ∧
      compilingDisk.entry path wet.world =
        (true, .ok "CFLAGS = [\n    \"-O2\",\n    \"-Wall\",\n]\nCXXFLAGS = [\"-Wall\"]\n")) ∧
    dry.result = .ok () ∧ dry.output = shown ∧
      compilingDisk.entry path dry.world = (true, .ok "CFLAGS = [\"-O2\"]\n") := by
  intro path options console refused wet dry shown
  have hwriting : compilingDisk.WritesBack path := disk_writesBack path
  have hflags : compilingDisk.loadFlags path smallFiles = .ok smallStore := by decide +kernel
  refine ⟨?_, ?_, ?_⟩
  · obtain ⟨_, _, hread⟩ := configure_all_or_nothing compilingDisk options
      (some "/p/senseless.toml") false smallFiles hwriting
    obtain ⟨_, hloaded⟩ := hread [⟨.warnAll, .default⟩, ⟨.ignoreWarning, .default⟩]
      (by decide) (by decide +kernel)
    obtain ⟨_, hsession⟩ := hloaded smallStore hflags
    obtain ⟨_, _, _, hrefused, _⟩ := hsession smallSetup smallSession openSession_small
    obtain ⟨hresult, houtput, -, huntouched⟩ :=
      hrefused [⟨.warnAll, .default⟩] ⟨.ignoreWarning, .default⟩ [] [.yes] _ _ rfl
        (.cons check_small_all (.nil _)) rfl
    refine ⟨hresult, houtput, (huntouched ?_).trans (by decide)⟩
    exact compilingDisk_undisturbed (congrArg Prod.fst setup_small) rfl (by decide +kernel)
  · obtain ⟨_, _, hread⟩ := configure_all_or_nothing compilingDisk options none false
      smallFiles hwriting
    obtain ⟨_, hloaded⟩ := hread [⟨.warnAll, .default⟩, ⟨.warnExtra, .default⟩]
      (by decide) (by decide +kernel)
    obtain ⟨_, hsession⟩ := hloaded smallStore hflags
    obtain ⟨_, _, _, _, hanswered⟩ := hsession smallSetup smallSession openSession_small
    obtain ⟨houtput, hresult, hsaved⟩ := (hanswered [.yes, .no] smallEnd runs_small).2 rfl
    have hleads : (Path.parent? path).filter (!·.isEmpty) = some "/p/.flagprobe" := by decide
    have hprepared : compilingDisk.Prepares path smallEnd.bench.memory.world
        smallEnd.bench.memory.world := .made hleads rfl
    obtain ⟨_, hentry⟩ := hsaved _ hprepared rfl
    rw [toToml_smallEnd] at hentry
    exact ⟨hresult.2 ⟨_, hprepared, rfl⟩, houtput, hentry⟩
  · obtain ⟨_, _, hread⟩ := configure_all_or_nothing compilingDisk options none true
      smallFiles hwriting
    obtain ⟨_, hloaded⟩ := hread [⟨.warnAll, .default⟩, ⟨.warnExtra, .default⟩]
      (by decide) (by decide +kernel)
    obtain ⟨_, hsession⟩ := hloaded smallStore hflags
    obtain ⟨_, _, _, _, hanswered⟩ := hsession smallSetup smallSession openSession_small
    obtain ⟨hresult, houtput, -, huntouched⟩ := (hanswered [.yes, .no] smallEnd runs_small).1 rfl
    refine ⟨hresult, houtput, (huntouched ?_).trans (by decide)⟩
    exact compilingDisk_undisturbed (congrArg Prod.fst setup_small) rfl (by decide +kernel)

end

end CommandLine

end CompilerFlags
