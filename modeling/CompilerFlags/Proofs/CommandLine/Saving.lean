import CompilerFlags.CommandLine.Run
import CompilerFlags.Proofs.CommandLine.Configure
import CompilerFlags.Proofs.CommandLine.Lines

/-!
# Flags that are called saved

`check` and `configure` say that the flags are saved and only then write them.  So what people are
told is not what has happened: the line stands there whenever a run has got as far as recording its
flags (`Answered`), and it stays there if the directory or the file is refused afterwards.

What a run has shown until then are results of requests and their count, which do not look like the line
about saved flags.  Whether this line is shown is thus settled by how far the run got
(`answered_or_failed`), and whether it is true by the refusal of `World.saveFlags` alone.
-/

namespace CompilerFlags

variable {ω : Type}

/-! ## How far a run gets -/

/-- Whether a command that looks for flags is run as a dry one; there is no answer for the others. -/
def Task.dryRun? : Task → Option Bool
  | .check _ dryRun => some dryRun
  | .configure _ dryRun => some dryRun
  | .flags _ => none
  | .toolchain => none

namespace CommandLine

variable {w : World ω} {options : CommonOptions} {task : Task} {dryRun : Bool} {s : ω}

/-- The requests that a command makes: the one that it is given, or those in a file. -/
inductive Asks (w : World ω) (s : ω) : Task → List Request → Prop
  | check (request : Request) (dryRun : Bool) : Asks w s (.check request dryRun) [request]
  | configure {file? : Option String} {rs : List Request} (dryRun : Bool)
      (present : w.isPresent (file?.getD (Path.requestsFile w.directory)) s = true)
      (requests : w.loadRequests (file?.getD (Path.requestsFile w.directory)) s = .ok rs) :
      Asks w s (.configure file? dryRun) rs

/-- A run gets all its requests answered, and this is the session after the last of them. -/
def Answered (w : World ω) (options : CommonOptions) (s : ω) (task : Task)
    (t : Session (Workshop ω)) : Prop :=
  ∃ rs setup session statuses, Asks w s task rs ∧
    (loadSession w (options.statePath w.directory) s).1 = .ok (setup, session) ∧
    Request.Runs (setup.context w) rs session statuses t

lemma exists_loadFlags_of_loadSession {path : String} {setup : Setup}
    {session : Session (Workshop ω)} (h : (loadSession w path s).1 = .ok (setup, session)) :
    ∃ store, w.loadFlags path s = .ok store ∧
      (openSession w w.directory store s).1 = .ok (setup, session) := by
  unfold loadSession at h
  cases hflags : w.loadFlags path s with
  | error f =>
    rw [hflags] at h
    cases h
  | ok store =>
    rw [hflags] at h
    exact ⟨store, rfl, h⟩

/-- What was reported about answered requests are results. -/
lemma isResult_reports (rs : List Request) (statuses : List Status) :
    ∀ e ∈ (List.zipWith Request.reportOf rs statuses).map Event.check, e.IsResult := by
  intro e he
  obtain ⟨report, hreport, rfl⟩ := List.mem_map.1 he
  rw [← List.map_uncurry_zip_eq_zipWith] at hreport
  obtain ⟨⟨r, status⟩, -, rfl⟩ := List.mem_map.1 hreport
  exact .check r status

/-- Without requests a command ends at once. -/
lemma asks_or_failed (htask : task.dryRun? = some dryRun) :
    (∃ rs, Asks w s task rs) ∨ ∃ f, perform w ⟨options, task⟩ s = .failed f .empty s := by
  cases task with
  | check request dry => exact Or.inl ⟨[request], .check request dry⟩
  | flags profile => cases htask
  | toolchain => cases htask
  | configure file? dry =>
    cases hpresent : w.isPresent (file?.getD (Path.requestsFile w.directory)) s with
    | false =>
      refine Or.inr ⟨.ofCause (.noRequests (file?.getD (Path.requestsFile w.directory))), ?_⟩
      show configure w options file? dry s = _
      unfold configure
      dsimp only
      rw [if_neg (Bool.eq_false_iff.1 hpresent)]
    | true =>
      cases hrequests : w.loadRequests (file?.getD (Path.requestsFile w.directory)) s with
      | ok rs => exact Or.inl ⟨rs, .configure dry hpresent hrequests⟩
      | error f =>
        refine Or.inr ⟨f, ?_⟩
        show configure w options file? dry s = _
        unfold configure
        dsimp only
        rw [if_pos hpresent, hrequests]

section

variable {rs : List Request} (hasks : Asks w s task rs)
include hasks

/-- Without a session a command shows nothing. -/
lemma perform_of_loadSession_error {f : Failure}
    (hopened : (loadSession w (options.statePath w.directory) s).1 = .error f) :
    perform w ⟨options, task⟩ s =
      .failed f .empty (loadSession w (options.statePath w.directory) s).2 := by
  cases hasks with
  | check request dry =>
    show check w options request dry s = _
    unfold check
    dsimp only
    rw [hopened]
  | @configure file? rs dry present requests =>
    show configure w options file? dry s = _
    rw [configure_eq present requests]
    unfold configureWith
    dsimp only
    rw [hopened]

variable {setup : Setup} {session : Session (Workshop ω)}
  (hopened : (loadSession w (options.statePath w.directory) s).1 = .ok (setup, session))
include hopened

/-- Where a request is refused, the results of the earlier ones have been shown. -/
lemma perform_of_refused {earlier later : List Request} {r : Request} {statuses : List Status}
    {t : Session (Workshop ω)} {e : RequestError} (hrs : rs = earlier ++ r :: later)
    (hruns : Request.Runs (setup.context w) earlier session statuses t)
    (herror : (r.check (setup.context w) t).1 = .error e) :
    ∃ f, perform w ⟨options, task⟩ s =
      .failed f (shownReports (options.console w) earlier statuses) t.bench.memory.world := by
  obtain ⟨store, hflags, hsession⟩ := exists_loadFlags_of_loadSession hopened
  cases hasks with
  | check request dry =>
    -- the one request is refused, so none is earlier
    obtain ⟨rfl, hrest⟩ := (List.append_eq_singleton_iff.1 hrs.symm).resolve_right (by simp)
    obtain ⟨rfl, rfl⟩ := List.cons.inj hrest
    cases hruns with
    | nil =>
      have hreports := reports_of_openSession hsession
      refine ⟨.ofCause (.request e), ?_⟩
      show check w options r dry s = _
      unfold check showReports
      dsimp only
      rw [hopened]
      dsimp only
      rw [herror, Request.session_of_check_error herror, hreports]
      rfl
  | @configure file? rs dry present requests =>
    refine ⟨⟨[.checkRequest (earlier.length + 1) r.capability], .request e⟩, ?_⟩
    show configure w options file? dry s = _
    rw [configure_eq present requests, hrs, configureWith_of_refused hflags hsession hruns herror]

/-- Where all requests are answered, their results have been shown, and the flags are recorded unless the
run is a dry one. -/
lemma perform_of_runs (htask : task.dryRun? = some dryRun) {statuses : List Status}
    {t : Session (Workshop ω)} (hruns : Request.Runs (setup.context w) rs session statuses t) :
    ∃ events : List Event, (∀ e ∈ events, e.IsResult) ∧
      perform w ⟨options, task⟩ s = conclude w (options.console w) (options.statePath w.directory)
        dryRun ((options.console w).renderAll events) t := by
  obtain ⟨store, hflags, hsession⟩ := exists_loadFlags_of_loadSession hopened
  have hresults := isResult_reports rs statuses
  cases hasks with
  | check request dry =>
    obtain rfl := Option.some.inj htask
    refine ⟨_, hresults, ?_⟩
    have hreports := reports_of_openSession hsession
    have hshown := showReports_of_runs hruns hreports (options.console w)
    cases hruns with
    | cons first rest =>
      cases rest with
      | nil =>
        show check w options request dry s = _
        unfold check
        dsimp only
        rw [hopened]
        dsimp only
        rw [first]
        dsimp only
        rw [hshown]
        rfl
  | @configure file? rs dry present requests =>
    obtain rfl := Option.some.inj htask
    let count : Event := .status .finished (toString (statuses.countP (· ≠ .no)) ++ " of " ++
      toString rs.length ++ " capabilities available")
    have hcount : ∀ e ∈ [count], e.IsResult := by
      intro e he
      rw [List.mem_singleton.1 he]
      exact .finished _ _
    refine ⟨_ ++ [count], List.forall_mem_append.2 ⟨hresults, hcount⟩, ?_⟩
    show configure w options file? dry s = _
    rw [configure_eq present requests, configureWith_of_runs hflags hsession hruns,
      Console.renderAll_concat]
    rfl

end

/-- A run gets all its requests answered, or it fails when it has shown nothing but results. -/
lemma answered_or_failed (htask : task.dryRun? = some dryRun) :
    (∃ t, Answered w options s task t) ∨
      ∃ f events s', (∀ e ∈ events, Event.IsResult e) ∧
        perform w ⟨options, task⟩ s = .failed f ((options.console w).renderAll events) s' := by
  rcases asks_or_failed htask with ⟨rs, hasks⟩ | ⟨f, hfailed⟩
  · cases hopened : (loadSession w (options.statePath w.directory) s).1 with
    | error f =>
      have hfailed := perform_of_loadSession_error hasks hopened
      exact Or.inr ⟨f, [], _, List.forall_mem_nil _, hfailed⟩
    | ok opened =>
      obtain ⟨setup, session⟩ := opened
      rcases Request.runs_or_refused (setup.context w) rs session with
        ⟨statuses, t, hruns⟩ | ⟨earlier, r, later, statuses, t, e, hrs, hruns, herror⟩
      · exact Or.inl ⟨t, rs, setup, session, statuses, hasks, hopened, hruns⟩
      · obtain ⟨f, hfailed⟩ := perform_of_refused hasks hopened hrs hruns herror
        exact Or.inr ⟨f, _, _, isResult_reports earlier statuses, hfailed⟩
  · exact Or.inr ⟨f, [], s, List.forall_mem_nil _, hfailed⟩

lemma perform_of_answered (htask : task.dryRun? = some dryRun) {t : Session (Workshop ω)}
    (hanswered : Answered w options s task t) :
    ∃ events : List Event, (∀ e ∈ events, e.IsResult) ∧
      perform w ⟨options, task⟩ s = conclude w (options.console w) (options.statePath w.directory)
        dryRun ((options.console w).renderAll events) t := by
  obtain ⟨rs, setup, session, statuses, hasks, hopened, hruns⟩ := hanswered
  exact perform_of_runs hasks hopened htask hruns

lemma result_of_exitCode_eq_zero {ending : Ending ω} (h : ending.exitCode = 0) :
    ending.result = .ok () := by
  unfold Ending.exitCode at h
  split at h
  · assumption
  · cases h

/-! ## What the line is worth -/

/-- People see the line about saved flags just if all requests were answered and the run is not a dry
one.  So a run that fails has shown it just if it fails because the flags cannot be written.  What the
line says, that the run succeeds and the file holds the flags of the last session, is true just if they
can. -/
theorem saved_line_precedes_saving (w : World ω) (options : CommonOptions) (task : Task)
    (dryRun : Bool) (s : ω) (htask : task.dryRun? = some dryRun)
    (hpeople : (options.console w).isJson = false) (hloud : (options.console w).isQuiet = false)
    (hwriting : w.WritesBack (options.statePath w.directory)) :
    let path := options.statePath w.directory
    let showsSaved := (options.console w).ShowsSaved path
    let ending := perform w ⟨options, task⟩ s
    (showsSaved ending.output ↔ dryRun = false ∧ ∃ t, Answered w options s task t) ∧
    (∀ f, ending.result = .error f →
      (showsSaved ending.output ↔ dryRun = false ∧ ∃ t, Answered w options s task t ∧
        (w.saveFlags path t.bench.store t.bench.memory.world).1 = .error f)) ∧
    ((showsSaved ending.output → ending.exitCode = 0 ∧ ∃ t, Answered w options s task t ∧
        w.entry path ending.world = (true, .ok t.bench.store.toToml)) ↔
      ∀ t, dryRun = false → Answered w options s task t →
        (w.saveFlags path t.bench.store t.bench.memory.world).1 = .ok ()) := by
  intro path showsSaved ending
  have hrecorded : ∀ t, dryRun = false → Answered w options s task t →
      showsSaved ending.output ∧
        ending.result = (w.saveFlags path t.bench.store t.bench.memory.world).1 ∧
        (ending.result = .ok () → w.entry path ending.world = (true, .ok t.bench.store.toToml)) := by
    rintro t rfl hanswered
    obtain ⟨events, -, hending⟩ := perform_of_answered htask hanswered
    have hrecord : ending = record w (options.console w) path t.bench.store
        ((options.console w).renderAll events) t.bench.memory.world := hending
    rw [hrecord]
    exact ⟨Console.showsSaved_concat hpeople hloud events, rfl, World.entry_saveFlags hwriting⟩
  have hshown : showsSaved ending.output → dryRun = false ∧ ∃ t, Answered w options s task t := by
    intro hsaved
    rcases answered_or_failed htask with ⟨t, hanswered⟩ | ⟨f, events, s', hresults, hfailed⟩
    · cases dryRun with
      | false => exact ⟨rfl, t, hanswered⟩
      | true =>
        obtain ⟨events, hresults, hending⟩ := perform_of_answered htask hanswered
        have hdry : ending.output = (options.console w).renderAll events :=
          congrArg Ending.output hending
        rw [hdry] at hsaved
        exact absurd hsaved (Console.not_showsSaved hpeople hloud hresults)
    · have houtput : ending.output = (options.console w).renderAll events :=
        congrArg Ending.output hfailed
      rw [houtput] at hsaved
      exact absurd hsaved (Console.not_showsSaved hpeople hloud hresults)
  refine ⟨⟨hshown, ?_⟩, fun f hfails => ⟨fun hsaved => ?_, ?_⟩, fun htrue t hdry hanswered => ?_,
    fun hwritten hsaved => ?_⟩
  · rintro ⟨hdry, t, hanswered⟩
    exact (hrecorded t hdry hanswered).1
  · obtain ⟨hdry, t, hanswered⟩ := hshown hsaved
    obtain ⟨-, hresult, -⟩ := hrecorded t hdry hanswered
    exact ⟨hdry, t, hanswered, by rw [← hresult, hfails]⟩
  · rintro ⟨hdry, t, hanswered, -⟩
    exact (hrecorded t hdry hanswered).1
  · obtain ⟨hsaved, hresult, -⟩ := hrecorded t hdry hanswered
    obtain ⟨hcode, -⟩ := htrue hsaved
    rw [← hresult]
    exact result_of_exitCode_eq_zero hcode
  · obtain ⟨hdry, t, hanswered⟩ := hshown hsaved
    obtain ⟨-, hresult, hentry⟩ := hrecorded t hdry hanswered
    have hok : ending.result = .ok () := hresult.trans (hwritten t hdry hanswered)
    refine ⟨?_, t, hanswered, hentry hok⟩
    unfold Ending.exitCode
    rw [hok]

/-- A machine on which no directory can be made. -/
def lockedDisk : World (List (String × String)) :=
  { World.disk with makeDirectories := fun _ files => (.error .denied, files) }

/-- Nothing is saved, although people see the line. -/
theorem saved_line_precedes_denial :
    let options : CommonOptions := ⟨false, false, .never, false, none⟩
    let ending := perform lockedDisk ⟨options, .check ⟨.warnAll, .default⟩ false⟩ []
    (options.console lockedDisk).ShowsSaved "/p/.flagprobe/flags.toml" ending.output ∧
      ending.result = .error ⟨[.makeStateDirectory "/p/.flagprobe"], .os .denied⟩ ∧
      lockedDisk.entry "/p/.flagprobe/flags.toml" ending.world = (false, .error .missing) := by
  intro options ending
  obtain ⟨hshown, -, -⟩ := saved_line_precedes_saving lockedDisk options
    (.check ⟨.warnAll, .default⟩ false) false [] rfl rfl rfl
    (World.disk_writesBack _)
  let setup : Setup := ⟨.gnu "/usr/bin/gcc" "/usr/bin/g++" .gcc, ⟨some "gcc", some "gcc"⟩, .linux,
    some "gcc", ⟨none, none⟩, none⟩
  let session : Session (Workshop (List (String × String))) := .start ⟨[], "/tmp/probe", 0⟩ .empty
  have hopened : (loadSession lockedDisk "/p/.flagprobe/flags.toml" []).1 = .ok (setup, session) := by
    have hsetup : lockedDisk.setup lockedDisk.directory [] = (.ok setup, []) := by decide +kernel
    unfold loadSession openSession
    rw [hsetup]
    rfl
  have hanswer : (Request.check (setup.context lockedDisk) ⟨.warnAll, .default⟩ session).1 =
      .ok .yes := by decide +kernel
  have hruns := Request.Runs.cons (Prod.ext hanswer rfl) (.nil _)
  refine ⟨hshown.2 ⟨rfl, _, _, setup, session, _, .check _ _, hopened, hruns⟩, ?_, ?_⟩
  · decide +kernel
  · decide +kernel

end CommandLine

end CompilerFlags
