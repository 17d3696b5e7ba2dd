import CompilerFlags.CommandLine.Probing
import CompilerFlags.Proofs.Capability.Runs
import CompilerFlags.Proofs.World
import Mathlib.Logic.Relation

/-!
# What a session does to its surroundings

A session for a project asks the C compiler for its version and makes one scratch directory.  Then it
asks the thread configuration program about its options and makes trials, each of which writes its source
file and, if this works, runs a compiler.  Apart from that it only looks.  `World.Step` has a
constructor for each of these steps; a `Stage` also remembers which trials were made before it.

* Setting up a project and opening a workshop are such steps (`openSession_reaches`).
* So are all requests, and the trials that they make are those of their calls (`Runs.reaches`).

Trials are only added.  So the stages on the way to some trials have made a beginning of them, and
nothing is to be feared from steps to other stages.  If no step on the way disturbs a file
(`World.Undisturbed`), the file stays as it was (`Undisturbed.entry_eq`).
-/

namespace CompilerFlags

variable {ω : Type}

/-! ## Steps of a session -/

/-- How far a session has got: its scratch directory, if there is one yet, and the trials that were made,
the oldest first. -/
structure Stage (ω : Type) where
  scratch : Option String
  trials : List Trial
  world : ω

namespace World

/-- What a session for the project in a directory, begun in a state, may do next. -/
inductive Step (w : World ω) (root : String) (s : ω) : Stage ω → Stage ω → Prop
  /-- The chosen C compiler is asked for its version. -/
  | version {t : ω} {d : Drivers}
      (chosen : w.drivers? (w.projectSettings root s) s = some d) :
      Step w root s ⟨none, [], t⟩ ⟨none, [], (w.run ⟨d.cc, ["--version"]⟩ none t).2⟩
  | makeScratch {t : ω} :
      Step w root s ⟨none, [], t⟩ ⟨(w.makeScratch t).1.toOption, [], (w.makeScratch t).2⟩
  /-- The thread configuration program is asked about one of its options. -/
  | threadConfig {scratch : String} {trials : List Trial} {t : ω} {setup : Setup}
      {program option : String} (facts : (w.setup root s).1 = .ok setup)
      (found : setup.threadConfig = some program) (known : option ∈ Threads.configOptions) :
      Step w root s ⟨some scratch, trials, t⟩
        ⟨some scratch, trials, (w.run ⟨program, [option]⟩ none t).2⟩
  /-- The source file of the next trial cannot be written. -/
  | unwritten {scratch : String} {trials : List Trial} {t : ω} {trial : Trial} {source : String}
      {e : OsError}
      (place : source = Toolchain.trialSource scratch (trials.length + 1) trial.language)
      (refused : (w.writeText source trial.fragment t).1 = .error e) :
      Step w root s ⟨some scratch, trials, t⟩
        ⟨some scratch, trials ++ [trial], (w.writeText source trial.fragment t).2⟩
  /-- The source file of the next trial is written, and the trial is built. -/
  | built {scratch : String} {trials : List Trial} {t : ω} {setup : Setup} {trial : Trial}
      {job : Job} (facts : (w.setup root s).1 = .ok setup)
      (place : job = setup.toolchain.trialJob scratch (trials.length + 1) trial)
      (written : (w.writeText job.source trial.fragment t).1 = .ok ()) :
      Step w root s ⟨some scratch, trials, t⟩
        ⟨some scratch, trials ++ [trial],
          (w.run (setup.toolchain.command trial.language job) (some scratch)
            (w.writeText job.source trial.fragment t).2).2⟩

/-- The stages that a session for the project in a directory can get to from a state. -/
def Reaches (w : World ω) (root : String) (s : ω) : Stage ω → Prop :=
  Relation.ReflTransGen (w.Step root s) ⟨none, [], s⟩

/-- On the way to some trials, no step of a session disturbs what is found under a path. -/
def Undisturbed (w : World ω) (root : String) (s : ω) (trials : List Trial) (path : String) : Prop :=
  ∀ a b, w.Reaches root s a → w.Step root s a b → b.trials <+: trials →
    w.entry path b.world = w.entry path a.world

variable {w : World ω} {root : String} {s t : ω} {a b : Stage ω}

/-- Trials are only added. -/
lemma Step.trials_prefix (h : w.Step root s a b) : a.trials <+: b.trials := by
  cases h with
  | version chosen => exact List.prefix_rfl
  | makeScratch => exact List.prefix_rfl
  | threadConfig facts found known => exact List.prefix_rfl
  | unwritten place refused => exact List.prefix_append _ _
  | built facts place written => exact List.prefix_append _ _

/-- A path is left as it was if no step on the way disturbs it. -/
lemma Undisturbed.entry_eq {trials : List Trial} {path : String}
    (h : w.Undisturbed root s trials path) (hreaches : w.Reaches root s a)
    (htrials : a.trials <+: trials) : w.entry path a.world = w.entry path s := by
  induction hreaches with
  | refl => rfl
  | @tail a b before step ih =>
    have hbefore : a.trials <+: trials := step.trials_prefix.trans htrials
    calc w.entry path b.world = w.entry path a.world := h a b before step htrials
      _ = w.entry path s := ih hbefore

/-! ## Setting up -/

/-- Identifying the C compiler asks it for its version at most twice. -/
lemma identify_reaches {d : Drivers}
    (hchosen : w.drivers? (w.projectSettings root s) s = some d)
    (h : w.Reaches root s ⟨none, [], t⟩) : w.Reaches root s ⟨none, [], (w.identify d.cc t).2⟩ := by
  have hversion {u : ω} (hu : w.Reaches root s ⟨none, [], u⟩) :
      w.Reaches root s ⟨none, [], (w.askVersion d.cc u).2⟩ :=
    hu.tail (.version hchosen)
  unfold identify
  dsimp only
  split
  · exact h
  · split
    · exact hversion h
    · split
      · exact h
      · unfold identifyByVersion
        dsimp only
        split
        · exact hversion (hversion h)
        · exact hversion h

lemma setup_reaches (w : World ω) (root : String) (s : ω) :
    w.Reaches root s ⟨none, [], (w.setup root s).2⟩ := by
  have hstart : w.Reaches root s ⟨none, [], s⟩ := .refl
  unfold World.setup setupFor
  cases hchosen : w.drivers? (w.projectSettings root s) s with
  | none =>
    have hdetect : w.detect (w.projectSettings root s) s = (.error (.ofCause .noCompiler), s) := by
      rw [detect, hchosen]
    rw [hdetect]
    exact hstart
  | some d =>
    have hdetect : w.detect (w.projectSettings root s) s =
        (.ok (d.toolchain (w.identify d.cc s).1), (w.identify d.cc s).2) := by
      rw [detect, hchosen]
    rw [hdetect]
    dsimp only
    exact identify_reaches hchosen hstart

/-! ## Requests -/

/-- Trying the next trial is a step, whatever becomes of it. -/
lemma Step.tryBuild {setup : Setup} (hfacts : (w.setup root s).1 = .ok setup) (scratch : String)
    (trials : List Trial) (trial : Trial) (t : ω) :
    w.Step root s ⟨some scratch, trials, t⟩
      ⟨some scratch, trials ++ [trial],
        (setup.toolchain.tryBuild w scratch (trials.length + 1) trial t).2⟩ := by
  unfold Toolchain.tryBuild
  dsimp only
  cases hwritten : (w.writeText (setup.toolchain.trialJob scratch (trials.length + 1) trial).source
    trial.fragment t).1 with
  | error e => exact .unwritten rfl hwritten
  | ok written => exact .built hfacts rfl hwritten

end World

/-- The context of a project, with a record of its calls, keeps to the stages of a session. -/
lemma Setup.keeps_reaches {w : World ω} {root : String} {s : ω} {setup : Setup}
    (hfacts : (w.setup root s).1 = .ok setup) :
    (setup.context w).recorded.Keeps fun m =>
      w.Reaches root s ⟨some m.1.scratch, m.2.map Call.trial, m.1.world⟩ ∧
        m.1.count = m.2.length where
  compiler := by
    rintro trial ⟨shop, calls⟩ ⟨hreaches, hcount⟩
    have hlength : (calls.map Call.trial).length = shop.count := by
      rw [List.length_map, hcount]
    have hstep := World.Step.tryBuild hfacts shop.scratch (calls.map Call.trial) trial shop.world
    rw [hlength] at hstep
    refine ⟨?_, ?_⟩
    · show w.Reaches root s ⟨some shop.scratch, (calls ++ [_]).map Call.trial, _⟩
      rw [List.map_append]
      exact hreaches.tail hstep
    · show shop.count + 1 = (calls ++ [_]).length
      rw [List.length_append, hcount]
      rfl
  threadConfig := by
    rintro query hquery option hoption ⟨shop, calls⟩ ⟨hreaches, hcount⟩
    obtain ⟨ask, hask, rfl⟩ := Option.map_eq_some_iff.1 hquery
    obtain ⟨program, hfound, rfl⟩ := Option.map_eq_some_iff.1 hask
    exact ⟨hreaches.tail (.threadConfig hfacts hfound hoption), hcount⟩

/-! ## Sessions -/

namespace CommandLine

variable {w : World ω} {root : String} {store : Store} {s : ω} {setup : Setup}
  {session : Session (Workshop ω)}

/-- Before its first request a session makes no trial, whether or not it can be opened. -/
lemma exists_openSession_reaches (w : World ω) (root : String) (store : Store) (s : ω) :
    ∃ scratch, w.Reaches root s ⟨scratch, [], (openSession w root store s).2⟩ := by
  have hsetup := w.setup_reaches root s
  unfold openSession
  dsimp only
  cases hfacts : (w.setup root s).1 with
  | error f => exact ⟨none, hsetup⟩
  | ok facts =>
    dsimp only
    have hshop := hsetup.tail .makeScratch
    unfold World.openWorkshop
    dsimp only
    split
    · exact ⟨_, hshop⟩
    · exact ⟨_, hshop⟩

/-- A session starts with the given flags in a new scratch directory. -/
lemma exists_start_of_openSession (h : (openSession w root store s).1 = .ok (setup, session)) :
    (w.setup root s).1 = .ok setup ∧
      ∃ scratch t, session = .start ⟨t, scratch, 0⟩ store ∧
        w.Reaches root s ⟨some scratch, [], t⟩ := by
  have hsetup := w.setup_reaches root s
  unfold openSession at h
  dsimp only at h
  cases hfacts : (w.setup root s).1 with
  | error f =>
    rw [hfacts] at h
    cases h
  | ok facts =>
    rw [hfacts] at h
    dsimp only at h
    have hshop := hsetup.tail .makeScratch
    unfold World.openWorkshop at h
    dsimp only at h
    cases hmade : (w.makeScratch (w.setup root s).2).1 with
    | error e =>
      rw [hmade] at h
      cases h
    | ok scratch =>
      rw [hmade] at h hshop
      obtain ⟨rfl, rfl⟩ := Prod.mk.inj (Except.ok.inj h)
      exact ⟨rfl, scratch, _, rfl, hshop⟩

/-- Nothing has been reported when a session starts. -/
lemma reports_of_openSession (h : (openSession w root store s).1 = .ok (setup, session)) :
    session.reports = [] := by
  obtain ⟨_, scratch, t, rfl, _⟩ := exists_start_of_openSession h
  rfl

end CommandLine

/-- Requests that are all answered only take steps of a session.  The trials that they make are those of
their calls. -/
lemma Request.Runs.reaches {w : World ω} {root : String} {store : Store} {s : ω} {setup : Setup}
    {session t : Session (Workshop ω)} {rs : List Request} {statuses : List Status}
    (hopened : (CommandLine.openSession w root store s).1 = .ok (setup, session))
    (hruns : Runs (setup.context w) rs session statuses t) :
    w.Reaches root s ⟨some t.bench.memory.scratch,
      (calls (setup.context w) rs session).map Call.trial, t.bench.memory.world⟩ := by
  obtain ⟨hfacts, scratch, u, rfl, hstart⟩ := CommandLine.exists_start_of_openSession hopened
  let session : Session (Workshop ω) := .start ⟨u, scratch, 0⟩ store
  obtain ⟨hreaches, _⟩ := memory_answers (Setup.keeps_reaches hfacts) rs (s := session.unrecorded)
    ⟨hstart, rfl⟩
  -- the record is kept beside the memory, and the memory is that of the run
  have hmemory := (answers_recorded (setup.context w) rs session).2.bench.memory
  rw [hruns.answers_eq] at hmemory
  rw [hmemory] at hreaches
  exact hreaches

end CompilerFlags
