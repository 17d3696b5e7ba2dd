import CompilerFlags.Project
import Mathlib.Tactic.Lemma

/-!
# What is found under a path

What becomes of a file is told by `World.entry`: whether there is something under its path, and what can
be read there.  That a text which was written can be read again is a property of the surroundings
(`World.WritesBack`).

Saving flags takes two operations.  First the directory that leads to the file is made, if there is
one to make (`World.Prepares`); then the file is written.  So the flags are saved just if neither of the
two is refused (`saveFlags_eq_ok_iff`), and what is left is what the writing has left
(`Prepares.saveFlags_eq`).

Two small machines serve as examples.  On `disk` nothing changes but what the library writes itself; on
`compilingDisk` the compiler makes the files that it is told to make.
-/

namespace CompilerFlags.World

variable {ω : Type}

/-- What is found under a path: whether there is something, and what can be read there. -/
def entry (w : World ω) (path : String) (s : ω) : Bool × Except OsError String :=
  (w.isPresent path s, w.readText path s)

/-- A text that was written under a path is found there. -/
def WritesBack (w : World ω) (path : String) : Prop :=
  ∀ text t, (w.writeText path text t).1 = .ok () →
    w.entry path (w.writeText path text t).2 = (true, .ok text)

/-! ## Saving flags -/

/-- The directory that leads to a file is made, or there is none to make. -/
inductive Prepares (w : World ω) (path : String) (s : ω) : ω → Prop
  | bare (leads : (Path.parent? path).filter (!·.isEmpty) = none) : Prepares w path s s
  | made {parent : String} (leads : (Path.parent? path).filter (!·.isEmpty) = some parent)
      (done : (w.makeDirectories parent s).1 = .ok ()) :
      Prepares w path s (w.makeDirectories parent s).2

section

variable {w : World ω} {path : String} {store : Store} {s t : ω}

lemma Prepares.makeStateDirectory_eq (h : w.Prepares path s t) :
    w.makeStateDirectory path s = (.ok (), t) := by
  unfold makeStateDirectory
  cases h with
  | bare leads => rw [leads]
  | made leads done =>
    rw [leads]
    dsimp only
    rw [done]
    rfl

lemma prepares_of_makeStateDirectory (h : (w.makeStateDirectory path s).1 = .ok ()) :
    w.Prepares path s (w.makeStateDirectory path s).2 := by
  unfold makeStateDirectory at h ⊢
  cases hleads : (Path.parent? path).filter (!·.isEmpty) with
  | none => exact .bare hleads
  | some parent =>
    rw [hleads] at h
    dsimp only at h ⊢
    cases hmade : (w.makeDirectories parent s).1 with
    | error e =>
      rw [hmade] at h
      cases h
    | ok made => exact .made hleads hmade

/-- Once the directory is there, all that is left of saving is writing. -/
lemma Prepares.saveFlags_eq (h : w.Prepares path s t) (store : Store) :
    w.saveFlags path store s =
      ((w.writeText path store.toToml t).1.mapError fun e => ⟨[.writeFlags path], .os e⟩,
        (w.writeText path store.toToml t).2) := by
  unfold saveFlags
  rw [h.makeStateDirectory_eq]

/-- Flags are saved just if the directory can be made and the file can be written. -/
lemma saveFlags_eq_ok_iff :
    (w.saveFlags path store s).1 = .ok () ↔
      ∃ t, w.Prepares path s t ∧ (w.writeText path store.toToml t).1 = .ok () := by
  constructor
  · intro h
    cases hmade : (w.makeStateDirectory path s).1 with
    | error f =>
      unfold saveFlags at h
      dsimp only at h
      rw [hmade] at h
      cases h
    | ok made =>
      have hprepared := prepares_of_makeStateDirectory hmade
      rw [hprepared.saveFlags_eq] at h
      refine ⟨_, hprepared, ?_⟩
      cases hwritten : (w.writeText path store.toToml (w.makeStateDirectory path s).2).1 with
      | error e =>
        rw [hwritten] at h
        cases h
      | ok written => rfl
  · rintro ⟨t, hprepared, hwritten⟩
    rw [hprepared.saveFlags_eq, hwritten]
    rfl

/-- If flags were saved, the file holds their written form. -/
lemma entry_saveFlags (hwriting : w.WritesBack path)
    (h : (w.saveFlags path store s).1 = .ok ()) :
    w.entry path (w.saveFlags path store s).2 = (true, .ok store.toToml) := by
  obtain ⟨t, hprepared, hwritten⟩ := saveFlags_eq_ok_iff.1 h
  rw [hprepared.saveFlags_eq]
  exact hwriting _ _ hwritten

end

/-! ## Small machines -/

/-- A machine as the texts of its files; its one compiler accepts everything and writes nothing. -/
def disk : World (List (String × String)) where
  arch := "x86_64"
  os := "linux"
  directory := "/p"
  terminal := false
  valueOf? _ := none
  isPresent path files := (files.lookup path).isSome
  readText path files :=
    match files.lookup path with
    | some text => .ok text
    | none => .error .missing
  makeDirectories _ files := (.ok (), files)
  writeText path text files := (.ok (), (path, text) :: files)
  makeScratch files := (.ok "/tmp/probe", files)
  findProgram? name _ := if name = "gcc" then some "/usr/bin/gcc" else none
  run _ _ files := (.ok ⟨some 0, "", ""⟩, files)

/-- The file that a compiler is told to make: the one after the last `-o`. -/
def lastOutput? : List String → Option String
  | [] => none
  | argument :: arguments =>
    (lastOutput? arguments).or (if argument = "-o" then arguments.head? else none)

/-- A machine whose compiler makes the file that it is told to make.  It does not know `-Wextra`. -/
def compilingDisk : World (List (String × String)) :=
  { disk with
    run := fun c _ files =>
      if "-Wextra" ∈ c.arguments then (.ok ⟨some 1, "", "unknown option"⟩, files)
      else (.ok ⟨some 0, "", ""⟩, (lastOutput? c.arguments).toList.map (·, "object") ++ files) }

lemma entry_disk_cons_of_ne {path path' : String} (h : path ≠ path') (text : String)
    (files : List (String × String)) :
    disk.entry path ((path', text) :: files) = disk.entry path files := by
  have hlookup : List.lookup path ((path', text) :: files) = List.lookup path files := by
    rw [List.lookup_cons, beq_false_of_ne h]
  show ((List.lookup path _).isSome, _) = ((List.lookup path files).isSome, _)
  simp only [disk, hlookup]

lemma disk_writesBack (path : String) : disk.WritesBack path := by
  intro text files _
  simp [entry, disk]

lemma lastOutput?_eq_none {arguments : List String} (h : "-o" ∉ arguments) :
    lastOutput? arguments = none := by
  induction arguments with
  | nil => rfl
  | cons argument arguments ih =>
    have hne : argument ≠ "-o" := fun heq => h (heq ▸ List.mem_cons_self)
    have hothers : lastOutput? arguments = none := ih fun hmem => h (List.mem_cons_of_mem _ hmem)
    rw [lastOutput?, hothers, if_neg hne]
    rfl

lemma lastOutput?_append {path : String} {later : List String} (h : "-o" ∉ path :: later)
    (earlier : List String) : lastOutput? (earlier ++ "-o" :: path :: later) = some path := by
  induction earlier with
  | nil =>
    show (lastOutput? (path :: later)).or _ = _
    rw [lastOutput?_eq_none h]
    rfl
  | cons argument earlier ih =>
    show (lastOutput? (earlier ++ "-o" :: path :: later)).or _ = _
    rw [ih]
    rfl

end CompilerFlags.World
