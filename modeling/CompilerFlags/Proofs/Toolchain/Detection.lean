import CompilerFlags.Proofs.Trimming
import CompilerFlags.Proofs.World
import CompilerFlags.Setup

/-!
# Where compilers come from

Settings, environment and search path each may name a C compiler, and the first of the three that
names a usable one decides (`World.Names`).  A place that is passed over leaves no trace: a compiler
in the settings that is not there might as well not be set, and so might a variable that is blank.

The C++ compiler has no precedence of its own.  It is taken from the place that names the C compiler,
as `World.cppNamed?` tells, or else it follows from the C compiler.  So it need not be the one that the
same precedence would give (`World.CppByPrecedence`): what the settings and the environment say about C++
may be passed over, and a blank variable may be taken for a compiler.  `World.OutOfTurn` lists the ways,
and there are no others.
-/

namespace CompilerFlags

/-- The places in which compilers are named, in the order of their precedence. -/
inductive Origin
  | settings
  | environment
  | search
deriving DecidableEq, Repr

namespace World

variable {ω : Type} (w : World ω)

/-- A C compiler is configured if it is set and is found as a file or as a program. -/
def Configured (settings : Settings) (s : ω) (cc : String) : Prop :=
  settings.cc = some cc ∧ (w.isPresent cc s = true ∨ (w.findProgram? cc s).isSome = true)

/-- A program is found first if the names before its own name stand for none. -/
def FoundFirst (names : List String) (s : ω) (program : String) : Prop :=
  ∃ before name after, names = before ++ name :: after ∧
    w.findProgram? name s = some program ∧ ∀ earlier ∈ before, w.findProgram? earlier s = none

/-- The C compiler that a place names, if the places before it name none. -/
inductive Names (settings : Settings) (s : ω) : Origin → String → Prop
  | settings {cc : String} (configured : w.Configured settings s cc) : Names settings s .settings cc
  | environment {value : String} (unconfigured : ∀ cc, ¬ w.Configured settings s cc)
      (filled : w.filledValue? "CC" = some value) :
      Names settings s .environment ((w.findProgram? value s).getD value)
  | search {cc : String} (unconfigured : ∀ cc, ¬ w.Configured settings s cc)
      (unfilled : w.filledValue? "CC" = none) (found : w.FoundFirst ["cc", "gcc", "clang"] s cc) :
      Names settings s .search cc

/-- The C++ compiler that goes with the C compiler of a place. -/
def cppNamed? (settings : Settings) (s : ω) : Origin → Option String
  | .settings => settings.cxx.or (w.valueOf? "CXX")
  | .environment => w.valueOf? "CXX"
  | .search => w.firstProgram? ["c++", "g++", "clang++"] s

/-- The C++ compiler that is taken if a place names the C compiler. -/
def cppTaken (settings : Settings) (s : ω) (origin : Origin) (cc : String) : String :=
  (w.cppNamed? settings s origin).getD (cppCompilerFor cc)

/-- The C++ compiler by the precedence of the places: what the settings say, else what the environment
says, and only then what goes with the C compiler or is found on the search path. -/
def CppByPrecedence (settings : Settings) (s : ω) (cc cxx : String) : Prop :=
  match settings.cxx.or (w.filledValue? "CXX") with
  | some named => cxx = named
  | none => cxx = cppCompilerFor cc ∨ w.FoundFirst ["c++", "g++", "clang++"] s cxx

/-- The ways to take a C++ compiler out of turn, if the C compiler is named in some place. -/
inductive OutOfTurn (settings : Settings) (s : ω) : Origin → String → Prop
  /-- The one in the settings is passed over. -/
  | settings {origin : Origin} {cxx named : String} (elsewhere : origin ≠ .settings)
      (configured : settings.cxx = some named) (other : cxx ≠ named) :
      OutOfTurn settings s origin cxx
  /-- The one in the environment is passed over. -/
  | environment {cxx named : String} (unconfigured : settings.cxx = none)
      (filled : w.filledValue? "CXX" = some named) (other : cxx ≠ named) :
      OutOfTurn settings s .search cxx
  /-- A blank variable is taken for a compiler. -/
  | blank {origin : Origin} {cxx : String} (elsewhere : origin ≠ .search)
      (unconfigured : settings.cxx = none) (value : w.valueOf? "CXX" = some cxx)
      (blank : Text.isAllBlank cxx = true)
      (unfound : ¬ w.FoundFirst ["c++", "g++", "clang++"] s cxx) :
      OutOfTurn settings s origin cxx

/-- The surroundings without a variable. -/
def unset (name : String) : World ω :=
  { w with valueOf? := fun name' => if name' = name then none else w.valueOf? name' }

section

variable {w} {settings : Settings} {s : ω}

/-! ## The three places -/

lemma filledValue?_eq_some_iff {name value : String} :
    w.filledValue? name = some value ↔
      w.valueOf? name = some value ∧ Text.isAllBlank value = false := by
  unfold filledValue?
  rw [Option.filter_eq_some_iff, Bool.not_eq_true']

lemma firstProgram?_eq_some_iff {names : List String} {program : String} :
    w.firstProgram? names s = some program ↔ w.FoundFirst names s program :=
  List.findSome?_eq_some_iff

lemma configuredDrivers?_of_configured {cc : String} (h : w.Configured settings s cc) :
    w.configuredDrivers? settings s = some ⟨cc, w.cppNamed? settings s .settings⟩ := by
  obtain ⟨hset, hfound⟩ := h
  unfold configuredDrivers?
  rw [hset]
  exact if_pos (Bool.or_eq_true_iff.2 hfound)

lemma configuredDrivers?_of_unconfigured (h : ∀ cc, ¬ w.Configured settings s cc) :
    w.configuredDrivers? settings s = none := by
  unfold configuredDrivers?
  cases hset : settings.cc with
  | none => rfl
  | some cc => exact if_neg fun hfound => h cc ⟨hset, Bool.or_eq_true_iff.1 hfound⟩

/-- Only a variable that is not blank names compilers. -/
lemma environmentDrivers?_eq :
    w.environmentDrivers? s = (w.filledValue? "CC").map fun value =>
      ⟨(w.findProgram? value s).getD value, w.valueOf? "CXX"⟩ := by
  unfold environmentDrivers? filledValue?
  cases w.valueOf? "CC" with
  | none => rfl
  | some value =>
    dsimp only
    rw [Option.filter_some]
    cases Text.isAllBlank value <;> rfl

lemma drivers?_of_unconfigured (h : ∀ cc, ¬ w.Configured settings s cc) :
    w.drivers? settings s = (w.environmentDrivers? s).or (w.searchedDrivers? s) := by
  unfold drivers?
  rw [configuredDrivers?_of_unconfigured h, Option.none_or]

/-- The place that names the C compiler gives both compilers. -/
lemma Names.drivers?_eq {origin : Origin} {cc : String} (h : w.Names settings s origin cc) :
    w.drivers? settings s = some ⟨cc, w.cppNamed? settings s origin⟩ := by
  cases h with
  | settings configured =>
    unfold drivers?
    rw [configuredDrivers?_of_configured configured, Option.some_or, Option.some_or]
  | environment unconfigured filled =>
    rw [drivers?_of_unconfigured unconfigured, environmentDrivers?_eq, filled]
    rfl
  | search unconfigured unfilled found =>
    rw [drivers?_of_unconfigured unconfigured, environmentDrivers?_eq, unfilled, Option.map_none,
      Option.none_or]
    unfold searchedDrivers?
    rw [firstProgram?_eq_some_iff.2 found]
    rfl

/-- Compilers that are chosen are named in some place. -/
lemma exists_names_of_drivers? {d : Drivers} (h : w.drivers? settings s = some d) :
    ∃ origin, w.Names settings s origin d.cc := by
  by_cases hconfigured : ∃ cc, w.Configured settings s cc
  · obtain ⟨cc, hcc⟩ := hconfigured
    have hnames : w.Names settings s .settings cc := .settings hcc
    cases h.symm.trans hnames.drivers?_eq
    exact ⟨.settings, hnames⟩
  · have hunconfigured : ∀ cc, ¬ w.Configured settings s cc := not_exists.1 hconfigured
    cases hvalue : w.filledValue? "CC" with
    | some value =>
      have hnames : w.Names settings s .environment _ := .environment hunconfigured hvalue
      cases h.symm.trans hnames.drivers?_eq
      exact ⟨.environment, hnames⟩
    | none =>
      rw [drivers?_of_unconfigured hunconfigured, environmentDrivers?_eq, hvalue, Option.map_none,
        Option.none_or] at h
      obtain ⟨cc, hfound, rfl⟩ := Option.map_eq_some_iff.1 h
      exact ⟨.search, .search hunconfigured hvalue (firstProgram?_eq_some_iff.1 hfound)⟩

lemma drivers?_eq_some_iff {d : Drivers} :
    w.drivers? settings s = some d ↔
      ∃ origin, w.Names settings s origin d.cc ∧ d.cxx = w.cppNamed? settings s origin := by
  constructor
  · intro h
    obtain ⟨origin, hnames⟩ := exists_names_of_drivers? h
    have hd : d = ⟨d.cc, w.cppNamed? settings s origin⟩ :=
      Option.some.inj (h.symm.trans hnames.drivers?_eq)
    exact ⟨origin, hnames, congrArg Drivers.cxx hd⟩
  · rintro ⟨origin, hnames, hcxx⟩
    rw [hnames.drivers?_eq, ← hcxx]

/-! ## The toolchain -/

lemma detect_eq_ok_iff {t : Toolchain} :
    (w.detect settings s).1 = .ok t ↔
      ∃ d, w.drivers? settings s = some d ∧ d.toolchain (w.identify d.cc s).1 = t := by
  unfold detect
  cases w.drivers? settings s with
  | none => simp
  | some d => simp

lemma detect_eq_error_iff {f : Failure} :
    (w.detect settings s).1 = .error f ↔
      f = .ofCause .noCompiler ∧ w.drivers? settings s = none := by
  unfold detect
  cases w.drivers? settings s with
  | none => simp [eq_comm]
  | some d => simp

lemma driver_c_toolchain (d : Drivers) (make : Make) : (d.toolchain make).driver .c = d.cc := by
  cases make <;> rfl

/-- What is found depends on the choice of the compilers and on the programs only. -/
lemma detect_congr {w' : World ω} {settings' : Settings} (hrun : w.run = w'.run)
    (h : w.drivers? settings s = w'.drivers? settings' s) :
    w.detect settings s = w'.detect settings' s := by
  have hask : w.askVersion = w'.askVersion := by
    funext program s
    unfold askVersion
    rw [hrun]
  unfold detect identify identifyByVersion identifyClang
  rw [h, hask]

/-- A compiler in the settings that is not there might as well not be set. -/
lemma detect_of_unconfigured (h : ∀ cc, ¬ w.Configured settings s cc) :
    w.detect settings s = w.detect { settings with cc := none } s := by
  refine detect_congr rfl ?_
  rw [drivers?_of_unconfigured h]
  unfold drivers? configuredDrivers?
  rw [Option.none_or]

/-- A blank variable might as well not be set. -/
lemma detect_of_blank {value : String} (hvalue : w.valueOf? "CC" = some value)
    (hblank : Text.isAllBlank value = true) :
    w.detect settings s = (w.unset "CC").detect settings s := by
  have hhere : w.environmentDrivers? s = none := by
    unfold environmentDrivers?
    rw [hvalue]
    exact if_pos hblank
  have hthere : (w.unset "CC").environmentDrivers? s = none := rfl
  refine detect_congr rfl ?_
  unfold drivers?
  rw [hhere, hthere]
  rfl

end

/-- The C compiler of a toolchain is the one that the first place names, and there is a toolchain unless
no place names one.  Places that name none have no influence on what is found. -/
theorem detect_by_precedence (w : World ω) (settings : Settings) (s : ω) :
    (∀ cc, (∃ t, (w.detect settings s).1 = .ok t ∧ t.driver .c = cc) ↔
        ∃ origin, w.Names settings s origin cc) ∧
      (∀ f, (w.detect settings s).1 = .error f ↔
        f = .ofCause .noCompiler ∧ ∀ origin cc, ¬ w.Names settings s origin cc) ∧
      ((∀ cc, ¬ w.Configured settings s cc) →
        w.detect settings s = w.detect { settings with cc := none } s) ∧
      (∀ value, w.valueOf? "CC" = some value → Text.isAllBlank value = true →
        w.detect settings s = (w.unset "CC").detect settings s) := by
  refine ⟨fun cc => ⟨?_, ?_⟩, fun f => ?_, detect_of_unconfigured, fun _ => detect_of_blank⟩
  · rintro ⟨t, hdetect, rfl⟩
    obtain ⟨d, hdrivers, rfl⟩ := detect_eq_ok_iff.1 hdetect
    rw [driver_c_toolchain]
    exact exists_names_of_drivers? hdrivers
  · rintro ⟨origin, hnames⟩
    exact ⟨_, detect_eq_ok_iff.2 ⟨_, hnames.drivers?_eq, rfl⟩, driver_c_toolchain _ _⟩
  · rw [detect_eq_error_iff]
    refine and_congr_right fun _ => ⟨fun hnone origin cc hnames => ?_, fun hunnamed => ?_⟩
    · cases hnone.symm.trans hnames.drivers?_eq
    · refine Option.eq_none_iff_forall_ne_some.2 fun d hdrivers => ?_
      obtain ⟨origin, hnames⟩ := exists_names_of_drivers? hdrivers
      exact hunnamed origin d.cc hnames

lemma not_configured_of_missing {settings : Settings} {s : ω}
    (h : ∀ cc, settings.cc = some cc → w.isPresent cc s = false ∧ w.findProgram? cc s = none) :
    ∀ cc, ¬ w.Configured settings s cc := by
  rintro cc ⟨hset, hfound⟩
  obtain ⟨habsent, hunfound⟩ := h cc hset
  rw [habsent, hunfound] at hfound
  cases hfound with
  | inl hpresent => cases hpresent
  | inr hprogram => cases hprogram

/-- A compiler in the settings that is not there is passed over in favour of the one on the search path. -/
theorem detect_passes_over_missing_compiler :
    disk.detect ⟨some "/nonexistent/flagprobe-cc", none, none, none, none⟩ [] =
        disk.detect Settings.none [] ∧
      ∃ t, (disk.detect ⟨some "/nonexistent/flagprobe-cc", none, none, none, none⟩ []).1 =
        .ok t ∧ t.driver .c = "/usr/bin/gcc" := by
  obtain ⟨hdriver, -, hmissing, -⟩ := detect_by_precedence disk
    ⟨some "/nonexistent/flagprobe-cc", none, none, none, none⟩ []
  have hunconfigured : ∀ cc, ¬ disk.Configured
      ⟨some "/nonexistent/flagprobe-cc", none, none, none, none⟩ [] cc := by
    refine not_configured_of_missing _ fun cc hset => ?_
    cases hset
    decide
  refine ⟨hmissing hunconfigured, (hdriver _).2 ⟨.search, .search hunconfigured rfl ?_⟩⟩
  exact firstProgram?_eq_some_iff.1 (by decide)

/-! ## The C++ compiler -/

section

variable {w} {settings : Settings} {s : ω}

lemma isAllBlank_cppCompilerFor (cc : String) : Text.isAllBlank (cppCompilerFor cc) = false := by
  have hgpp : Text.isAllBlank "g++" = false := by decide
  have hpp : Text.isAllBlank "++" = false := by decide
  unfold cppCompilerFor
  cases Text.dropEnd? "gcc" cc with
  | some start =>
    dsimp only
    rw [Text.isAllBlank_append, hgpp, Bool.and_false]
  | none =>
    dsimp only
    split
    · rw [Text.isAllBlank_append, hpp, Bool.and_false]
    · rw [Text.isAllBlank_append, hpp, Bool.and_false]

lemma cppByPrecedence_of_named {cc cxx named : String}
    (h : settings.cxx.or (w.filledValue? "CXX") = some named) :
    w.CppByPrecedence settings s cc cxx ↔ cxx = named := by
  unfold CppByPrecedence
  rw [h]

lemma cppByPrecedence_of_unnamed {cc cxx : String}
    (h : settings.cxx.or (w.filledValue? "CXX") = none) :
    w.CppByPrecedence settings s cc cxx ↔
      cxx = cppCompilerFor cc ∨ w.FoundFirst ["c++", "g++", "clang++"] s cxx := by
  unfold CppByPrecedence
  rw [h]

variable {origin : Origin} {cc : String}

/-- A C++ compiler in the settings counts with the C compiler of the settings only. -/
lemma cppByPrecedence_iff_of_configured {named : String} (h : settings.cxx = some named) :
    w.CppByPrecedence settings s cc (w.cppTaken settings s origin cc) ↔
      ¬ w.OutOfTurn settings s origin (w.cppTaken settings s origin cc) := by
  have hnamed : settings.cxx.or (w.filledValue? "CXX") = some named := by rw [h, Option.some_or]
  rw [cppByPrecedence_of_named hnamed]
  constructor
  · intro heq hout
    cases hout with
    | settings _ configured other =>
      cases h.symm.trans configured
      exact other heq
    | environment unconfigured _ _ => cases h.symm.trans unconfigured
    | blank _ unconfigured _ _ _ => cases h.symm.trans unconfigured
  · intro hturn
    by_cases hsettings : origin = .settings
    · subst hsettings
      unfold cppTaken cppNamed?
      rw [h, Option.some_or, Option.getD_some]
    · exact not_not.1 fun hother => hturn (.settings hsettings h hother)

section

variable (h : settings.cxx = none)
include h

lemma cppTaken_of_ne_search (horigin : origin ≠ .search) :
    w.cppTaken settings s origin cc = (w.valueOf? "CXX").getD (cppCompilerFor cc) := by
  cases origin with
  | settings =>
    unfold cppTaken cppNamed?
    rw [h, Option.none_or]
  | environment => rfl
  | search => exact absurd rfl horigin

/-- Without a C++ compiler in the settings, one in the environment counts unless the C compiler is found
on the search path. -/
lemma cppByPrecedence_iff_of_filled {named : String} (hfilled : w.filledValue? "CXX" = some named) :
    w.CppByPrecedence settings s cc (w.cppTaken settings s origin cc) ↔
      ¬ w.OutOfTurn settings s origin (w.cppTaken settings s origin cc) := by
  have hnamed : settings.cxx.or (w.filledValue? "CXX") = some named := by
    rw [h, Option.none_or, hfilled]
  obtain ⟨hvalue, hletters⟩ := filledValue?_eq_some_iff.1 hfilled
  rw [cppByPrecedence_of_named hnamed]
  constructor
  · intro heq hout
    cases hout with
    | settings _ configured _ => cases h.symm.trans configured
    | environment _ filled other =>
      cases hfilled.symm.trans filled
      exact other heq
    | blank _ _ _ blank _ =>
      rw [heq, hletters] at blank
      cases blank
  · intro hturn
    by_cases hsearch : origin = .search
    · subst hsearch
      exact not_not.1 fun hother => hturn (.environment h hfilled hother)
    · rw [cppTaken_of_ne_search h hsearch, hvalue, Option.getD_some]

/-- If neither names a C++ compiler, only a blank variable is taken out of turn. -/
lemma cppByPrecedence_iff_of_unfilled (hunfilled : w.filledValue? "CXX" = none) :
    w.CppByPrecedence settings s cc (w.cppTaken settings s origin cc) ↔
      ¬ w.OutOfTurn settings s origin (w.cppTaken settings s origin cc) := by
  have hunnamed : settings.cxx.or (w.filledValue? "CXX") = none := by
    rw [h, Option.none_or, hunfilled]
  rw [cppByPrecedence_of_unnamed hunnamed]
  constructor
  · intro hrule hout
    cases hout with
    | settings _ configured _ => cases h.symm.trans configured
    | environment _ filled _ => cases hunfilled.symm.trans filled
    | blank _ _ _ blank unfound =>
      -- The compiler that goes with a C compiler is never blank.
      refine hrule.elim (fun heq => ?_) unfound
      rw [heq, isAllBlank_cppCompilerFor] at blank
      cases blank
  · intro hturn
    by_cases hsearch : origin = .search
    · subst hsearch
      unfold cppTaken
      cases hfirst : w.cppNamed? settings s .search with
      | none => exact .inl rfl
      | some cxx => exact .inr (firstProgram?_eq_some_iff.1 hfirst)
    · rw [cppTaken_of_ne_search h hsearch] at hturn ⊢
      cases hvalue : w.valueOf? "CXX" with
      | none => exact .inl rfl
      | some value =>
        rw [hvalue, Option.getD_some] at hturn
        have hblank : Text.isAllBlank value = true := by
          refine not_not.1 fun hletters => ?_
          cases hunfilled.symm.trans
            (filledValue?_eq_some_iff.2 ⟨hvalue, Bool.eq_false_iff.2 hletters⟩)
        exact .inr (not_not.1 fun hunfound => hturn (.blank hsearch h hvalue hblank hunfound))

end

lemma cppByPrecedence_iff_not_outOfTurn :
    w.CppByPrecedence settings s cc (w.cppTaken settings s origin cc) ↔
      ¬ w.OutOfTurn settings s origin (w.cppTaken settings s origin cc) := by
  cases hset : settings.cxx with
  | some named => exact cppByPrecedence_iff_of_configured hset
  | none =>
    cases hfilled : w.filledValue? "CXX" with
    | some named => exact cppByPrecedence_iff_of_filled hset hfilled
    | none => exact cppByPrecedence_iff_of_unfilled hset hfilled

/-- A toolchain in the style of GCC has both compilers from the same place. -/
lemma exists_names_of_detect_gnu {cxx : String} {brand : Brand}
    (h : (w.detect settings s).1 = .ok (.gnu cc cxx brand)) :
    ∃ origin, w.Names settings s origin cc ∧ cxx = w.cppTaken settings s origin cc := by
  obtain ⟨d, hdrivers, htoolchain⟩ := detect_eq_ok_iff.1 h
  obtain ⟨origin, hnames, hcxx⟩ := drivers?_eq_some_iff.1 hdrivers
  cases hmake : (w.identify d.cc s).1 with
  | msvc =>
    rw [hmake] at htoolchain
    cases htoolchain
  | gnu brand' =>
    rw [hmake] at htoolchain
    cases htoolchain
    refine ⟨origin, hnames, ?_⟩
    unfold cppTaken
    rw [hcxx]

end

/-- The C++ compiler of a toolchain in the style of GCC comes from the place that names the C compiler.  So
it is the one that has precedence unless one in the settings or in the environment is passed over, or a
blank variable is taken for a compiler. -/
theorem detect_cpp_by_precedence_iff (w : World ω) (settings : Settings) (s : ω) {cc cxx : String}
    {brand : Brand} (h : (w.detect settings s).1 = .ok (.gnu cc cxx brand)) :
    ∃ origin, w.Names settings s origin cc ∧ cxx = w.cppTaken settings s origin cc ∧
      (w.CppByPrecedence settings s cc cxx ↔ ¬ w.OutOfTurn settings s origin cxx) := by
  obtain ⟨origin, hnames, rfl⟩ := exists_names_of_detect_gnu h
  exact ⟨origin, hnames, rfl, cppByPrecedence_iff_not_outOfTurn⟩

/-- A C++ compiler in the settings is passed over if the C compiler is found on the search path. -/
theorem detect_passes_over_cpp_compiler :
    (disk.detect ⟨none, some "my-c++", none, none, none⟩ []).1 =
        .ok (.gnu "/usr/bin/gcc" "/usr/bin/g++" .gcc) ∧
      ¬ disk.CppByPrecedence ⟨none, some "my-c++", none, none, none⟩ [] "/usr/bin/gcc"
        "/usr/bin/g++" := by
  have hdetect : (disk.detect ⟨none, some "my-c++", none, none, none⟩ []).1 =
      .ok (.gnu "/usr/bin/gcc" "/usr/bin/g++" .gcc) := by decide
  obtain ⟨origin, hnames, -, hiff⟩ := detect_cpp_by_precedence_iff _ _ _ hdetect
  have helsewhere : origin ≠ .settings := by
    rintro rfl
    cases hnames with
    | settings configured => cases configured.1
  exact ⟨hdetect, fun hrule => hiff.1 hrule (.settings helsewhere rfl (by decide))⟩

end World

end CompilerFlags
