import CompilerFlags.Failure
import CompilerFlags.Path
import CompilerFlags.Settings

/-!
# Finding a toolchain

A toolchain is found in two steps.  The first step chooses the C compiler, and perhaps the C++
compiler, by looking at the settings, the environment and the search path, in this order; the first
of the three that gives a C compiler decides.

* A compiler in the settings counts only if there is such a file or program.
* A compiler in the environment is trusted.  If it is found on the search path, its full path is
  used.
* On the search path the usual names are tried.

The second step finds out of which make the C compiler is, by its name or by what it says about its
version.  The C++ compiler follows from the C compiler where the first step has given none.
-/

namespace CompilerFlags

/-- The compilers that are to be used. -/
structure Drivers where
  cc : String
  /-- Without a C++ compiler the one that goes with the C compiler is used. -/
  cxx : Option String
deriving DecidableEq, Repr

/-- The toolchain of some compilers, the first of which is of a known make. -/
def Drivers.toolchain (d : Drivers) : Make → Toolchain
  | .msvc => .msvc d.cc
  | .gnu brand => .gnu d.cc (d.cxx.getD (cppCompilerFor d.cc)) brand

namespace World

variable {ω : Type} (w : World ω)

/-! ### Choosing the compilers -/

/-- The compilers of the settings.  Without a C++ compiler there, the environment may name one. -/
def configuredDrivers? (settings : Settings) (s : ω) : Option Drivers :=
  match settings.cc with
  | none => none
  | some cc =>
    if w.isPresent cc s || (w.findProgram? cc s).isSome then
      some ⟨cc, settings.cxx.or (w.valueOf? "CXX")⟩
    else none

/-- The compilers of the environment. -/
def environmentDrivers? (s : ω) : Option Drivers :=
  match w.valueOf? "CC" with
  | none => none
  | some cc =>
    if Text.isAllBlank cc then none
    else some ⟨(w.findProgram? cc s).getD cc, w.valueOf? "CXX"⟩

/-- The first program of a list of names that is found on the search path. -/
def firstProgram? (names : List String) (s : ω) : Option String :=
  names.findSome? (w.findProgram? · s)

/-- The compilers on the search path. -/
def searchedDrivers? (s : ω) : Option Drivers :=
  (w.firstProgram? ["cc", "gcc", "clang"] s).map fun cc =>
    ⟨cc, w.firstProgram? ["c++", "g++", "clang++"] s⟩

/-- The compilers that are to be used. -/
def drivers? (settings : Settings) (s : ω) : Option Drivers :=
  ((w.configuredDrivers? settings s).or (w.environmentDrivers? s)).or (w.searchedDrivers? s)

/-! ### Identifying the C compiler -/

/-- What a program says about its version, if it can be run.  Its exit code does not matter. -/
def askVersion (program : String) (s : ω) : Option String × ω :=
  let answer := w.run ⟨program, ["--version"]⟩ none s
  (answer.1.toOption.map Finished.stdout, answer.2)

/-- Whether a version mentions a word.  Capitals do not matter; no character outside ASCII has a
small form that occurs in the words asked for. -/
def mentions (word : String) (version : Option String) : Bool :=
  version.any fun text => Text.contains word (Text.lower text)

/-- The brand of a compiler that is known to be a Clang. -/
def identifyClang (cc : String) (s : ω) : Brand × ω :=
  let version := w.askVersion cc s
  (if mentions "apple" version.1 then .appleClang else .clang, version.2)

/-- The brand of a compiler whose name says nothing. -/
def identifyByVersion (cc : String) (s : ω) : Brand × ω :=
  let version := w.askVersion cc s
  if mentions "clang" version.1 then w.identifyClang cc version.2 else (.gcc, version.2)

/-- The make of a C compiler, by its name or else by its version. -/
def identify (cc : String) (s : ω) : Make × ω :=
  let name := Text.lower ((Path.fileStem? cc).getD "")
  if name = "cl" then (.msvc, s)
  else if Text.contains "clang" name then
    let brand := w.identifyClang cc s
    (.gnu brand.1, brand.2)
  else if Text.contains "gcc" name || Text.contains "g++" name then (.gnu .gcc, s)
  else
    let brand := w.identifyByVersion cc s
    (.gnu brand.1, brand.2)

/-! ### The toolchain -/

/-- Finds a toolchain. -/
def detect (settings : Settings) (s : ω) : Except Failure Toolchain × ω :=
  match w.drivers? settings s with
  | none => (.error (.ofCause .noCompiler), s)
  | some d =>
    let make := w.identify d.cc s
    (.ok (d.toolchain make.1), make.2)

end World

end CompilerFlags
