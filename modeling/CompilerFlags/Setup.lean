import CompilerFlags.Capability.Context
import CompilerFlags.Process
import CompilerFlags.Project
import CompilerFlags.Toolchain.Detection
import CompilerFlags.Toolchain.Workshop

/-!
# Setting up a project

The settings of a project, the environment and the programs that are found decide everything that
requests read: the toolchain and the identifiers recorded for it, the platform, and what is known
about threads.  `Setup.context` turns these facts into the context of requests that are answered by
the toolchain.
-/

namespace CompilerFlags

/-- What is known about a project before its first request. -/
structure Setup where
  toolchain : Toolchain
  ids : CompilerIds
  platform : Platform
  cProgram : Option String
  threadFlags : ThreadFlags
  /-- The program that knows the thread flags of the system. -/
  threadConfig : Option String
deriving DecidableEq, Repr

/-- The identifiers recorded for a toolchain: those in the settings, else that of its make. -/
def Settings.compilerIds (settings : Settings) (make : Make) : CompilerIds :=
  (CompilerIds.none.record .c (settings.ccId.getD make.id)).record .cpp
    (settings.cxxId.getD make.id)

namespace World

variable {ω : Type} (w : World ω)

/-- The platform of the target in the settings.  Without a well-formed target programs are built
for the machine itself. -/
def platform (settings : Settings) : Platform :=
  match settings.target.bind Triple.parse? with
  | some target => .ofTriple target
  | none => .ofName w.os

/-- A variable of the environment that is not blank. -/
def filledValue? (name : String) : Option String :=
  (w.valueOf? name).filter fun value => !Text.isAllBlank value

/-- The thread flags of the user. -/
def threadFlags : ThreadFlags where
  compile := w.filledValue? "PTHREAD_CFLAGS"
  link := w.filledValue? "PTHREAD_LIBS"

/-- What is known once the toolchain is found. -/
def setupWith (settings : Settings) (toolchain : Toolchain) (s : ω) : Setup where
  toolchain := toolchain
  ids := settings.compilerIds toolchain.make
  platform := w.platform settings
  cProgram := Path.fileStem? (toolchain.driver .c)
  threadFlags := w.threadFlags
  threadConfig := w.findProgram? "pthread-config" s

/-- Sets up a project with settings. -/
def setupFor (settings : Settings) (s : ω) : Except Failure Setup × ω :=
  let found := w.detect settings s
  (found.1.map fun toolchain => w.setupWith settings toolchain found.2, found.2)

/-- Sets up the project in a directory. -/
def setup (root : String) (s : ω) : Except Failure Setup × ω :=
  w.setupFor (w.projectSettings root s) s

/-- Asks a program about one of its options. -/
def query (program : String) : Query ω := fun option s =>
  let answer := w.readOutput ⟨program, [option]⟩ none s
  (answer.1.toOption, answer.2)

end World

/-- A query that is asked in the surroundings of a workshop. -/
def Workshop.query {ω : Type} (ask : Query ω) : Query (Workshop ω) := fun option shop =>
  let answer := ask option shop.world
  (answer.1, { shop with world := answer.2 })

/-- The context of requests that the toolchain answers. -/
def Setup.context {ω : Type} (setup : Setup) (w : World ω) : Context (Workshop ω) where
  compiler := setup.toolchain.compiler w
  ids := setup.ids
  platform := setup.platform
  cProgram := setup.cProgram
  threadFlags := setup.threadFlags
  threadConfig := setup.threadConfig.map fun program => Workshop.query (w.query program)

end CompilerFlags
