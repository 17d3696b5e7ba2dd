import CompilerFlags.Capability
import CompilerFlags.Platform
import CompilerFlags.Report

/-!
# The context of requests

A request reads a `Context`, which stays fixed, and changes a `Session`: the memory of the
compiler, the flags recorded so far, and the reports given so far.  Everything that a request can
learn from outside it learns through the two functions of the context that answer from the memory,
the compiler and the thread configuration program.
-/

namespace CompilerFlags

/-- Thread flags that the user sets in the environment. -/
structure ThreadFlags where
  compile : Option String
  link : Option String
deriving DecidableEq, Repr

/-- Whether the user sets a thread flag. -/
def ThreadFlags.isSet (f : ThreadFlags) : Bool := f.compile.isSome || f.link.isSome

/-- Asks a program about one of its options; there is no answer if the program fails. -/
abbrev Query (σ : Type) := String → σ → Option String × σ

/-- What requests read. -/
structure Context (σ : Type) where
  compiler : Compiler σ
  /-- The identifiers of the compilers. -/
  ids : CompilerIds
  /-- The system that programs are built for. -/
  platform : Platform
  /-- The name of the C compiler as a program. -/
  cProgram : Option String
  /-- The thread flags of the user. -/
  threadFlags : ThreadFlags
  /-- The program that knows the thread flags of the system, if there is one. -/
  threadConfig : Option (Query σ)

/-- What requests change. -/
structure Session (σ : Type) where
  bench : Bench σ
  /-- The reports, the oldest first. -/
  reports : List Report

/-- A session at its beginning. -/
def Session.start {σ : Type} (memory : σ) (store : Store) : Session σ :=
  ⟨⟨memory, store⟩, []⟩

/-- Gives a report. -/
def Session.report {σ : Type} (s : Session σ) (r : Report) : Session σ :=
  { s with reports := s.reports ++ [r] }

/-- A way to give reports.  Checks take it as a parameter, so that it can be seen at which point they
report. -/
abbrev Reporter (σ : Type) := Session σ → Report → Session σ

end CompilerFlags
