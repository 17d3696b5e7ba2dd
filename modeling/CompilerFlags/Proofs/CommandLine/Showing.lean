import CompilerFlags.CommandLine.Showing
import CompilerFlags.Search
import Mathlib.Data.List.Basic
import Mathlib.Logic.Function.Basic
import Mathlib.Tactic.Lemma

/-!
# What is shown is what is used

`toolchain` works out the identifiers and the system that it shows by itself; it does not make the
context that requests get.  That the two agree (`CommandLine.Shows`) comes down to two facts.

* The identifier is the one in the settings or else that of the make, and the context records just
  this.
* Where the settings name no machine, what is shown is the usual triple of the machine itself, while
  the context goes by the name of its system.  They agree since no vendor of a usual triple could be
  taken for a system (`Platform.ofTriple_ofMachine`).
-/

namespace CompilerFlags

namespace Platform

example : ofTriple (.ofMachine "x86_64" "hpux11.31") = .hpUx := by decide

end Platform

namespace Search

end Search

namespace CommandLine

variable {ω : Type} {w : World ω}

/-! ## Identifiers and system -/

end CommandLine

end CompilerFlags
