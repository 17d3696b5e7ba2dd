import CompilerFlags.Text

/-!
# Candidates

A candidate is one way to get what is wanted from a compiler: a compile flag, a link flag, both,
or no flag at all.
-/

namespace CompilerFlags

/-- The flags that are tried together. -/
structure Candidate where
  compile : Option String
  link : Option String
deriving DecidableEq, Repr

namespace Candidate

/-- The candidate that adds a compile flag. -/
def ofCompile (flag : String) : Candidate := ⟨some flag, none⟩

/-- The candidate that adds a link flag. -/
def ofLink (flag : String) : Candidate := ⟨none, some flag⟩

/-- The candidate that adds nothing. -/
def bare : Candidate := ⟨none, none⟩

/-- The text of a candidate in reports. -/
def display (c : Candidate) : String :=
  match c.compile.toList ++ c.link.toList with
  | [] => "(no flags)"
  | flags => Text.join " " flags

end Candidate

end CompilerFlags
