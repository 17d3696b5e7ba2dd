import CompilerFlags.Language

/-!
# Trials

A trial is one question to a compiler: does this source text build with these flags?  The flags
come as entries, and an entry may hold several arguments separated by blanks, so that `/Wall /WX`
is added and removed as one.  A compiler may remember what it was asked; its answer to a trial is
a function of the trial and of its memory.
-/

namespace CompilerFlags

/-- The source text that is built when only the flags matter. -/
def plainFragment : String := "int main(void) \x7b return 0; \x7d\n"

/-- A question to a compiler. -/
structure Trial where
  /-- The source text. -/
  fragment : String
  language : Language
  /-- The entries for the preprocessor and the compiler. -/
  compileFlags : List String
  /-- The entries for the linker. -/
  linkFlags : List String
  /-- Whether a program is linked, or only an object file made. -/
  link : Bool
deriving DecidableEq, Repr

/-- The arguments that the entries of a list stand for. -/
def arguments (entries : List String) : List String :=
  entries.flatMap Text.words

/-- The compiler arguments of a trial. -/
def Trial.compileArguments (t : Trial) : List String := arguments t.compileFlags

/-- The linker arguments of a trial. -/
def Trial.linkArguments (t : Trial) : List String := arguments t.linkFlags

/-- Something that answers trials.  The memory `σ` holds whatever its later answers depend on. -/
abbrev Compiler (σ : Type) := Trial → σ → Bool × σ

end CompilerFlags
