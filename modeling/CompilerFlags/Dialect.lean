import CompilerFlags.Language

/-!
# Flag dialects

Compilers write their warning flags in one of two dialects.  The dialect of a compiler follows
from the identifier that is recorded for it; `Dialect.accepts` says which flags it makes sense to
hand to a compiler of the dialect at all, judged by how the flag starts.

A language for which no identifier is recorded has the common dialect.
-/

namespace CompilerFlags

/-- The way a compiler spells its warning flags. -/
inductive Dialect
  /-- Microsoft's compilers: `/wd4996`, `/Wall`. -/
  | msvc
  /-- All others: `-Wall`, `-Wno-unused`. -/
  | common
deriving DecidableEq, Repr

namespace Dialect

/-- The name of the dialect in reports. -/
def name : Dialect → String
  | msvc => "msvc-like"
  | common => "other"

/-- The compiler identifiers that stand for the first dialect. -/
def msvcIds : List String := ["msvc", "msvc2008", "msvs", "msvs2008"]

/-- The dialect of the compiler with an identifier; case and outer blanks do not matter. -/
def ofId (id : String) : Dialect :=
  if Text.lower (Text.trim id) ∈ msvcIds then msvc else common

/-- The starts of flags that compilers of a dialect do not understand. -/
def foreignStarts : Dialect → List String
  | msvc => ["-W"]
  | common => ["/wd", "/wo", "/we"]

/-- Whether a flag may be shown to a compiler of the dialect. -/
def accepts (d : Dialect) (flag : String) : Bool :=
  d.foreignStarts.all fun p => !Text.starts p flag

end Dialect

/-- The compiler identifiers recorded for the languages. -/
structure CompilerIds where
  c : Option String
  cpp : Option String
deriving DecidableEq, Repr

namespace CompilerIds

/-- No identifier is recorded. -/
def none : CompilerIds := ⟨Option.none, Option.none⟩

/-- The identifier recorded for a language. -/
def id? (ids : CompilerIds) : Language → Option String
  | .c => ids.c
  | .cpp => ids.cpp

/-- Records an identifier for a language, in the place of an earlier one. -/
def record (ids : CompilerIds) : Language → String → CompilerIds
  | .c, id => { ids with c := some id }
  | .cpp, id => { ids with cpp := some id }

/-- The dialect that the compiler of a language speaks. -/
def dialect (ids : CompilerIds) (l : Language) : Dialect :=
  match ids.id? l with
  | some id => Dialect.ofId id
  | .none => .common

end CompilerIds

end CompilerFlags
