/-!
# Toolchain settings

The settings say which compilers to use and what they build for; each may be absent.  Settings come
in layers, and `Settings.merge` puts one layer over another: setting by setting, the upper layer
wins where it says something.
-/

namespace CompilerFlags

/-- What a user sets about the toolchain. -/
structure Settings where
  /-- The C compiler. -/
  cc : Option String
  /-- The C++ compiler. -/
  cxx : Option String
  /-- The identifier recorded for C. -/
  ccId : Option String
  /-- The identifier recorded for C++. -/
  cxxId : Option String
  /-- The triple of the target. -/
  target : Option String
deriving DecidableEq, Repr

namespace Settings

/-- Settings that say nothing. -/
def none : Settings := ⟨.none, .none, .none, .none, .none⟩

instance : Inhabited Settings := ⟨none⟩

/-- The layer `upper` over the layer `lower`. -/
def merge (lower upper : Settings) : Settings where
  cc := upper.cc.or lower.cc
  cxx := upper.cxx.or lower.cxx
  ccId := upper.ccId.or lower.ccId
  cxxId := upper.cxxId.or lower.cxxId
  target := upper.target.or lower.target

/-- The layers one over another, the first at the bottom. -/
def mergeAll (layers : List Settings) : Settings :=
  layers.foldl merge none

end Settings

end CompilerFlags
