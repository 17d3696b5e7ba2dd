import CompilerFlags.Text

/-!
# Target triples

A triple such as `x86_64-unknown-linux-gnu` names the machine that programs are built for.  It is
read from a text whose parts are separated by dashes: at least three, none of them empty.  The
fourth part, if any, is the environment; parts after it are not kept.
-/

namespace CompilerFlags

/-- The machine that programs are built for. -/
structure Triple where
  arch : String
  vendor : String
  os : String
  environment : Option String
deriving DecidableEq, Repr

namespace Triple

/-- The triple that the parts of a text stand for. -/
def ofParts? (parts : List String) : Option Triple :=
  if parts.any (·.isEmpty) then none
  else
    match parts with
    | arch :: vendor :: os :: rest => some ⟨arch, vendor, os, rest.head?⟩
    | _ => none

/-- Reads a triple; outer blanks do not matter. -/
def parse? (s : String) : Option Triple :=
  ofParts? (Text.splitAt '-' (Text.trim s))

/-- The usual triple of a machine with an architecture and an operating system. -/
def ofMachine (arch os : String) : Triple :=
  if os = "linux" then ⟨arch, "unknown", os, some "gnu"⟩
  else if os = "macos" then ⟨arch, "apple", os, none⟩
  else if os = "windows" then ⟨arch, "pc", os, some "msvc"⟩
  else ⟨arch, "unknown", os, none⟩

/-- The parts of a triple. -/
def parts (t : Triple) : List String :=
  t.arch :: t.vendor :: t.os :: t.environment.toList

/-- The text of a triple. -/
def display (t : Triple) : String :=
  Text.join "-" t.parts

end Triple

end CompilerFlags
