import CompilerFlags.Triple

/-!
# Operating systems

The operating system of the target decides which thread flags are tried first and which macros
are defined.  A name is classified by how it starts, so that `aix7.2` is AIX; a name that is not
known is kept, in small letters and without outer blanks.

In a triple the system stands in the third place, but short triples such as `x86_64-linux-gnu`
have it in the second.
-/

namespace CompilerFlags

/-- The operating system that programs are built for. -/
inductive Platform
  | linux
  | darwin
  | freeBsd
  | aix
  | sunOs
  | hpUx
  | windows
  /-- A system that needs nothing special. -/
  | other (name : String)
deriving DecidableEq, Repr

namespace Platform

/-- The name of the system in reports. -/
def name : Platform → String
  | linux => "linux"
  | darwin => "darwin"
  | freeBsd => "freebsd"
  | aix => "aix"
  | sunOs => "sunos"
  | hpUx => "hpux"
  | windows => "win32"
  | other name => name

/-- How the names of the known systems start.  No entry is the start of an entry for another
system, so the order of the table does not matter. -/
def knownStarts : List (String × Platform) :=
  [("linux", linux), ("darwin", darwin), ("macos", darwin), ("freebsd", freeBsd), ("aix", aix),
    ("solaris", sunOs), ("sunos", sunOs), ("illumos", sunOs), ("hpux", hpUx),
    ("windows", windows), ("win32", windows), ("mingw", windows), ("cygwin", windows)]

/-- The first system of a table whose entry the name starts with. -/
def findIn? (table : List (String × Platform)) (name : String) : Option Platform :=
  (table.find? fun entry => Text.starts entry.1 name).map (·.2)

/-- The known system that a name stands for. -/
def known? (name : String) : Option Platform :=
  findIn? knownStarts (Text.lower (Text.trim name))

/-- The system that a name stands for; case and outer blanks do not matter. -/
def ofName (name : String) : Platform :=
  (known? name).getD (other (Text.lower (Text.trim name)))

/-- The system of a triple: what its third part names, else what its second part names. -/
def ofTriple (t : Triple) : Platform :=
  ((known? t.os).or (known? t.vendor)).getD (ofName t.os)

end Platform

end CompilerFlags
