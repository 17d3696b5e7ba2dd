import CompilerFlags.Toolchain

/-!
# The surroundings of a run

Compilers are programs, and settings and flags are kept in files.  A `World ω` is what the rest of
the library may do with such surroundings, whose state is an arbitrary type `ω`: look at variables
and files, write files, and run programs.  Everything is a function of the state, so a run of the
library is one too, and statements about it hold for all surroundings that there can be.

What the surroundings refuse is an `OsError`.  That a program which was run did not succeed is not
such an error: it is part of what the program answers.
-/

namespace CompilerFlags

/-- Why the operating system refuses something. -/
inductive OsError
  | missing
  | noDevice
  | argumentsTooLong
  | notExecutable
  | denied
  | present
  | notDirectory
  | isDirectory
  | nameTooLong
  /-- A file that should be a text is not encoded as one. -/
  | notText
  /-- A name holds the character that ends names. -/
  | nulInName
deriving DecidableEq, Repr

/-- The wording of an error of the operating system. -/
def OsError.message : OsError → String
  | missing => "No such file or directory (os error 2)"
  | noDevice => "No such device or address (os error 6)"
  | argumentsTooLong => "Argument list too long (os error 7)"
  | notExecutable => "Exec format error (os error 8)"
  | denied => "Permission denied (os error 13)"
  | present => "File exists (os error 17)"
  | notDirectory => "Not a directory (os error 20)"
  | isDirectory => "Is a directory (os error 21)"
  | nameTooLong => "File name too long (os error 36)"
  | notText => "stream did not contain valid UTF-8"
  | nulInName => "file name contained an unexpected NUL byte"

/-- What a program that was run has answered. -/
structure Finished where
  /-- The exit code; there is none if the program was stopped by force. -/
  code : Option Nat
  stdout : String
  stderr : String
deriving DecidableEq, Repr

/-- Whether a program reports success. -/
def Finished.isSuccess (f : Finished) : Bool := f.code = some 0

/-- The surroundings of a run with states of type `ω`. -/
structure World (ω : Type) where
  /-- The architecture of the machine. -/
  arch : String
  /-- The operating system of the machine. -/
  os : String
  /-- The directory in which the run takes place. -/
  directory : String
  /-- Whether the error stream is a terminal. -/
  terminal : Bool
  /-- The value of a variable of the environment. -/
  valueOf? : String → Option String
  /-- Whether something is found under a path. -/
  isPresent : String → ω → Bool
  /-- The text of a file. -/
  readText : String → ω → Except OsError String
  /-- Makes a directory and those that lead to it; they may be there already. -/
  makeDirectories : String → ω → Except OsError Unit × ω
  /-- Writes a file, in the place of an earlier one. -/
  writeText : String → String → ω → Except OsError Unit × ω
  /-- Makes a new directory for files that are soon forgotten, and tells its path. -/
  makeScratch : ω → Except OsError String × ω
  /-- The program that is found under a name on the search path. -/
  findProgram? : String → ω → Option String
  /-- Runs a command, in another directory if one is given. -/
  run : Command → Option String → ω → Except OsError Finished × ω

end CompilerFlags
