import CompilerFlags.Language
import CompilerFlags.Path

/-!
# Toolchains

A toolchain is a pair of compilers in the style of GCC, or Microsoft's `cl`, which compiles both
languages.  `Toolchain.command` spells out the single command that builds a source file.
-/

namespace CompilerFlags

/-- The make of a compiler in the style of GCC. -/
inductive Brand
  | gcc
  | clang
  | appleClang
deriving DecidableEq, Repr

/-- The identifier of a brand. -/
def Brand.id : Brand → String
  | gcc => "gcc"
  | clang => "clang"
  | appleClang => "apple-clang"

/-- The make of a compiler. -/
inductive Make
  | gnu (brand : Brand)
  | msvc
deriving DecidableEq, Repr

/-- The identifier that is recorded for compilers of a make. -/
def Make.id : Make → String
  | gnu brand => brand.id
  | msvc => "msvc"

/-- The compilers for both languages. -/
inductive Toolchain
  /-- Compilers in the style of GCC. -/
  | gnu (cc cxx : String) (brand : Brand)
  /-- Microsoft's compiler. -/
  | msvc (cl : String)
deriving DecidableEq, Repr

/-- A source file to build. -/
structure Job where
  source : String
  /-- The object file or the program to make. -/
  output : String
  compileArguments : List String
  /-- These matter only if a program is linked. -/
  linkArguments : List String
  link : Bool
deriving DecidableEq, Repr

/-- A program with its arguments. -/
structure Command where
  program : String
  arguments : List String
deriving DecidableEq, Repr

/-- A command as it is shown in messages. -/
def Command.display (c : Command) : String :=
  Text.join " " (c.program :: c.arguments)

/-- The C++ compiler that goes with a C compiler, judged by the name. -/
def cppCompilerFor (cc : String) : String :=
  match Text.dropEnd? "gcc" cc with
  | some start => start ++ "g++"
  | none =>
    if cc = "cc" || ["/cc", "\\cc", "-cc"].any (Text.ends · cc) then
      String.ofList cc.toList.dropLast ++ "++"
    else cc ++ "++"

namespace Toolchain

/-- The make of the compilers. -/
def make : Toolchain → Make
  | gnu _ _ brand => .gnu brand
  | msvc _ => .msvc

/-- The compiler for a language. -/
def driver : Toolchain → Language → String
  | gnu cc _ _, .c => cc
  | gnu _ cxx _, .cpp => cxx
  | msvc cl, _ => cl

/-- The extension of object files. -/
def objectExtension : Toolchain → String
  | gnu _ _ _ => "o"
  | msvc _ => "obj"

/-- The extension of programs. -/
def programExtension : Toolchain → String
  | gnu _ _ _ => ""
  | msvc _ => "exe"

/-- The arguments that build a source file with a compiler in the style of GCC.  Libraries stand
after the source that needs them. -/
def gnuArguments (job : Job) : List String :=
  (if job.link then [] else ["-c"]) ++ job.compileArguments ++
    [job.source, "-o", job.output] ++ (if job.link then job.linkArguments else [])

/-- The arguments that build a source file with Microsoft's compiler. -/
def msvcArguments (l : Language) (job : Job) : List String :=
  ["/nologo"] ++ (if l = .cpp then ["/TP"] else []) ++ (if job.link then [] else ["/c"]) ++
    job.compileArguments ++ [job.source] ++
    (if job.link then
      ("/Fe" ++ job.output) ::
        (if job.linkArguments.isEmpty then [] else "/link" :: job.linkArguments)
    else ["/Fo" ++ job.output])

/-- The command that builds a source file. -/
def command (t : Toolchain) (l : Language) (job : Job) : Command where
  program := t.driver l
  arguments :=
    match t with
    | gnu _ _ _ => gnuArguments job
    | msvc _ => msvcArguments l job

end Toolchain

end CompilerFlags
