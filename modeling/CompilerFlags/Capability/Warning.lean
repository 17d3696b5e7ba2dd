import CompilerFlags.Capability.Context

/-!
# Warning capabilities

Each warning capability is a list of candidates.  With the option `error` the candidates are those
that make the warning an error; for the flags that a user gives, `escalate` finds that form.
-/

namespace CompilerFlags

namespace Warning

/-- The form of a flag that makes its warning an error.  `-Wno-X` and `-WX` become `-Werror=X`;
`/wdN` and `/woN` become `/weN`.  Other flags, and those that already ask for errors, stay. -/
def escalate (flag : String) : String :=
  if Text.starts "-Werror" flag then flag
  else
    match Text.dropStart? "-Wno-" flag, Text.dropStart? "-W" flag,
        (Text.dropStart? "/wd" flag).or (Text.dropStart? "/wo" flag) with
    | some name, _, _ => "-Werror=" ++ name
    | none, some name, _ => if name.isEmpty then flag else "-Werror=" ++ name
    | none, none, some number => "/we" ++ number
    | none, none, none => flag

/-- The compile flags that give all warnings. -/
def allFlags (error : Bool) : List String :=
  if error then ["-Werror=all", "/Wall /WX"] else ["-Wall", "/Wall"]

/-- The compile flags that give extra warnings. -/
def extraFlags (error : Bool) : List String :=
  if error then ["-Werror=extra"] else ["-Wextra"]

/-- The compile flags that warn of declarations after statements. -/
def lateDeclarationFlags (error : Bool) : List String :=
  if error then ["-Werror=declaration-after-statement"] else ["-Wdeclaration-after-statement"]

/-- The compile flags that the user gives. -/
def userFlags (options : Options) : List String :=
  if options.error then options.flags.map escalate else options.flags

/-- The search for the first of some compile flags that works. -/
def search (flags : List String) (targets : Targets) (profile : Profile) (error : Bool) :
    Search where
  candidates := flags.map Candidate.ofCompile
  targets := targets
  profile := profile
  fragment := plainFragment
  link := false
  escalated := error

/-- Looks for the first of some compile flags that works, and reports what came out. -/
def checkWith {σ : Type} (tell : Reporter σ) (ctx : Context σ) (question : String)
    (flags : List String) (options : Options) (s : Session σ) :
    Except RequestError Status × Session σ :=
  match scope options.languages options.profile with
  | .error e => (.error e, s)
  | .ok (targets, profile) =>
    let found := (search flags targets profile options.error).run ctx.compiler ctx.ids s.bench
    let status := Status.ofOutcome found.1
    (.ok status, tell { s with bench := found.2 } ⟨question, status.name, .yellow⟩)

/-- Looks for the user's flags; a request without flags makes no sense. -/
def checkUserFlagsWith {σ : Type} (tell : Reporter σ) (ctx : Context σ) (question : String)
    (options : Options) (s : Session σ) : Except RequestError Status × Session σ :=
  if options.flags.isEmpty then (.error (.missingFlags .ignoreWarning), s)
  else checkWith tell ctx question (userFlags options) options s

end Warning

end CompilerFlags
