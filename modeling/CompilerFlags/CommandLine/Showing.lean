import CompilerFlags.CommandLine.Invocation

/-!
# The commands that show something

`flags` lists the recorded flags, and `toolchain` tells which compilers are used and what they build
for.  Neither changes what is recorded.
-/

namespace CompilerFlags.CommandLine

variable {ω : Type} (w : World ω)

/-! ### Flags -/

/-- The buckets that hold flags, of one profile only if one is given. -/
def shownBuckets (profile : Option Profile) (store : Store) : List (Bucket × Flags) :=
  store.filled.filter fun e => profile.all (e.1.profile = ·)

/-- Buckets as an object for programs. -/
def bucketsValue (buckets : List (Bucket × Flags)) : Value :=
  .table (buckets.map fun e => (e.1.name, .list (e.2.toList.map .text)))

/-- Lines on the output stream. -/
def outLines (lines : List String) : Output :=
  lines.foldl (fun out line => out ++ .outLine line) .empty

/-- The line for people that shows a bucket. -/
def bucketLine (e : Bucket × Flags) : String :=
  e.1.name ++ " = " ++ Text.join " " e.2.toList

/-- Buckets as they are shown on a console. -/
def showBuckets (console : Console) (path : String) (buckets : List (Bucket × Flags)) : Output :=
  if console.isJson then .outLine (Json.print (bucketsValue buckets))
  else if buckets.isEmpty then console.render (.note ("no flags recorded in " ++ path))
  else outLines (buckets.map bucketLine)

/-- The profile that is asked for, if any. -/
def askedProfile (name : Option String) : Except BucketError (Option Profile) :=
  match name with
  | none => .ok none
  | some name => (Profile.named name).map some

/-- Shows the recorded flags. -/
def flags (options : CommonOptions) (profile : Option String) (s : ω) : Ending ω :=
  let path := options.statePath w.directory
  match w.loadFlags path s with
  | .error f => .failed f .empty s
  | .ok store =>
    match askedProfile profile with
    | .error e => .failed (.ofCause (.bucket e)) .empty s
    | .ok profile =>
      .succeeded (showBuckets (options.console w) path (shownBuckets profile store)) s

/-! ### Toolchain -/

/-- The first line of a text, if the text is not empty. -/
def firstLine? (s : String) : Option String :=
  if s.isEmpty then none
  else some (String.ofList (s.toList.takeWhile (· ≠ '\n')))

/-- The identifier that is shown for the compiler of a language. -/
def shownId (t : Toolchain) (ids : CompilerIds) (l : Language) : String :=
  (ids.id? l).getD t.make.id

/-- The lines about the compiler of a language, up to its version. -/
def compilerLines (t : Toolchain) (ids : CompilerIds) (l : Language) : List String :=
  let id := shownId t ids l
  ["  " ++ Text.alignLeft 4 l.name ++ " " ++ t.driver l,
    "       id: " ++ id ++ " (" ++ (Dialect.ofId id).name ++ ")"]

/-- The line about the version of a compiler, if it says something. -/
def versionLines (version : Option String) : List String :=
  (version.bind firstLine?).toList.map fun line => "       " ++ Text.trim line

/-- The lines about the compilers of some languages. -/
def compilersLines (t : Toolchain) (ids : CompilerIds) : List Language → ω → List String × ω
  | [], s => ([], s)
  | l :: ls, s =>
    let version := w.askVersion (t.driver l) s
    let others := compilersLines t ids ls version.2
    (compilerLines t ids l ++ versionLines version.1 ++ others.1, others.2)

/-- The triple that programs are built for. -/
def shownTarget (settings : Settings) : Triple :=
  (settings.target.bind Triple.parse?).getD (.ofMachine w.arch w.os)

/-- The lines about the target. -/
def targetLines (t : Triple) : List String :=
  ["  Target: " ++ t.display, "    OS:   " ++ (Platform.ofTriple t).name]

/-- The variables that are shown. -/
def shownVariables : List String := ["CC", "CXX", "PTHREAD_CFLAGS", "PTHREAD_LIBS"]

/-- The lines about the environment. -/
def environmentLines : List String :=
  shownVariables.filterMap fun name =>
    (w.valueOf? name).map fun value => "  " ++ name ++ "=" ++ value

/-- The identifiers in the settings. -/
def settledIds (settings : Settings) : CompilerIds := ⟨settings.ccId, settings.cxxId⟩

/-- Shows a toolchain. -/
def showToolchain (settings : Settings) (t : Toolchain) (s : ω) : Output × ω :=
  let compilers := compilersLines w t (settledIds settings) Language.all s
  (outLines (["Toolchain: " ++ t.make.id, ""] ++ compilers.1 ++ [""] ++
    targetLines (shownTarget w settings) ++ ["", "Environment:"] ++ environmentLines w),
    compilers.2)

/-- Shows the toolchain of the project. -/
def toolchain (s : ω) : Ending ω :=
  let settings := w.projectSettings w.directory s
  let found := w.detect settings s
  match found.1 with
  | .error f => .failed f .empty found.2
  | .ok t =>
    let shown := showToolchain w settings t found.2
    .succeeded shown.1 shown.2

end CompilerFlags.CommandLine
