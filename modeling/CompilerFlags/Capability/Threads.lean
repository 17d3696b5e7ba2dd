import CompilerFlags.Capability.Context

/-!
# Support for POSIX threads

The check for threads looks for flags with which a threaded program links, and then records what
else the platform needs.  All flags go to the profile `pthread` unless the request names another
one.  The check has two phases.

1. *Flags.*  If the user sets thread flags in the environment and a small program links with them,
   they are taken.  If not, they are taken out again and `candidateTable` is searched.
2. *Adjustments*, only if the first phase found flags.  The attribute for joinable threads may have
   another spelling; some systems need a macro; AIX needs a compiler that builds thread-safe
   programs; and `-pthread` may be needed for linking too.

The option `error` means nothing here.
-/

namespace CompilerFlags

namespace Threads

/-- The profile that thread flags are recorded for if the request names none. -/
def defaultProfile : String := "pthread"

/-- A program that uses the thread functions; it must link. -/
def fullFragment : String :=
  "#include <pthread.h>\nint main(void) \x7b\n\tpthread_t th;\n\tpthread_join(th, 0);\n" ++
  "\tpthread_attr_init(0);\n\tpthread_cleanup_push(0, 0);\n\tpthread_create(0, 0, 0, 0);\n" ++
  "\tpthread_cleanup_pop(0);\n\treturn 0;\n\x7d\n"

/-- A program that only needs to find `pthread_join`. -/
def joinFragment : String :=
  "#include <pthread.h>\nint main(void) \x7b\n\tvoid *p = (void *)(pthread_join);\n" ++
  "\treturn p == 0;\n\x7d\n"

/-- A program that uses a thread attribute. -/
def attributeFragment (spelling : String) : String :=
  "#include <pthread.h>\nint main(void) \x7b\n  int attr=" ++ spelling ++
  ";\n  return attr;\n\x7d\n"

/-- The usual spelling of the attribute for joinable threads. -/
def joinable : String := "PTHREAD_CREATE_JOINABLE"

/-- The other spelling of the attribute for joinable threads. -/
def undetached : String := "PTHREAD_CREATE_UNDETACHED"

/-- The definition that makes the other spelling available under the usual one. -/
def joinableDefinition : String := "-D" ++ joinable ++ "=" ++ undetached

/-- The macro that a system needs for threads. -/
def platformDefinition? : Platform → Option String
  | .aix => some "-DTHREAD_SAFE"
  | .freeBsd => some "-DTHREAD_SAFE"
  | .darwin => some "-DTHREAD_SAFE"
  | .sunOs => some "-D_REENTRANT"
  | .hpUx => some "-D_REENTRANT"
  | _ => none

/-- The compilers that build thread-safe programs on AIX. -/
def aixCompilers : List String := ["gcc", "xlc_r", "cc_r"]

/-- Whether the C compiler builds thread-safe programs on the system. -/
def compilerIsSafe (platform : Platform) (cProgram : Option String) : Bool :=
  platform ≠ .aix || decide (cProgram.getD "" ∈ aixCompilers)

/-- The candidates for a system in the order of trial.  Solaris has thread functions that do
nothing in its C library, so that a plain program links: there the flags for the real library come
first. -/
def candidateTable (platform : Platform) (config : Option Candidate) : List Candidate :=
  (if platform = .sunOs then
    [.ofCompile "-pthreads", .ofLink "-lpthread", .ofCompile "-mt", .ofCompile "-pthread"]
  else []) ++
  [.ofLink "-lpthreads", .bare, .ofLink "-lthread", .ofCompile "-pthread",
    .ofCompile "-pthreads", .ofCompile "-mthreads", .ofLink "-lpthread",
    .ofCompile "--thread-safe", .ofCompile "-mt"] ++
  config.toList ++
  [.ofCompile "-Kthread", .ofCompile "-kthread"]

variable {σ : Type}

/-- What the thread configuration program says about one option; silence is no answer. -/
def ask (query : Query σ) (option : String) (m : σ) : Option String × σ :=
  let answer := query option m
  (answer.1.filter (!·.isEmpty), answer.2)

/-- The candidate made of the answers about compiling and linking. -/
def configCandidate? (compile linkOptions libraries : Option String) : Option Candidate :=
  let link := linkOptions.toList ++ libraries.toList
  if compile.isNone && link.isEmpty then none
  else some ⟨compile, if link.isEmpty then none else some (Text.join " " link)⟩

/-- Asks the thread configuration program for a candidate. -/
def consult (query : Query σ) (m : σ) : Option Candidate × σ :=
  let compile := ask query "--cflags" m
  let linkOptions := ask query "--ldflags" compile.2
  let libraries := ask query "--libs" linkOptions.2
  (configCandidate? compile.1 linkOptions.1 libraries.1, libraries.2)

/-- The candidate of the thread configuration program, if there is such a program. -/
def consultConfig (ctx : Context σ) (m : σ) : Option Candidate × σ :=
  match ctx.threadConfig with
  | none => (none, m)
  | some query => consult query m

/-- The user's thread flags with the buckets that they belong to. -/
def userEntries (flags : ThreadFlags) (targets : Targets) (profile : Profile) :
    List (Bucket × String) :=
  flags.link.toList.map (fun flag => (⟨.link, profile⟩, flag)) ++
  flags.compile.toList.flatMap fun flag =>
    targets.toList.map fun l => (⟨.compile l, profile⟩, flag)

/-- Adds entries to the store and returns those that are new. -/
def addEntries : List (Bucket × String) → Store → List (Bucket × String) × Store
  | [], s => ([], s)
  | (b, flag) :: rest, s =>
    let added := s.add b flag
    let others := addEntries rest added.2
    (if added.1 then (b, flag) :: others.1 else others.1, others.2)

/-- Takes entries out of the store. -/
def dropEntries (entries : List (Bucket × String)) (s : Store) : Store :=
  entries.foldl (fun s entry => (s.discard entry.1 entry.2).2) s

/-- Tries the user's thread flags.  If the program does not link, what was added is taken out
again. -/
def tryUserFlags (ctx : Context σ) (targets : Targets) (profile : Profile) (primary : Language)
    (w : Bench σ) : Bool × Bench σ :=
  if ctx.threadFlags.isSet then
    let added := addEntries (userEntries ctx.threadFlags targets profile) w.store
    let answer := Bench.builds ctx.compiler primary profile joinFragment true
      { w with store := added.2 }
    if answer.1 then answer
    else (false, { answer.2 with store := dropEntries added.1 answer.2.store })
  else (false, w)

/-- The search for the first of some candidates with which the threaded program links. -/
def search (candidates : List Candidate) (targets : Targets) (profile : Profile) : Search where
  candidates := candidates
  targets := targets
  profile := profile
  fragment := fullFragment
  link := true
  escalated := false

/-- Searches the table of candidates. -/
def searchTable (ctx : Context σ) (targets : Targets) (profile : Profile) (w : Bench σ) :
    Bool × Bench σ :=
  let config := consultConfig ctx w.memory
  let found := (search (candidateTable ctx.platform config.1) targets profile).run
    ctx.compiler ctx.ids { w with memory := config.2 }
  (found.1.isSuccess, found.2)

/-- The first phase: looks for flags with which threaded programs link. -/
def findFlags (ctx : Context σ) (targets : Targets) (profile : Profile) (primary : Language)
    (w : Bench σ) : Bool × Bench σ :=
  let user := tryUserFlags ctx targets profile primary w
  if user.1 then user else searchTable ctx targets profile user.2

/-- Defines the usual spelling of the joinable attribute if only the other one is known. -/
def adjustAttribute (ctx : Context σ) (profile : Profile) (primary : Language) (w : Bench σ) :
    Bench σ :=
  let usual := w.builds ctx.compiler primary profile (attributeFragment joinable) true
  if usual.1 then usual.2
  else
    let other := usual.2.builds ctx.compiler primary profile (attributeFragment undetached) true
    if other.1 then (other.2.addFlag ⟨.preprocessor, profile⟩ (some joinableDefinition)).2
    else other.2

/-- Whether some target language is compiled with `-pthread` while the linker does not get it. -/
def lacksLinkFlag (targets : Targets) (profile : Profile) (s : Store) : Bool :=
  (targets.toList.any fun l => s.contains ⟨.compile l, profile⟩ "-pthread") &&
    !s.contains ⟨.link, profile⟩ "-pthread"

/-- Gives `-pthread` to the linker too if the threaded program does not link without it. -/
def adjustLink (ctx : Context σ) (targets : Targets) (profile : Profile) (primary : Language)
    (w : Bench σ) : Bench σ :=
  if lacksLinkFlag targets profile w.store then
    let answer := w.builds ctx.compiler primary profile fullFragment true
    if answer.1 then answer.2
    else (answer.2.addFlag ⟨.link, profile⟩ (some "-pthread")).2
  else w

/-- The second phase: records what else the platform needs, and tells whether threads are
available after all. -/
def adjust (ctx : Context σ) (targets : Targets) (profile : Profile) (primary : Language)
    (w : Bench σ) : Bool × Bench σ :=
  let w := adjustAttribute ctx profile primary w
  let w := (w.addFlag ⟨.preprocessor, profile⟩ (platformDefinition? ctx.platform)).2
  (compilerIsSafe ctx.platform ctx.cProgram, adjustLink ctx targets profile primary w)

/-- Both phases. -/
def detect (ctx : Context σ) (targets : Targets) (profile : Profile) (w : Bench σ) :
    Bool × Bench σ :=
  let primary := targets.primary?.getD .c
  let found := findFlags ctx targets profile primary w
  if found.1 then adjust ctx targets profile primary found.2 else found

/-- Checks for threads and reports what came out. -/
def checkWith (tell : Reporter σ) (ctx : Context σ) (question : String) (options : Options)
    (s : Session σ) : Except RequestError Status × Session σ :=
  match scope options.languages (some (options.profile.getD defaultProfile)) with
  | .error e => (.error e, s)
  | .ok (targets, profile) =>
    let found := detect ctx targets profile s.bench
    let status := if found.1 then Status.yes else Status.no
    (.ok status, tell { s with bench := found.2 }
      ⟨question, status.name, if found.1 then .green else .red⟩)

end Threads

end CompilerFlags
