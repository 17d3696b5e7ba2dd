import CompilerFlags.Candidate
import CompilerFlags.Dialect
import CompilerFlags.Store
import CompilerFlags.Trial

/-!
# The search for a candidate that works

A search walks a list of candidates and stops at the first one that some target language accepts.
Flags are added to the store before they are tried, so that a trial sees them together with all
flags recorded earlier; what a trial refuses is taken out again before the next one.

* A candidate is tried for the languages whose dialect accepts its compile flag.  If there is
  none, the candidate is passed over without a trial.
* Its link flag is shared by the languages and stays if one of them accepts the candidate; its
  compile flag stays in the bucket of each language that accepts it.
* A flag that was recorded before is never taken out.

The state of a search is a `Bench`: the memory of the compiler and the store.  All functions here
are total and take the compiler as an arbitrary function of its memory.
-/

namespace CompilerFlags

/-- What a search works on: the memory of the compiler and the flags recorded so far. -/
structure Bench (σ : Type) where
  memory : σ
  store : Store

/-- How a search ended. -/
inductive Outcome
  /-- No compiler was asked. -/
  | notAttempted
  /-- All trials failed. -/
  | refused
  /-- A candidate was accepted. -/
  | accepted
  /-- A candidate was accepted that makes the warnings errors. -/
  | enforced
deriving DecidableEq, Repr

/-- Whether a candidate was found. -/
def Outcome.isSuccess : Outcome → Bool
  | notAttempted => false
  | refused => false
  | accepted => true
  | enforced => true

/-- The trial that builds a fragment with the flags recorded for a profile. -/
def Store.trial (s : Store) (l : Language) (profile : Profile) (fragment : String) (link : Bool) :
    Trial where
  fragment := fragment
  language := l
  compileFlags := (s.gather [.preprocessor, .compile l] profile).toList
  linkFlags := if link then (s.gather [.link] profile).toList else []
  link := link

/-- What is looked for, and on whose behalf. -/
structure Search where
  candidates : List Candidate
  targets : Targets
  profile : Profile
  fragment : String
  /-- Whether a program is linked in each trial. -/
  link : Bool
  /-- Whether the candidates make the warnings errors. -/
  escalated : Bool

variable {σ : Type}

/-- Asks the compiler whether a fragment builds with the recorded flags. -/
def Bench.builds (compiler : Compiler σ) (l : Language) (profile : Profile) (fragment : String)
    (link : Bool) (w : Bench σ) : Bool × Bench σ :=
  let answer := compiler (w.store.trial l profile fragment link) w.memory
  (answer.1, { w with memory := answer.2 })

/-- Adds a flag, if there is one, and tells whether it was new. -/
def Bench.addFlag (b : Bucket) (flag : Option String) (w : Bench σ) : Bool × Bench σ :=
  match flag with
  | none => (false, w)
  | some flag =>
    let added := w.store.add b flag
    (added.1, { w with store := added.2 })

/-- Takes a flag out, if there is one. -/
def Bench.dropFlag (b : Bucket) (flag : Option String) (w : Bench σ) : Bench σ :=
  match flag with
  | none => w
  | some flag => { w with store := (w.store.discard b flag).2 }

namespace Search

/-- Whether a candidate may be shown to the compiler of a language. -/
def eligible (ids : CompilerIds) (c : Candidate) (l : Language) : Bool :=
  match c.compile with
  | some flag => (ids.dialect l).accepts flag
  | none => true

/-- Tries a candidate for one language; its compile flag stays if it works or was there before. -/
def tryLanguage (compiler : Compiler σ) (search : Search) (c : Candidate) (l : Language)
    (w : Bench σ) : Bool × Bench σ :=
  let bucket : Bucket := ⟨.compile l, search.profile⟩
  let added := w.addFlag bucket c.compile
  let answer := added.2.builds compiler l search.profile search.fragment search.link
  if !answer.1 && added.1 then (answer.1, answer.2.dropFlag bucket c.compile) else answer

/-- Tries a candidate for one language after another, and tells whether one accepted it. -/
def tryLanguages (compiler : Compiler σ) (search : Search) (c : Candidate) :
    List Language → Bench σ → Bool × Bench σ
  | [], w => (false, w)
  | l :: ls, w =>
    let first := tryLanguage compiler search c l w
    let others := tryLanguages compiler search c ls first.2
    (first.1 || others.1, others.2)

/-- Tries a candidate for all given languages; its link flag stays if one of them accepts the
candidate or if it was there before. -/
def tryCandidate (compiler : Compiler σ) (search : Search) (c : Candidate) (ls : List Language)
    (w : Bench σ) : Bool × Bench σ :=
  let bucket : Bucket := ⟨.link, search.profile⟩
  let added := w.addFlag bucket c.link
  let answer := tryLanguages compiler search c ls added.2
  if !answer.1 && added.1 then (answer.1, answer.2.dropFlag bucket c.link) else answer

/-- The target languages that a candidate is tried for. -/
def eligibleTargets (ids : CompilerIds) (search : Search) (c : Candidate) : List Language :=
  search.targets.toList.filter (eligible ids c)

/-- Walks the candidates; `asked` tells whether a compiler was asked before. -/
def walk (compiler : Compiler σ) (ids : CompilerIds) (search : Search) (asked : Bool) :
    List Candidate → Bench σ → Outcome × Bench σ
  | [], w => (if asked then .refused else .notAttempted, w)
  | c :: cs, w =>
    match search.eligibleTargets ids c with
    | [] => walk compiler ids search asked cs w
    | l :: ls =>
      let answer := tryCandidate compiler search c (l :: ls) w
      if answer.1 then (if search.escalated then .enforced else .accepted, answer.2)
      else walk compiler ids search true cs answer.2

/-- Walks the candidates of a search and records the first one that works. -/
def run (compiler : Compiler σ) (ids : CompilerIds) (search : Search) (w : Bench σ) :
    Outcome × Bench σ :=
  walk compiler ids search false search.candidates w

end Search

end CompilerFlags
