import CompilerFlags.Proofs.Search.Fixed
import Mathlib.Data.List.Perm.Basic

/-!
# The order of the target languages

The target languages of a search are tried one after another on a store that changes on the way, and
they share a link flag.  If the compiler does not learn, their order is not visible all the same.

* The trials of a candidate are made of the store from before the search, so that another order of
  the targets gives the same trials in another order (`trialsOf_perm`), and the same candidates work
  (`works_forTargets`).
* What the search leaves depends on which calls the winner had, not on their order (`leave_perm`).

Hence two searches for the same targets end alike, and their calls are the same candidate by
candidate (`run_of_targets_reordered`).
-/

namespace CompilerFlags.Search

variable {σ : Type}

/-- The same search on behalf of other target languages. -/
def forTargets (search : Search) (targets : Targets) : Search :=
  { search with targets := targets }

variable {accepts : Trial → Bool} {ids : CompilerIds} {search : Search} {targets : Targets}
  {s : Store}

/-! ## One candidate -/

/-- A candidate has the same trials for the same targets, in their order. -/
lemma trialsOf_perm (hperm : targets.toList.Perm search.targets.toList) (c : Candidate) :
    ((search.forTargets targets).trialsOf ids s c).Perm (search.trialsOf ids s c) := by
  have heligible : ((search.forTargets targets).eligibleTargets ids c).Perm
      (search.eligibleTargets ids c) :=
    hperm.filter _
  exact heligible.map _

lemma callsOf_perm (hperm : targets.toList.Perm search.targets.toList) (c : Candidate) :
    ((search.forTargets targets).callsOf accepts ids s c).Perm (search.callsOf accepts ids s c) :=
  (trialsOf_perm hperm c).map _

/-- The same candidates work for the same targets. -/
lemma works_forTargets (hperm : targets.toList.Perm search.targets.toList) :
    (search.forTargets targets).works accepts ids s = search.works accepts ids s := by
  funext c
  rw [works, works, Bool.eq_iff_iff, List.any_eq_true, List.any_eq_true]
  refine exists_congr fun t => and_congr_left fun _ => ?_
  exact (trialsOf_perm hperm c).mem_iff

/-- What is left of a store does not depend on the order of the winner's calls. -/
lemma leave_perm {c : Candidate} {calls calls' : List Call} (h : calls.Perm calls') (b : Bucket) :
    (search.leave s (some (c, calls))).get b = (search.leave s (some (c, calls'))).get b := by
  rw [leave, leave, get_keep, get_keep]
  refine if_congr ?_ rfl rfl
  exact exists_congr fun call => and_congr_left fun _ => h.mem_iff

/-! ## The whole search -/

/-- The same candidates are tried for the same targets. -/
lemma tried_forTargets (hperm : targets.toList.Perm search.targets.toList) (cs : List Candidate) :
    (search.forTargets targets).tried accepts ids s cs = search.tried accepts ids s cs := by
  induction cs with
  | nil => rfl
  | cons c cs ih => rw [tried, tried, works_forTargets hperm, ih]

/-- The same candidate wins for the same targets, if any does, and its calls are the same but for
their order. -/
lemma winner?_forTargets (accepts : Trial → Bool) (ids : CompilerIds) (s : Store)
    (hperm : targets.toList.Perm search.targets.toList) (cs : List Candidate) :
    ((search.forTargets targets).winner? accepts ids s cs = none ∧
      search.winner? accepts ids s cs = none) ∨
    ∃ c calls calls', (search.forTargets targets).winner? accepts ids s cs = some (c, calls) ∧
      search.winner? accepts ids s cs = some (c, calls') ∧ calls.Perm calls' := by
  unfold winner?
  rw [works_forTargets hperm]
  cases cs.find? (search.works accepts ids s) with
  | none => exact Or.inl ⟨rfl, rfl⟩
  | some c => exact Or.inr ⟨c, _, _, rfl, rfl, callsOf_perm hperm c⟩

section

variable {compiler : Compiler σ}

/-- The calls of the search for the same targets, candidate by candidate. -/
lemma calls_forTargets (h : compiler.Answers accepts) (ids : CompilerIds)
    (hperm : targets.toList.Perm search.targets.toList) (w : Bench σ) :
    (search.forTargets targets).calls compiler ids w =
      (search.tried accepts ids w.store search.candidates).flatMap
        ((search.forTargets targets).callsOf accepts ids w.store) := by
  rw [calls_of_answers h ids (search.forTargets targets) w, tried_forTargets hperm]
  rfl

/-- A search for the same targets ends in the same way and leaves a store that reads the same. -/
lemma run_forTargets (h : compiler.Answers accepts) (ids : CompilerIds)
    (hperm : targets.toList.Perm search.targets.toList) (w : Bench σ) :
    ((search.forTargets targets).run compiler ids w).1 = (search.run compiler ids w).1 ∧
      ∀ b, ((search.forTargets targets).run compiler ids w).2.store.get b =
        (search.run compiler ids w).2.store.get b := by
  let other := search.forTargets targets
  -- a call is made in both searches or in neither, which is all that the outcome needs to know
  have hempty : (other.calls compiler ids w).isEmpty = (search.calls compiler ids w).isEmpty := by
    rw [calls_of_answers h ids search w, calls_forTargets h ids hperm w]
    exact (List.Perm.flatMap_left _ fun c _ => callsOf_perm hperm c).isEmpty_eq
  obtain ⟨houtcome, hread⟩ := run_of_answers h ids search w
  obtain ⟨houtcome', hread'⟩ := run_of_answers h ids other w
  have hcandidates : other.candidates = search.candidates := rfl
  rw [hcandidates] at houtcome' hread'
  rcases winner?_forTargets accepts ids w.store hperm search.candidates with
    ⟨hnone', hnone⟩ | ⟨c, calls, calls', hsome', hsome, hwinner⟩
  · rw [hnone'] at houtcome' hread'
    rw [hnone] at houtcome hread
    refine ⟨?_, fun b => (hread' b trivial).trans (hread b trivial).symm⟩
    rw [houtcome', houtcome, outcomeOf, outcomeOf, hempty]
  · rw [hsome'] at houtcome' hread'
    rw [hsome] at houtcome hread
    refine ⟨houtcome'.trans houtcome.symm, fun b => ?_⟩
    calc (other.run compiler ids w).2.store.get b
        = (other.leave w.store (some (c, calls))).get b := hread' b trivial
      _ = (search.leave w.store (some (c, calls))).get b := rfl
      _ = (search.leave w.store (some (c, calls'))).get b := leave_perm hwinner b
      _ = (search.run compiler ids w).2.store.get b := (hread b trivial).symm

end

/-- If the compiler does not learn, the order of the target languages makes no difference: the
search ends in the same way, leaves a store that reads the same, and makes the same calls for the
same candidates, up to the order of the calls for one candidate. -/
theorem run_of_targets_reordered {compiler : Compiler σ} (h : compiler.Answers accepts)
    (ids : CompilerIds) (search : Search) (targets : Targets)
    (hsame : ∀ l, l ∈ targets ↔ l ∈ search.targets) (w : Bench σ) :
    let other := search.forTargets targets
    let tried := search.tried accepts ids w.store search.candidates
    (other.run compiler ids w).1 = (search.run compiler ids w).1 ∧
      (∀ b, ((other.run compiler ids w).2.store.get b).toList =
        ((search.run compiler ids w).2.store.get b).toList) ∧
      other.calls compiler ids w = tried.flatMap (other.callsOf accepts ids w.store) ∧
      search.calls compiler ids w = tried.flatMap (search.callsOf accepts ids w.store) ∧
      ∀ c ∈ tried,
        (other.callsOf accepts ids w.store c).Perm (search.callsOf accepts ids w.store c) := by
  intro other tried
  have hperm : targets.toList.Perm search.targets.toList :=
    (List.perm_ext_iff_of_nodup targets.nodup search.targets.nodup).2 hsame
  obtain ⟨houtcome, hread⟩ := run_forTargets h ids hperm w
  refine ⟨houtcome, ?_, calls_forTargets h ids hperm w, calls_of_answers h ids search w, ?_⟩
  · intro b
    exact congrArg OrderedSet.toList (hread b)
  · intro c _
    exact callsOf_perm hperm c

/-- Here the second candidate is refused by C, where its compile flag is recorded already, and
accepted by C++; its link flag is new.  The calls change places with the languages. -/
theorem run_of_targets_swapped :
    let accepts : Trial → Bool := fun t => t.linkFlags.contains "-lm" && t.language = .cpp
    let compiler : Compiler Nat := fun t m => (accepts t, m + 1)
    let search : Search :=
      { candidates := [.ofCompile "-Wall", ⟨some "-Wextra", some "-lm"⟩, .bare]
        targets := .both
        profile := ⟨"strict", by decide⟩
        fragment := plainFragment
        link := true
        escalated := false }
    let targets : Targets := ⟨[.cpp, .c], by decide⟩
    let w : Bench Nat :=
      ⟨0, Store.empty.record ⟨.compile .c, ⟨"strict", by decide⟩⟩ (some "-Wextra")⟩
    compiler.Answers accepts ∧ (∀ l, l ∈ targets ↔ l ∈ search.targets) ∧
      (search.forTargets targets).calls compiler .none w ≠ search.calls compiler .none w ∧
      ((search.forTargets targets).run compiler .none w).1 = (search.run compiler .none w).1 ∧
      (∀ b, (((search.forTargets targets).run compiler .none w).2.store.get b).toList =
        ((search.run compiler .none w).2.store.get b).toList) ∧
      ∀ c ∈ search.tried accepts .none w.store search.candidates,
        ((search.forTargets targets).callsOf accepts .none w.store c).Perm
          (search.callsOf accepts .none w.store c) := by
  intro accepts compiler search targets w
  have hanswers : compiler.Answers accepts := fun _ _ => rfl
  have hsame : ∀ l, l ∈ targets ↔ l ∈ search.targets := by
    intro l
    cases l <;> decide
  have hswapped : (search.forTargets targets).calls compiler .none w ≠
      search.calls compiler .none w := by
    decide +kernel
  obtain ⟨houtcome, hread, _, _, hperm⟩ :=
    run_of_targets_reordered hanswers .none search targets hsame w
  exact ⟨hanswers, hsame, hswapped, houtcome, hread, hperm⟩

end CompilerFlags.Search
