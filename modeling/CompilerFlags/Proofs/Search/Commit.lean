import CompilerFlags.Proofs.Search.Course
import CompilerFlags.Proofs.Store.Growth
import Mathlib.Data.List.Nodup

/-!
# What a search asks and what it leaves

The main results about a single search, for every compiler and whatever it remembers.

* The trials of a search are those of its candidates, in their order, up to the first candidate that
  some language accepts.  Every trial is made of the store from before the search together with the
  flags of one candidate, hence neither a refused candidate nor the other language leaves a trace in
  a later trial.
* If a candidate was accepted, its compile flag is recorded for the languages that accepted it and
  its link flag is recorded once; everything else reads as before.  If none was accepted, everything
  reads as before.
-/

namespace CompilerFlags.Search

variable {σ : Type}

lemma language_trialsOf (ids : CompilerIds) (search : Search) (s : Store) (c : Candidate) :
    (search.trialsOf ids s c).map Trial.language = search.eligibleTargets ids c := by
  rw [trialsOf, List.map_map]
  exact List.map_id _

/-- The languages of calls, given their trials. -/
lemma language_of_trials {ids : CompilerIds} {search : Search} {s : Store} {c : Candidate}
    {calls : List Call} (h : calls.map Call.trial = search.trialsOf ids s c) :
    (calls.map fun call => call.trial.language) = search.eligibleTargets ids c := by
  rw [← language_trialsOf ids search s c, ← h, List.map_map]
  rfl

/-- The languages of calls for several candidates, given their trials. -/
lemma language_of_flatMap_trials {ids : CompilerIds} {search : Search} {s : Store}
    {cs : List Candidate} {calls : List Call}
    (h : calls.map Call.trial = cs.flatMap (search.trialsOf ids s)) :
    (calls.map fun call => call.trial.language) = cs.flatMap (search.eligibleTargets ids) := by
  have hmap := congrArg (List.map Trial.language) h
  rw [List.map_map, List.map_flatMap] at hmap
  exact hmap.trans (List.flatMap_congr fun c _ => language_trialsOf ids search s c)

/-- Languages that are listed without repetition have at most one call each. -/
lemma eq_of_language_eq {calls : List Call}
    (h : (calls.map fun call => call.trial.language).Nodup) {call call' : Call} (hcall : call ∈ calls)
    (hcall' : call' ∈ calls) (heq : call.trial.language = call'.trial.language) : call = call' :=
  List.inj_on_of_nodup_map h hcall hcall' heq

/-- What is read from a compile bucket after the flags of an accepted candidate were recorded. -/
lemma get_leave_compile {search : Search} {s : Store} {c : Candidate} {calls : List Call}
    (h : (calls.map fun call => call.trial.language).Nodup) {call : Call} (hcall : call ∈ calls) :
    (search.leave s (some (c, calls))).get ⟨.compile call.trial.language, search.profile⟩ =
      if call.answer then
        (s.get ⟨.compile call.trial.language, search.profile⟩).insert? c.compile
      else s.get ⟨.compile call.trial.language, search.profile⟩ := by
  have hlink : (⟨.compile call.trial.language, search.profile⟩ : Bucket) ≠
      ⟨.link, search.profile⟩ := by
    simp
  rw [leave, get_keep, Store.get_record_of_ne hlink]
  refine if_congr ?_ rfl rfl
  constructor
  · rintro ⟨call', hcall', hanswer, heq⟩
    simp only [Bucket.mk.injEq, FlagKind.compile.injEq, and_true] at heq
    rwa [eq_of_language_eq h hcall hcall' heq]
  · exact fun hanswer => ⟨call, hcall, hanswer, rfl⟩

/-- What is read from the link bucket after the flags of an accepted candidate were recorded. -/
lemma get_leave_link (search : Search) (s : Store) (c : Candidate) (calls : List Call) :
    (search.leave s (some (c, calls))).get ⟨.link, search.profile⟩ =
      (s.get ⟨.link, search.profile⟩).insert? c.link := by
  rw [leave, get_keep, if_neg, Store.get_record_self]
  rintro ⟨call, _, _, heq⟩
  simp at heq

/-- No other bucket reads differently after the flags of an accepted candidate were recorded. -/
lemma get_leave_of_ne {search : Search} (s : Store) (c : Candidate) {calls : List Call} {b : Bucket}
    (hlink : b ≠ ⟨.link, search.profile⟩)
    (hcompile : ∀ call ∈ calls, b ≠ ⟨.compile call.trial.language, search.profile⟩) :
    (search.leave s (some (c, calls))).get b = s.get b := by
  rw [leave, get_keep, if_neg, Store.get_record_of_ne hlink]
  rintro ⟨call, hcall, _, heq⟩
  exact hcompile call hcall heq

/-- A search adds at most one flag to each bucket: the compile flag of a candidate to the compile
buckets of the target languages, or its link flag to the link bucket. -/
lemma get_run {P : Bucket → Prop} (compiler : Compiler σ) (ids : CompilerIds)
    (search : Search) (hcompile : ∀ l ∈ search.targets, P ⟨.compile l, search.profile⟩)
    (hlink : ∀ c ∈ search.candidates, P ⟨.link, search.profile⟩ ∨ c.link = none) (w : Bench σ)
    (b : Bucket) :
    ∃ flag, (search.run compiler ids w).2.store.get b = (w.store.get b).insert? flag ∧
      (P b ∨ flag = none) := by
  obtain ⟨winner, hcourse, _, hread⟩ := search.exists_course compiler ids w
  rw [hread b trivial]
  cases winner with
  | none => exact ⟨none, rfl, Or.inr rfl⟩
  | some winner =>
    obtain ⟨c, final⟩ := winner
    obtain ⟨hc, hfinal⟩ := hcourse.winner_mem
    have hlanguage : ∀ call ∈ final, call.trial.language ∈ search.targets := by
      intro call hcall
      have hmem := List.mem_map_of_mem (f := fun call => call.trial.language) hcall
      rw [language_of_trials hfinal] at hmem
      exact List.mem_of_mem_filter hmem
    rw [leave, get_keep]
    split
    · next hkept =>
      obtain ⟨call, hcall, _, rfl⟩ := hkept
      rw [Store.get_record_of_ne (by simp)]
      exact ⟨c.compile, rfl, Or.inl (hcompile _ (hlanguage call hcall))⟩
    · rw [Store.get_record]
      split
      · next hb => exact ⟨c.link, by rw [hb], hb ▸ hlink c hc⟩
      · exact ⟨none, rfl, Or.inr rfl⟩

/-- A search without success leaves a store that reads as before. -/
lemma run_agree {compiler : Compiler σ} {ids : CompilerIds} {search : Search} {w : Bench σ}
    (h : (search.run compiler ids w).1.isSuccess = false) :
    w.store.AgreeOn (fun _ => True) (search.run compiler ids w).2.store := by
  obtain ⟨winner, _, houtcome, hread⟩ := search.exists_course compiler ids w
  rw [houtcome, isSuccess_outcomeOf] at h
  cases winner with
  | none => exact hread.symm
  | some winner => cases h

/-- A search that succeeds says whether its candidates make the warnings errors. -/
lemma outcome_of_isSuccess {compiler : Compiler σ} {ids : CompilerIds} {search : Search}
    {w : Bench σ} (h : (search.run compiler ids w).1.isSuccess = true) :
    (search.run compiler ids w).1 = if search.escalated then .enforced else .accepted := by
  obtain ⟨winner, _, houtcome, _⟩ := search.exists_course compiler ids w
  rw [houtcome, isSuccess_outcomeOf] at h
  rw [houtcome]
  cases winner with
  | none => cases h
  | some winner => rfl

/-- The outcome of a search and the store that it leaves, in terms of its calls. -/
theorem run_commits_or_rolls_back (compiler : Compiler σ) (ids : CompilerIds) (search : Search)
    (w : Bench σ) :
    let result := search.run compiler ids w
    let calls := search.calls compiler ids w
    let before := fun b => (w.store.get b).toList
    let after := fun b => (result.2.store.get b).toList
    ((∃ call ∈ calls, call.answer = true) →
      result.1 = (if search.escalated then .enforced else .accepted) ∧
      ∃ earlier c later failed final,
        -- the last calls are those of `c`, one for each language that it is eligible for
        search.candidates = earlier ++ c :: later ∧ calls = failed ++ final ∧ final ≠ [] ∧
        (failed.map fun call => call.trial.language) =
          earlier.flatMap (search.eligibleTargets ids) ∧
        (final.map fun call => call.trial.language) = search.eligibleTargets ids c ∧
        (∀ call ∈ final,
          after ⟨.compile call.trial.language, search.profile⟩ =
            if call.answer then
              appendNew (before ⟨.compile call.trial.language, search.profile⟩) c.compile
            else before ⟨.compile call.trial.language, search.profile⟩) ∧
        after ⟨.link, search.profile⟩ = appendNew (before ⟨.link, search.profile⟩) c.link ∧
        ∀ b, b ≠ ⟨.link, search.profile⟩ →
          (∀ l ∈ search.eligibleTargets ids c, b ≠ ⟨.compile l, search.profile⟩) →
          after b = before b) ∧
    ((∀ call ∈ calls, call.answer = false) → ∀ b, after b = before b) ∧
    (result.1 = .notAttempted ↔ calls = []) ∧
    (result.1 = .refused ↔ calls ≠ [] ∧ ∀ call ∈ calls, call.answer = false) := by
  intro result calls before after
  obtain ⟨winner, hcourse, houtcome, hread⟩ := search.exists_course compiler ids w
  have hresult : result.1 = search.outcomeOf false calls winner := houtcome
  refine ⟨fun hanswer => ?_, fun hanswers b => ?_, ?_, ?_⟩
  · obtain ⟨⟨c, final⟩, rfl⟩ := Option.isSome_iff_exists.1 (hcourse.isSome_iff.2 hanswer)
    obtain ⟨earlier, later, failed, hcs, hcalls, hfailed, _, hfinal, call, hcall, _⟩ :=
      hcourse.of_eq_some rfl
    have hlanguages := language_of_trials hfinal
    have hnodup : (final.map fun call => call.trial.language).Nodup :=
      hlanguages ▸ nodup_eligibleTargets ids search c
    refine ⟨hresult, earlier, c, later, failed, final, hcs, hcalls, List.ne_nil_of_mem hcall,
      language_of_flatMap_trials hfailed, hlanguages, ?_, ?_, ?_⟩
    · intro call' hcall'
      show (result.2.store.get _).toList = _
      rw [hread _ trivial, get_leave_compile hnodup hcall']
      split
      · exact OrderedSet.toList_insert? _ _
      · rfl
    · show (result.2.store.get _).toList = _
      rw [hread _ trivial, get_leave_link]
      exact OrderedSet.toList_insert? _ _
    · intro b hlink hcompile
      show (result.2.store.get _).toList = _
      rw [hread _ trivial, get_leave_of_ne w.store c hlink]
      intro call' hcall' heq
      refine hcompile call'.trial.language ?_ heq
      rw [← hlanguages]
      exact List.mem_map_of_mem (f := fun call => call.trial.language) hcall'
  · obtain rfl := hcourse.eq_none hanswers
    exact congrArg OrderedSet.toList (hread b trivial)
  · rw [hresult]
    exact hcourse.outcomeOf_eq_notAttempted
  · rw [hresult]
    exact hcourse.outcomeOf_eq_refused

end CompilerFlags.Search
