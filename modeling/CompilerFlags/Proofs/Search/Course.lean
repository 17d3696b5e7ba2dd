import CompilerFlags.Proofs.Search.Alike

/-!
# The course of a search

A search tries flags by adding them to the store in which it keeps what it has found, and takes out
again what is refused.  This module shows that none of this is visible from outside.

A compiler that is `recorded` keeps a list of its calls, each a trial with its answer.  A `Course`
says which calls are possible: the candidates come in their order, each with one trial for each
language that it is eligible for, and the first candidate that is accepted by some language is the
last one.  All trials of a course are made of the store from *before* the search, with the flags of
one candidate added (`Search.trialOf`).

* `exists_course` shows that every search follows a course, whatever its compiler remembers, and that
  it leaves a store that reads as before, up to the flags of the accepted candidate.
* `Course.of_eq_none` and `Course.of_eq_some` read the candidates and the calls off a course.
-/

namespace CompilerFlags

variable {σ : Type}

/-! ## Recording calls -/

/-- A trial and its answer. -/
structure Call where
  trial : Trial
  answer : Bool
deriving DecidableEq, Repr

/-- The compiler that keeps a record of its calls, the oldest first. -/
def Compiler.recorded (compiler : Compiler σ) : Compiler (σ × List Call) := fun t m =>
  let answer := compiler t m.1
  (answer.1, answer.2, m.2 ++ [⟨t, answer.1⟩])

/-- Keeping a record changes neither the answers nor the rest of the memory. -/
lemma Compiler.recorded_alike (compiler : Compiler σ) :
    compiler.recorded.Alike (fun m n => m.1 = n) compiler := by
  rintro t m n rfl
  exact ⟨rfl, rfl⟩

/-- The bench on which a compiler begins its record. -/
def Bench.unrecorded (w : Bench σ) : Bench (σ × List Call) :=
  ⟨(w.memory, []), w.store⟩

/-- The calls of a search, the oldest first. -/
def Search.calls (compiler : Compiler σ) (ids : CompilerIds) (search : Search) (w : Bench σ) :
    List Call :=
  (search.run compiler.recorded ids w.unrecorded).2.memory.2

/-- A search with a record is the search without it. -/
lemma Search.run_recorded (compiler : Compiler σ) (ids : CompilerIds) (search : Search)
    (w : Bench σ) :
    Bench.SameAnswer (fun m n => m.1 = n) (fun _ => True)
      (search.run compiler.recorded ids w.unrecorded) (search.run compiler ids w) :=
  run_alike compiler.recorded_alike ids search (fun _ _ _ _ => trivial) ⟨rfl, .refl _⟩

/-! ## Courses -/

namespace Search

/-- The trial of a candidate in a language: the flags that a store holds for the language and the
profile of the search, together with the flags of the candidate. -/
def trialOf (search : Search) (s : Store) (c : Candidate) (l : Language) : Trial :=
  let s' := (s.record ⟨.link, search.profile⟩ c.link).record ⟨.compile l, search.profile⟩ c.compile
  { fragment := search.fragment
    language := l
    compileFlags := (s'.gather [.preprocessor, .compile l] search.profile).toList
    linkFlags := if search.link then (s'.gather [.link] search.profile).toList else []
    link := search.link }

/-- The trials of a candidate, one for each target language that it is eligible for. -/
def trialsOf (ids : CompilerIds) (search : Search) (s : Store) (c : Candidate) : List Trial :=
  (search.eligibleTargets ids c).map (search.trialOf s c)

/-- The calls that a search can make, and the candidate that is accepted at the end, if any, with
its calls. -/
inductive Course (ids : CompilerIds) (search : Search) (s : Store) :
    List Candidate → List Call → Option (Candidate × List Call) → Prop
  /-- There is no further candidate. -/
  | finished : Course ids search s [] [] none
  /-- A candidate is refused in all languages, or not even tried. -/
  | refused {c : Candidate} {cs : List Candidate} {calls later : List Call}
      {winner : Option (Candidate × List Call)} :
      calls.map Call.trial = search.trialsOf ids s c → (∀ call ∈ calls, call.answer = false) →
      Course ids search s cs later winner → Course ids search s (c :: cs) (calls ++ later) winner
  /-- A candidate is accepted in some language; it is the last one. -/
  | accepted {c : Candidate} {cs : List Candidate} {calls : List Call} :
      calls.map Call.trial = search.trialsOf ids s c → (∃ call ∈ calls, call.answer = true) →
      Course ids search s (c :: cs) calls (some (c, calls))

/-- A course is the same on stores that make the same trials. -/
lemma Course.congr {ids : CompilerIds} {search : Search} {s t : Store}
    (h : search.trialsOf ids s = search.trialsOf ids t) {cs : List Candidate} {calls : List Call}
    {winner : Option (Candidate × List Call)} (hcourse : Course ids search s cs calls winner) :
    Course ids search t cs calls winner := by
  induction hcourse with
  | finished => exact .finished
  | refused htrials hanswers _ ih => exact .refused (h ▸ htrials) hanswers ih
  | accepted htrials hanswer => exact .accepted (h ▸ htrials) hanswer

/-- The store after the compile flag of a candidate was recorded for the languages that accepted
it. -/
def keep (search : Search) (c : Candidate) (calls : List Call) (s : Store) : Store :=
  calls.foldl (fun s call =>
    if call.answer then s.record ⟨.compile call.trial.language, search.profile⟩ c.compile else s) s

/-- What a search leaves of a store, given the accepted candidate and its calls. -/
def leave (search : Search) (s : Store) : Option (Candidate × List Call) → Store
  | none => s
  | some (c, calls) => search.keep c calls (s.record ⟨.link, search.profile⟩ c.link)

/-- The outcome of a search, given its calls and the accepted candidate. -/
def outcomeOf (search : Search) (asked : Bool) (calls : List Call) :
    Option (Candidate × List Call) → Outcome
  | none => if asked || !calls.isEmpty then .refused else .notAttempted
  | some _ => if search.escalated then .enforced else .accepted

/-- A search succeeds if it has accepted a candidate. -/
lemma isSuccess_outcomeOf (search : Search) (asked : Bool) (calls : List Call)
    (winner : Option (Candidate × List Call)) :
    (search.outcomeOf asked calls winner).isSuccess = winner.isSome := by
  cases winner with
  | none =>
    unfold outcomeOf
    dsimp only
    split
    · rfl
    · rfl
  | some winner =>
    unfold outcomeOf
    dsimp only
    split
    · rfl
    · rfl

/-- A call that failed counts as asked for the rest of the search. -/
lemma outcomeOf_append (search : Search) (asked : Bool) {calls : List Call} (hcalls : calls ≠ [])
    (later : List Call) (winner : Option (Candidate × List Call)) :
    search.outcomeOf asked (calls ++ later) winner = search.outcomeOf true later winner := by
  cases winner with
  | none => simp [outcomeOf, hcalls]
  | some winner => rfl

variable {P : Bucket → Prop} {s t : Store}

lemma trialOf_congr (search : Search) (h : s.AgreeOn (fun _ => True) t) (c : Candidate)
    (l : Language) : search.trialOf s c l = search.trialOf t c l :=
  (((h.mono fun _ _ => trivial).record _ c.link).record _ c.compile).trial_eq search.fragment
    search.link

lemma trialsOf_congr (ids : CompilerIds) (search : Search) (h : s.AgreeOn (fun _ => True) t) :
    search.trialsOf ids s = search.trialsOf ids t := by
  funext c
  exact List.map_congr_left fun l _ => search.trialOf_congr h c l

lemma keep_agree (search : Search) (c : Candidate) (calls : List Call) (h : s.AgreeOn P t) :
    (search.keep c calls s).AgreeOn P (search.keep c calls t) := by
  induction calls generalizing s t with
  | nil => exact h
  | cons call calls ih =>
    refine ih ?_
    dsimp only
    split
    · exact h.record _ c.compile
    · exact h

lemma leave_agree (search : Search) (winner : Option (Candidate × List Call)) (h : s.AgreeOn P t) :
    (search.leave s winner).AgreeOn P (search.leave t winner) := by
  cases winner with
  | none => exact h
  | some winner => exact search.keep_agree _ _ (h.record _ _)

/-- Nothing is kept for languages that refused. -/
lemma keep_of_refused (search : Search) (c : Candidate) {calls : List Call}
    (h : ∀ call ∈ calls, call.answer = false) (s : Store) : search.keep c calls s = s := by
  induction calls with
  | nil => rfl
  | cons call calls ih =>
    have hcall := h call List.mem_cons_self
    show search.keep c calls (if call.answer then _ else s) = s
    rw [hcall]
    exact ih fun call' h' => h call' (List.mem_cons_of_mem call h')

/-- What is read after the compile flag was recorded for the languages that accepted it. -/
lemma get_keep (search : Search) (c : Candidate) (calls : List Call) (s : Store) (b : Bucket) :
    (search.keep c calls s).get b =
      if ∃ call ∈ calls, call.answer = true ∧ b = ⟨.compile call.trial.language, search.profile⟩ then
        (s.get b).insert? c.compile
      else s.get b := by
  induction calls generalizing s with
  | nil => simp [keep]
  | cons call calls ih =>
    have hstep : (search.keep c (call :: calls) s) = search.keep c calls
        (if call.answer then s.record ⟨.compile call.trial.language, search.profile⟩ c.compile
          else s) := rfl
    rw [hstep, ih]
    by_cases hb : call.answer = true ∧ b = ⟨.compile call.trial.language, search.profile⟩
    · obtain ⟨hanswer, rfl⟩ := hb
      have hhere : ∃ call' ∈ call :: calls, call'.answer = true ∧
          (⟨.compile call.trial.language, search.profile⟩ : Bucket) =
            ⟨.compile call'.trial.language, search.profile⟩ :=
        ⟨call, List.mem_cons_self, hanswer, rfl⟩
      rw [if_pos hhere, hanswer, if_pos rfl, Store.get_record_self]
      split
      · exact OrderedSet.insert?_insert? _ _
      · rfl
    · have hsame : (if call.answer then
          s.record ⟨.compile call.trial.language, search.profile⟩ c.compile else s).get b =
          s.get b := by
        split
        · next hanswer => exact Store.get_record_of_ne (fun heq => hb ⟨hanswer, heq⟩) s _
        · rfl
      rw [hsame]
      refine if_congr ?_ rfl rfl
      constructor
      · rintro ⟨call', hmem, h'⟩
        exact ⟨call', List.mem_cons_of_mem call hmem, h'⟩
      · rintro ⟨call', hmem, h'⟩
        rcases List.mem_cons.1 hmem with rfl | hmem
        · exact absurd h' hb
        · exact ⟨call', hmem, h'⟩

/-! ## What each step of a search does -/

section

variable (compiler : Compiler σ) (search : Search) (c : Candidate)

/-- The call for one language, and what is read afterwards: the compile flag is recorded if the call
succeeds, and gone if not. -/
lemma tryLanguage_recorded {base : Store} {l : Language} {w : Bench (σ × List Call)}
    (hbase : w.store.AgreeOn (·.VisibleTo l search.profile)
      (base.record ⟨.link, search.profile⟩ c.link)) :
    ∃ call : Call, call.trial = search.trialOf base c l ∧
      (tryLanguage compiler.recorded search c l w).1 = call.answer ∧
      (tryLanguage compiler.recorded search c l w).2.memory.2 = w.memory.2 ++ [call] ∧
      ∀ b, (tryLanguage compiler.recorded search c l w).2.store.get b =
        (if call.answer then w.store.record ⟨.compile l, search.profile⟩ c.compile
          else w.store).get b := by
  have htrial : (w.store.record ⟨.compile l, search.profile⟩ c.compile).trial l search.profile
      search.fragment search.link = search.trialOf base c l :=
    (hbase.record _ c.compile).trial_eq search.fragment search.link
  refine ⟨⟨search.trialOf base c l, (compiler (search.trialOf base c l) w.memory.1).1⟩, rfl, ?_⟩
  unfold tryLanguage Bench.builds
  simp only [Bench.addFlag_store, Bench.addFlag_memory, htrial, Compiler.recorded]
  cases hanswer : (compiler (search.trialOf base c l) w.memory.1).1 with
  | true => exact ⟨rfl, rfl, fun b => rfl⟩
  | false =>
    cases hnew : (w.addFlag ⟨.compile l, search.profile⟩ c.compile).1 with
    | true =>
      refine ⟨rfl, by simp, fun b => ?_⟩
      simp only [Bool.not_false, Bool.and_self, if_true]
      rw [Bench.get_dropFlag_of_addFlag hnew rfl]
      split
      · next hb => rw [hb]; rfl
      · next hb => exact Store.get_record_of_ne hb w.store c.compile
    | false => exact ⟨rfl, rfl, fun b => Bench.get_record_of_addFlag_eq_false hnew b⟩

/-- The calls for several languages.  No language sees what another one has left, because the
compile buckets are separate. -/
lemma tryLanguages_recorded {base : Store} {ls : List Language} (hnodup : ls.Nodup)
    {w : Bench (σ × List Call)}
    (hbase : ∀ l ∈ ls, w.store.AgreeOn (·.VisibleTo l search.profile)
      (base.record ⟨.link, search.profile⟩ c.link)) :
    ∃ calls : List Call, calls.map Call.trial = ls.map (search.trialOf base c) ∧
      (tryLanguages compiler.recorded search c ls w).1 = calls.any (·.answer) ∧
      (tryLanguages compiler.recorded search c ls w).2.memory.2 = w.memory.2 ++ calls ∧
      (tryLanguages compiler.recorded search c ls w).2.store.AgreeOn (fun _ => True)
        (search.keep c calls w.store) := by
  induction ls generalizing w with
  | nil => exact ⟨[], rfl, rfl, (List.append_nil _).symm, .refl _⟩
  | cons l ls ih =>
    obtain ⟨hl, hnodup⟩ := List.nodup_cons.1 hnodup
    obtain ⟨call, htrial, hanswer, hmemory, hread⟩ :=
      tryLanguage_recorded compiler search c (hbase l List.mem_cons_self)
    -- the compile bucket of `l` is the only one that may have changed, and `ls` does not see it
    have hlater : ∀ l' ∈ ls, (tryLanguage compiler.recorded search c l w).2.store.AgreeOn
        (·.VisibleTo l' search.profile) (base.record ⟨.link, search.profile⟩ c.link) := by
      intro l' hl' b hb
      have hne : b ≠ ⟨.compile l, search.profile⟩ := by
        rintro rfl
        exact hl (hb.2 l rfl ▸ hl')
      rw [hread b, ← hbase l' (List.mem_cons_of_mem l hl') b hb]
      split
      · exact Store.get_record_of_ne hne w.store c.compile
      · rfl
    obtain ⟨calls, htrials, hanswers, hmemory', hread'⟩ := ih hnodup hlater
    refine ⟨call :: calls, ?_, ?_, ?_, ?_⟩
    · rw [List.map_cons, List.map_cons, htrial, htrials]
    · show ((tryLanguage compiler.recorded search c l w).1 || _) = _
      rw [hanswer, hanswers, List.any_cons]
    · show (tryLanguages compiler.recorded search c ls _).2.memory.2 = _
      rw [hmemory', hmemory, List.append_assoc, List.singleton_append]
    · have hlanguage : call.trial.language = l := by rw [htrial]; rfl
      refine hread'.trans (search.keep_agree c calls fun b _ => ?_)
      dsimp only
      rw [hread b, hlanguage]

/-- The calls for a candidate.  If it is accepted its flags stay; if not, the store reads as
before. -/
lemma tryCandidate_recorded {ls : List Language} (hnodup : ls.Nodup) (w : Bench (σ × List Call)) :
    ∃ calls : List Call, calls.map Call.trial = ls.map (search.trialOf w.store c) ∧
      (tryCandidate compiler.recorded search c ls w).1 = calls.any (·.answer) ∧
      (tryCandidate compiler.recorded search c ls w).2.memory.2 = w.memory.2 ++ calls ∧
      (tryCandidate compiler.recorded search c ls w).2.store.AgreeOn (fun _ => True)
        (search.leave w.store (if calls.any (·.answer) then some (c, calls) else none)) := by
  have hbase : ∀ l ∈ ls, (w.addFlag ⟨.link, search.profile⟩ c.link).2.store.AgreeOn
      (·.VisibleTo l search.profile) (w.store.record ⟨.link, search.profile⟩ c.link) := by
    intro l _
    rw [Bench.addFlag_store]
    exact .refl _
  obtain ⟨calls, htrials, hanswer, hmemory, hread⟩ :=
    tryLanguages_recorded compiler search c hnodup hbase
  rw [Bench.addFlag_store] at hread
  rw [Bench.addFlag_memory] at hmemory
  refine ⟨calls, htrials, ?_⟩
  unfold tryCandidate
  simp only [hanswer]
  cases hany : calls.any (·.answer) with
  | true => exact ⟨hanswer.trans hany, hmemory, hread⟩
  | false =>
    have hkeep := search.keep_of_refused c (by simpa using hany)
      (w.store.record ⟨.link, search.profile⟩ c.link)
    rw [hkeep] at hread
    cases hnew : (w.addFlag ⟨.link, search.profile⟩ c.link).1 with
    | true =>
      refine ⟨rfl, by simpa using hmemory, fun b _ => ?_⟩
      simp only [Bool.not_false, Bool.and_self, if_true]
      rw [Bench.get_dropFlag_of_addFlag hnew (hread _ trivial)]
      split
      · next hb => rw [hb]; rfl
      · next hb => exact (hread b trivial).trans (Store.get_record_of_ne hb w.store c.link)
    | false =>
      exact ⟨hanswer.trans hany, hmemory, fun b _ =>
        (hread b trivial).trans (Bench.get_record_of_addFlag_eq_false hnew b)⟩

end

lemma nodup_eligibleTargets (ids : CompilerIds) (search : Search) (c : Candidate) :
    (search.eligibleTargets ids c).Nodup :=
  search.targets.nodup.filter _

/-- The walk over the candidates follows a course. -/
lemma walk_recorded (compiler : Compiler σ) (ids : CompilerIds) (search : Search) (asked : Bool)
    (cs : List Candidate) (w : Bench (σ × List Call)) :
    ∃ calls winner, Course ids search w.store cs calls winner ∧
      (walk compiler.recorded ids search asked cs w).1 = search.outcomeOf asked calls winner ∧
      (walk compiler.recorded ids search asked cs w).2.memory.2 = w.memory.2 ++ calls ∧
      (walk compiler.recorded ids search asked cs w).2.store.AgreeOn (fun _ => True)
        (search.leave w.store winner) := by
  induction cs generalizing asked w with
  | nil =>
    refine ⟨[], none, .finished, ?_, (List.append_nil _).symm, .refl _⟩
    cases asked <;> rfl
  | cons c cs ih =>
    unfold walk
    cases heq : search.eligibleTargets ids c with
    | nil =>
      obtain ⟨calls, winner, hcourse, hrest⟩ := ih asked w
      have hnone : ([] : List Call).map Call.trial = search.trialsOf ids w.store c := by
        rw [trialsOf, heq]
        rfl
      have hanswers : ∀ call ∈ ([] : List Call), call.answer = false := by simp
      exact ⟨calls, winner, .refused hnone hanswers hcourse, hrest⟩
    | cons l ls =>
      have hnodup : (l :: ls).Nodup := heq ▸ nodup_eligibleTargets ids search c
      obtain ⟨calls, htrials, hanswer, hmemory, hread⟩ :=
        tryCandidate_recorded compiler search c hnodup w
      have htrials' : calls.map Call.trial = search.trialsOf ids w.store c := by
        rw [htrials, trialsOf, heq]
      simp only [hanswer]
      cases hany : calls.any (·.answer) with
      | true =>
        rw [hany] at hread
        exact ⟨calls, some (c, calls), .accepted htrials' (by simpa using hany), rfl, hmemory, hread⟩
      | false =>
        rw [hany] at hread
        obtain ⟨later, winner, hcourse, houtcome, hmemory', hread'⟩ :=
          ih true (tryCandidate compiler.recorded search c (l :: ls) w).2
        -- the store reads as before, so the rest of the course may start from it as well
        have hcourse' := hcourse.congr (search.trialsOf_congr ids hread)
        refine ⟨calls ++ later, winner, .refused htrials' (by simpa using hany) hcourse', ?_, ?_, ?_⟩
        · have hcalls : calls ≠ [] := by
            rintro rfl
            cases htrials
          rw [if_neg Bool.false_ne_true, houtcome, search.outcomeOf_append asked hcalls]
        · rw [if_neg Bool.false_ne_true, hmemory', hmemory, List.append_assoc]
        · exact hread'.trans (search.leave_agree winner hread)

/-- Every search follows a course, ends with its outcome, and leaves a store that reads like the
store before it with the flags of the accepted candidate. -/
theorem exists_course (compiler : Compiler σ) (ids : CompilerIds) (search : Search) (w : Bench σ) :
    ∃ winner, Course ids search w.store search.candidates (search.calls compiler ids w) winner ∧
      (search.run compiler ids w).1 =
        search.outcomeOf false (search.calls compiler ids w) winner ∧
      (search.run compiler ids w).2.store.AgreeOn (fun _ => True) (search.leave w.store winner) := by
  obtain ⟨calls, winner, hcourse, houtcome, hmemory, hread⟩ :=
    walk_recorded compiler ids search false search.candidates w.unrecorded
  have hcalls : search.calls compiler ids w = calls := hmemory
  obtain ⟨hresult, hafter⟩ := search.run_recorded compiler ids w
  rw [hcalls, ← hresult]
  exact ⟨winner, hcourse, houtcome, hafter.store.symm.trans hread⟩

/-! ## Reading a course off -/

namespace Course

variable {ids : CompilerIds} {search : Search} {s : Store} {cs : List Candidate}
  {calls : List Call} {winner : Option (Candidate × List Call)}

/-- Without an accepted candidate all candidates were tried, and all calls failed. -/
lemma of_eq_none (h : Course ids search s cs calls winner) (hnone : winner = none) :
    calls.map Call.trial = cs.flatMap (search.trialsOf ids s) ∧
      ∀ call ∈ calls, call.answer = false := by
  induction h with
  | finished => exact ⟨rfl, by simp⟩
  | refused htrials hanswers _ ih =>
    obtain ⟨htrials', hanswers'⟩ := ih hnone
    refine ⟨by rw [List.map_append, htrials, htrials', List.flatMap_cons], fun call hcall => ?_⟩
    rcases List.mem_append.1 hcall with h | h
    · exact hanswers call h
    · exact hanswers' call h
  | accepted => cases hnone

/-- The accepted candidate is the first one with a successful call, and no candidate after it was
tried. -/
lemma of_eq_some {c : Candidate} {final : List Call} (h : Course ids search s cs calls winner)
    (hsome : winner = some (c, final)) :
    ∃ earlier later failed, cs = earlier ++ c :: later ∧ calls = failed ++ final ∧
      failed.map Call.trial = earlier.flatMap (search.trialsOf ids s) ∧
      (∀ call ∈ failed, call.answer = false) ∧
      final.map Call.trial = search.trialsOf ids s c ∧ ∃ call ∈ final, call.answer = true := by
  induction h with
  | finished => cases hsome
  | refused htrials hanswers _ ih =>
    obtain ⟨earlier, later, failed, hcs, hcalls, hfailed, hanswers', hfinal⟩ := ih hsome
    refine ⟨_ :: earlier, later, _ ++ failed, by rw [hcs]; rfl, by rw [hcalls, List.append_assoc],
      by rw [List.map_append, htrials, hfailed, List.flatMap_cons], fun call hcall => ?_, hfinal⟩
    rcases List.mem_append.1 hcall with h | h
    · exact hanswers call h
    · exact hanswers' call h
  | accepted htrials hanswer =>
    cases hsome
    exact ⟨[], _, [], rfl, rfl, rfl, by simp, htrials, hanswer⟩

/-- The accepted candidate is one of the candidates, and its calls are its trials. -/
lemma winner_mem {c : Candidate} {final : List Call}
    (h : Course ids search s cs calls (some (c, final))) :
    c ∈ cs ∧ final.map Call.trial = search.trialsOf ids s c := by
  obtain ⟨earlier, later, _, rfl, _, _, _, hfinal, _⟩ := h.of_eq_some rfl
  exact ⟨List.mem_append_right earlier List.mem_cons_self, hfinal⟩

/-- Whether a candidate was accepted shows in the answers. -/
lemma isSome_iff (h : Course ids search s cs calls winner) :
    winner.isSome ↔ ∃ call ∈ calls, call.answer = true := by
  cases winner with
  | none =>
    obtain ⟨_, hanswers⟩ := h.of_eq_none rfl
    simp only [Option.isSome_none, Bool.false_eq_true, false_iff, not_exists, not_and,
      Bool.not_eq_true]
    exact hanswers
  | some winner =>
    obtain ⟨c, final⟩ := winner
    obtain ⟨_, _, failed, _, rfl, _, _, _, call, hcall, hanswer⟩ := h.of_eq_some rfl
    simp only [Option.isSome_some, true_iff]
    exact ⟨call, List.mem_append_right failed hcall, hanswer⟩

/-- If all calls failed, no candidate was accepted. -/
lemma eq_none (h : Course ids search s cs calls winner)
    (hanswers : ∀ call ∈ calls, call.answer = false) : winner = none := by
  rw [← Option.not_isSome_iff_eq_none, h.isSome_iff]
  rintro ⟨call, hcall, hanswer⟩
  rw [hanswers call hcall] at hanswer
  cases hanswer

/-- A search was not attempted if it made no calls. -/
lemma outcomeOf_eq_notAttempted (h : Course ids search s cs calls winner) :
    search.outcomeOf false calls winner = .notAttempted ↔ calls = [] := by
  cases winner with
  | none =>
    unfold outcomeOf
    cases calls <;> simp
  | some winner =>
    obtain ⟨call, hcall, _⟩ := h.isSome_iff.1 rfl
    have hne : calls ≠ [] := List.ne_nil_of_mem hcall
    unfold outcomeOf
    dsimp only
    split <;> simp [hne]

/-- A search was refused if it made calls and all of them failed. -/
lemma outcomeOf_eq_refused (h : Course ids search s cs calls winner) :
    search.outcomeOf false calls winner = .refused ↔
      calls ≠ [] ∧ ∀ call ∈ calls, call.answer = false := by
  cases winner with
  | none =>
    have hanswers := (h.of_eq_none rfl).2
    rw [and_iff_left hanswers]
    unfold outcomeOf
    cases calls <;> simp
  | some winner =>
    have hsome : ¬∀ call ∈ calls, call.answer = false := fun hall => by cases h.eq_none hall
    unfold outcomeOf
    dsimp only
    split <;> simp only [hsome, and_false, reduceCtorEq]

end Course

end Search

end CompilerFlags
