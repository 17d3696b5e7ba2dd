import CompilerFlags.Proofs.Search.Commit

/-!
# Searches with a compiler that does not learn

A compiler *answers* as a function of the trial says if it gives every trial the answer of the function,
whatever it was asked before.  A search with such a compiler is decided beforehand.

All trials of a search are made of the store from before the search (`Search.trialsOf`), so the
candidate that is accepted is the first one with a trial that the function accepts: it is `winner?`, and
nothing else about the search has to be known.  `run_of_answers` says how the search ends and what it
leaves in these terms, and `calls_of_answers` which calls it makes, which turns questions about two
searches into questions about two lists of trials.
-/

namespace CompilerFlags

variable {σ : Type}

/-- The compiler gives every trial the answer that a function has for it, whatever it remembers. -/
def Compiler.Answers (compiler : Compiler σ) (accepts : Trial → Bool) : Prop :=
  ∀ t m, (compiler t m).1 = accepts t

variable {compiler : Compiler σ} {accepts : Trial → Bool}

/-- From all memories a compiler that does not learn answers alike. -/
lemma Compiler.Answers.alike (h : compiler.Answers accepts) :
    compiler.Alike (fun _ _ => True) compiler :=
  fun t m n _ => ⟨(h t m).trans (h t n).symm, trivial⟩

namespace Search

/-- Some trial of a candidate is accepted. -/
def works (accepts : Trial → Bool) (ids : CompilerIds) (search : Search) (s : Store)
    (c : Candidate) : Bool :=
  (search.trialsOf ids s c).any accepts

/-- The calls that are made for a candidate. -/
def callsOf (accepts : Trial → Bool) (ids : CompilerIds) (search : Search) (s : Store)
    (c : Candidate) : List Call :=
  (search.trialsOf ids s c).map fun t => ⟨t, accepts t⟩

/-- The first candidate that works, with its calls. -/
def winner? (accepts : Trial → Bool) (ids : CompilerIds) (search : Search) (s : Store)
    (cs : List Candidate) : Option (Candidate × List Call) :=
  (cs.find? (search.works accepts ids s)).map fun c => (c, search.callsOf accepts ids s c)

/-- The candidates up to the first one that works; those after it are not tried. -/
def tried (accepts : Trial → Bool) (ids : CompilerIds) (search : Search) (s : Store) :
    List Candidate → List Candidate
  | [] => []
  | c :: cs => if search.works accepts ids s c then [c] else c :: search.tried accepts ids s cs

variable {ids : CompilerIds} {search : Search} {s : Store}

/-- Calls with the answers of the function are known from their trials. -/
lemma eq_callsOf {c : Candidate} {calls : List Call}
    (htrials : calls.map Call.trial = search.trialsOf ids s c)
    (hanswers : ∀ call ∈ calls, call.answer = accepts call.trial) :
    calls = search.callsOf accepts ids s c := by
  rw [callsOf, ← htrials, List.map_map]
  refine (List.map_id calls).symm.trans (List.map_congr_left fun call hcall => ?_)
  show call = ⟨call.trial, accepts call.trial⟩
  rw [← hanswers call hcall]

/-- A candidate works if one of its calls succeeds. -/
lemma works_eq_any {c : Candidate} {calls : List Call}
    (htrials : calls.map Call.trial = search.trialsOf ids s c)
    (hanswers : ∀ call ∈ calls, call.answer = accepts call.trial) :
    search.works accepts ids s c = calls.any (·.answer) := by
  rw [eq_callsOf htrials hanswers, callsOf, List.any_map]
  rfl

/-- A course with the answers of the function is determined by it: the accepted candidate is the first
one that works, and the calls are those of the candidates up to it. -/
lemma Course.determined {cs : List Candidate} {calls : List Call}
    {winner : Option (Candidate × List Call)} (h : Course ids search s cs calls winner)
    (hanswers : ∀ call ∈ calls, call.answer = accepts call.trial) :
    winner = search.winner? accepts ids s cs ∧
      calls = (search.tried accepts ids s cs).flatMap (search.callsOf accepts ids s) := by
  induction h with
  | finished => exact ⟨rfl, rfl⟩
  | @refused c cs calls later winner htrials hrefused _ ih =>
    have hearlier : ∀ call ∈ calls, call.answer = accepts call.trial :=
      fun call hcall => hanswers call (List.mem_append_left later hcall)
    have hworks : ¬search.works accepts ids s c = true := by
      rw [works_eq_any htrials hearlier]
      simpa using hrefused
    obtain ⟨hwinner, hlater⟩ := ih fun call hcall => hanswers call (List.mem_append_right calls hcall)
    constructor
    · rw [winner?, List.find?_cons_of_neg hworks]
      exact hwinner
    · rw [tried, if_neg hworks, List.flatMap_cons, ← hlater, ← eq_callsOf htrials hearlier]
  | @accepted c cs calls htrials haccepted =>
    have hworks : search.works accepts ids s c = true := by
      rw [works_eq_any htrials hanswers]
      simpa using haccepted
    have hcalls : calls = search.callsOf accepts ids s c := eq_callsOf htrials hanswers
    constructor
    · rw [winner?, List.find?_cons_of_pos hworks, hcalls]
      rfl
    · rw [tried, if_pos hworks, List.flatMap_singleton, hcalls]

/-- The calls of a search have the answers of the function. -/
lemma answer_of_mem_calls (h : compiler.Answers accepts) (w : Bench σ) {call : Call}
    (hcall : call ∈ search.calls compiler ids w) : call.answer = accepts call.trial := by
  -- carried through the search: all calls of the record so far have the answers of the function
  let Right (m : σ × List Call) : Prop := ∀ call ∈ m.2, call.answer = accepts call.trial
  have hkeeps : ∀ t m, Right m → Right (compiler.recorded t m).2 := by
    intro t m hm call hcall
    rcases List.mem_append.1 hcall with hcall | hcall
    · exact hm call hcall
    · obtain rfl := List.mem_singleton.1 hcall
      exact h t m.1
  have hstart : Right w.unrecorded.memory := fun _ hcall => nomatch hcall
  exact search.memory_run hkeeps ids hstart call hcall

/-- How a search ends and what it leaves, if the compiler answers as a function says. -/
theorem run_of_answers (h : compiler.Answers accepts) (ids : CompilerIds) (search : Search)
    (w : Bench σ) :
    let winner := search.winner? accepts ids w.store search.candidates
    (search.run compiler ids w).1 =
        search.outcomeOf false (search.calls compiler ids w) winner ∧
      (search.run compiler ids w).2.store.AgreeOn (fun _ => True) (search.leave w.store winner) := by
  obtain ⟨winner, hcourse, houtcome, hread⟩ := search.exists_course compiler ids w
  have hwinner := (hcourse.determined fun call hcall => answer_of_mem_calls h w hcall).1
  exact hwinner ▸ ⟨houtcome, hread⟩

/-- Which calls a search makes, if the compiler answers as a function says. -/
theorem calls_of_answers (h : compiler.Answers accepts) (ids : CompilerIds) (search : Search)
    (w : Bench σ) :
    search.calls compiler ids w =
      (search.tried accepts ids w.store search.candidates).flatMap
        (search.callsOf accepts ids w.store) := by
  obtain ⟨winner, hcourse, _, _⟩ := search.exists_course compiler ids w
  exact (hcourse.determined fun call hcall => answer_of_mem_calls h w hcall).2

end Search

end CompilerFlags
