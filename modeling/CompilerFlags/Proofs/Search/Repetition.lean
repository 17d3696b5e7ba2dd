import CompilerFlags.Proofs.Search.Fixed

/-!
# Searching a second time

A search that is made again starts from a store that holds the flags of the first one.  For some
compilers this matters: a candidate that was refused may be accepted now, because it is tried together
with the flags of the winner.  It does not matter if the compiler is *monotone*, which means that it
does not learn and that whatever it accepts with some flags it accepts with fewer of them.

* A candidate before the winner is refused again, because now it is tried with more flags than before
  (`works_of_keeps`).
* The winner is tried with the same flags as before, language by language (`trialsOf_leave`): where it
  was accepted its flag is there already, and where it was refused its flag was taken out again.
* So the winner is the same (`winner?_leave`), and recording its flags again changes nothing
  (`leave_leave`).
-/

namespace CompilerFlags

variable {σ : Type}

/-! ## Trials with fewer flags -/

/-- The first trial asks for the same as the second, and shows the compiler no flags but those of the
second. -/
structure Trial.Below (t t' : Trial) : Prop where
  fragment : t.fragment = t'.fragment
  language : t.language = t'.language
  link : t.link = t'.link
  compileFlags : t.compileFlags ⊆ t'.compileFlags
  linkFlags : t.linkFlags ⊆ t'.linkFlags

/-- A compiler that does not learn and accepts with fewer flags whatever it accepts with more. -/
def Compiler.Monotone (compiler : Compiler σ) : Prop :=
  ∃ accepts, compiler.Answers accepts ∧
    ∀ t t' : Trial, t.Below t' → accepts t' = true → accepts t = true

namespace Store.Keeps

variable {s t : Store}

lemma record (h : s.Keeps t) (b : Bucket) (flag : Option String) :
    (s.record b flag).Keeps (t.record b flag) := by
  intro c f hf
  rw [get_record] at hf ⊢
  split
  · next hcb =>
    rw [if_pos hcb] at hf
    rcases OrderedSet.mem_insert?.1 hf with hf | hf
    · exact OrderedSet.mem_insert?.2 (Or.inl (h b f hf))
    · exact OrderedSet.mem_insert?.2 (Or.inr hf)
  · next hcb =>
    rw [if_neg hcb] at hf
    exact h c f hf

lemma gather_subset (h : s.Keeps t) (kinds : List FlagKind) (profile : Profile) :
    (s.gather kinds profile).toList ⊆ (t.gather kinds profile).toList := by
  intro flag hflag
  obtain ⟨kind, hkind, b, hb, hmem⟩ := mem_gather.1 hflag
  exact mem_gather.2 ⟨kind, hkind, b, hb, h b flag hmem⟩

/-- The trial of a store is below that of a store with more flags. -/
lemma trial_below (h : s.Keeps t) (l : Language) (profile : Profile) (fragment : String)
    (link : Bool) :
    (s.trial l profile fragment link).Below (t.trial l profile fragment link) where
  fragment := rfl
  language := rfl
  link := rfl
  compileFlags := h.gather_subset _ profile
  linkFlags := by
    cases link with
    | false => exact List.Subset.refl []
    | true => exact h.gather_subset _ profile

end Store.Keeps

namespace Search

variable {accepts : Trial → Bool} {ids : CompilerIds} {search : Search} {s t : Store}

/-! ## Candidates before the winner -/

/-- A candidate is tried with more flags on a store with more flags. -/
lemma trialOf_below (h : s.Keeps t) (c : Candidate) (l : Language) :
    (search.trialOf s c l).Below (search.trialOf t c l) :=
  ((h.record ⟨.link, search.profile⟩ c.link).record
    ⟨.compile l, search.profile⟩ c.compile).trial_below l search.profile search.fragment search.link

/-- A candidate that works on a store with more flags works on the store with fewer. -/
lemma works_of_keeps (hmono : ∀ t t' : Trial, t.Below t' → accepts t' = true → accepts t = true)
    (h : s.Keeps t) {c : Candidate} (hworks : search.works accepts ids t c = true) :
    search.works accepts ids s c = true := by
  obtain ⟨trial, htrial, haccepts⟩ := List.any_eq_true.1 hworks
  obtain ⟨l, hl, rfl⟩ := List.mem_map.1 htrial
  have hfewer : accepts (search.trialOf s c l) = true := hmono _ _ (trialOf_below h c l) haccepts
  exact List.any_eq_true.2 ⟨_, List.mem_map_of_mem hl, hfewer⟩

/-- The flags of an accepted candidate come in addition to the others. -/
lemma keeps_leave (s : Store) (c : Candidate) (calls : List Call) :
    s.Keeps (search.leave s (some (c, calls))) := by
  intro b flag hflag
  have hlink : flag ∈ (s.record ⟨.link, search.profile⟩ c.link).get b := by
    rw [Store.get_record]
    split
    · next hb => exact OrderedSet.mem_insert?.2 (Or.inl (hb ▸ hflag))
    · exact hflag
  rw [leave, get_keep]
  split
  · exact OrderedSet.mem_insert?.2 (Or.inl hlink)
  · exact hlink

/-! ## The winner -/

/-- The flags of a candidate that was accepted need not be added in order to try it again: each
language is asked in the same words as before. -/
lemma trialsOf_leave (s : Store) (c : Candidate) :
    search.trialsOf ids (search.leave s (some (c, search.callsOf accepts ids s c))) c =
      search.trialsOf ids s c := by
  have hcalls : (search.callsOf accepts ids s c).map Call.trial = search.trialsOf ids s c := by
    rw [callsOf, List.map_map]
    exact List.map_id _
  have hnodup := language_of_trials hcalls ▸ nodup_eligibleTargets ids search c
  refine List.map_congr_left fun l hl => ?_
  let call : Call := ⟨search.trialOf s c l, accepts (search.trialOf s c l)⟩
  have hcall : call ∈ search.callsOf accepts ids s c :=
    List.mem_map_of_mem (f := fun t => (⟨t, accepts t⟩ : Call)) (List.mem_map_of_mem hl)
  refine Store.AgreeOn.trial_eq ?_ search.fragment search.link
  intro b hvisible
  by_cases hcompile : b = ⟨.compile l, search.profile⟩
  · -- the flag is there if it was accepted, and missing if it was refused; then it is added again
    have hlink : b ≠ ⟨.link, search.profile⟩ := by simp [hcompile]
    have hleft : (search.leave s (some (c, search.callsOf accepts ids s c))).get b =
        if call.answer then (s.get b).insert? c.compile else s.get b := by
      rw [hcompile]
      exact get_leave_compile hnodup hcall
    rw [← hcompile, Store.get_record_self, Store.get_record_self, Store.get_record_of_ne hlink,
      Store.get_record_of_ne hlink, hleft]
    split
    · exact OrderedSet.insert?_insert? _ _
    · rfl
  · rw [Store.get_record_of_ne hcompile, Store.get_record_of_ne hcompile]
    by_cases hlink : b = ⟨.link, search.profile⟩
    · rw [hlink, Store.get_record_self, Store.get_record_self, get_leave_link,
        OrderedSet.insert?_insert?]
    · rw [Store.get_record_of_ne hlink, Store.get_record_of_ne hlink]
      refine get_leave_of_ne s c hlink fun call' _ hother => hcompile ?_
      have hlanguage : call'.trial.language = l := hvisible.2 _ (by rw [hother])
      rw [hother, hlanguage]

/-- Recording the flags of an accepted candidate twice is recording them once. -/
lemma leave_leave (s : Store) (c : Candidate) (calls : List Call) (b : Bucket) :
    (search.leave (search.leave s (some (c, calls))) (some (c, calls))).get b =
      (search.leave s (some (c, calls))).get b := by
  by_cases hlink : b = ⟨.link, search.profile⟩
  · rw [hlink, get_leave_link, get_leave_link, OrderedSet.insert?_insert?]
  · have hget (s' : Store) : (search.leave s' (some (c, calls))).get b =
        if ∃ call ∈ calls, call.answer = true ∧
            b = ⟨.compile call.trial.language, search.profile⟩ then
          (s'.get b).insert? c.compile
        else s'.get b := by
      rw [leave, get_keep, Store.get_record_of_ne hlink]
    rw [hget (search.leave s (some (c, calls))), hget s]
    split
    · exact OrderedSet.insert?_insert? _ _
    · rfl

lemma winner?_congr (h : s.AgreeOn (fun _ => True) t) (cs : List Candidate) :
    search.winner? accepts ids s cs = search.winner? accepts ids t cs := by
  have hworks : search.works accepts ids s = search.works accepts ids t := by
    unfold works
    rw [trialsOf_congr ids search h]
  have hcalls : search.callsOf accepts ids s = search.callsOf accepts ids t := by
    unfold callsOf
    rw [trialsOf_congr ids search h]
  rw [winner?, winner?, hworks, hcalls]

/-- On the store that a search with a monotone compiler has left, the same candidate wins with the same
calls. -/
lemma winner?_leave (hmono : ∀ t t' : Trial, t.Below t' → accepts t' = true → accepts t = true)
    {cs : List Candidate} {c : Candidate} {calls : List Call}
    (h : search.winner? accepts ids s cs = some (c, calls)) :
    search.winner? accepts ids (search.leave s (some (c, calls))) cs = some (c, calls) := by
  obtain ⟨c', hfind, hpair⟩ := Option.map_eq_some_iff.1 h
  obtain ⟨rfl, rfl⟩ := Prod.mk.inj hpair
  obtain ⟨hworks, before, after, rfl, hbefore⟩ := List.find?_eq_some_iff_append.1 hfind
  let t := search.leave s (some (c', search.callsOf accepts ids s c'))
  have htrials : search.trialsOf ids t c' = search.trialsOf ids s c' := trialsOf_leave s c'
  have hworks' : search.works accepts ids t c' = true := by
    rw [works, htrials]
    exact hworks
  have hbefore' : ∀ d ∈ before, (!search.works accepts ids t d) = true := by
    intro d hd
    have hrefused : ¬search.works accepts ids s d = true := by simpa using hbefore d hd
    have hkeeps : s.Keeps t := keeps_leave s c' _
    simpa using mt (works_of_keeps hmono hkeeps) hrefused
  have hfind' : (before ++ c' :: after).find? (search.works accepts ids t) = some c' :=
    List.find?_eq_some_iff_append.2 ⟨hworks', before, after, rfl, hbefore'⟩
  rw [winner?, hfind', Option.map_some, callsOf, htrials]
  rfl

/-! ## The second search -/

/-- A search that is made again with a monotone compiler, on the store that the first one has left, ends
in the same way and changes nothing that is read. -/
theorem run_again_of_monotone {compiler : Compiler σ} (h : compiler.Monotone) (ids : CompilerIds)
    (search : Search) (w : Bench σ) (m : σ) :
    let first := search.run compiler ids w
    let second := search.run compiler ids ⟨m, first.2.store⟩
    second.1 = first.1 ∧ ∀ b, (second.2.store.get b).toList = (first.2.store.get b).toList := by
  intro first second
  obtain ⟨accepts, hanswers, hmono⟩ := h
  obtain ⟨houtcome, hread⟩ := run_of_answers hanswers ids search w
  cases hwinner : search.winner? accepts ids w.store search.candidates with
  | none =>
    -- the store reads as before, hence the two searches cannot be told apart
    rw [hwinner] at hread
    have hstart : Bench.Alike (fun _ _ => True) (fun _ => True) ⟨m, first.2.store⟩ w :=
      ⟨trivial, hread⟩
    obtain ⟨hsame, hafter⟩ := run_alike hanswers.alike ids search (fun _ _ _ _ => trivial) hstart
    exact ⟨hsame, fun b => congrArg OrderedSet.toList (hafter.store b trivial)⟩
  | some winner =>
    obtain ⟨c, calls⟩ := winner
    rw [hwinner] at houtcome hread
    obtain ⟨houtcome', hread'⟩ := run_of_answers hanswers ids search ⟨m, first.2.store⟩
    have hwinner' : search.winner? accepts ids first.2.store search.candidates = some (c, calls) :=
      (winner?_congr hread _).trans (winner?_leave hmono hwinner)
    rw [hwinner'] at houtcome' hread'
    refine ⟨houtcome'.trans houtcome.symm, fun b => congrArg OrderedSet.toList ?_⟩
    calc second.2.store.get b
        = (search.leave first.2.store (some (c, calls))).get b := hread' b trivial
      _ = (search.leave (search.leave w.store (some (c, calls))) (some (c, calls))).get b :=
        search.leave_agree _ hread b trivial
      _ = (search.leave w.store (some (c, calls))).get b := leave_leave w.store c calls b
      _ = first.2.store.get b := (hread b trivial).symm

/-- A compiler that accepts some flags and no others is monotone.  Here the first candidate is refused,
and the second one is accepted by one of two languages only. -/
theorem run_again_of_allowed_flags :
    let allowed : Language → List String := fun l => if l = .c then ["-O2", "-Wall"] else ["-O2"]
    let accepts : Trial → Bool := fun t =>
      t.compileFlags.all (allowed t.language).contains && t.linkFlags.all ["-lm"].contains
    let compiler : Compiler Nat := fun t m => (accepts t, m + 1)
    let search : Search :=
      { candidates := [⟨some "-Wextra", some "-lm"⟩, ⟨some "-Wall", some "-lm"⟩, .bare]
        targets := .both
        profile := ⟨"strict", by decide⟩
        fragment := plainFragment
        link := true
        escalated := false }
    let w : Bench Nat := ⟨0, Store.empty.record ⟨.compile .c, .default⟩ (some "-O2")⟩
    compiler.Monotone ∧ (search.run compiler .none w).1 = .accepted ∧
      let first := search.run compiler .none w
      let second := search.run compiler .none ⟨9, first.2.store⟩
      second.1 = first.1 ∧ ∀ b, (second.2.store.get b).toList = (first.2.store.get b).toList := by
  intro allowed accepts compiler search w
  have hmono : compiler.Monotone := by
    refine ⟨accepts, fun _ _ => rfl, fun t t' hbelow haccepts => ?_⟩
    simp only [accepts, Bool.and_eq_true, List.all_eq_true] at haccepts ⊢
    obtain ⟨hcompile, hlink⟩ := haccepts
    rw [hbelow.language]
    exact ⟨fun flag hflag => hcompile flag (hbelow.compileFlags hflag),
      fun flag hflag => hlink flag (hbelow.linkFlags hflag)⟩
  exact ⟨hmono, by decide, run_again_of_monotone hmono .none search w 9⟩

end Search

end CompilerFlags
