import CompilerFlags.Proofs.Store.Reading

/-!
# Searches that cannot be told apart

Two searches with the same candidates look alike from outside if their compilers answer alike and
their stores agree on all buckets that the target languages see.  The memories of the two compilers
need not be equal, nor even of one type: a relation `R` between them is enough, provided that
compilers whose memories are related answer the same and end in related memories again.

`run_alike` follows such a pair of searches through all their trials.  With equality for `R` it says
that a search reads only a slice of its store; with a projection for `R` it says that a compiler may
keep a record of its trials without changing anything.
-/

namespace CompilerFlags

variable {σ τ : Type}

/-- From related memories two compilers give the same answers and keep related memories. -/
def Compiler.Alike (R : σ → τ → Prop) (compiler : Compiler σ) (other : Compiler τ) : Prop :=
  ∀ t m n, R m n → (compiler t m).1 = (other t n).1 ∧ R (compiler t m).2 (other t n).2

/-- From equal memories with a property that it keeps, a compiler answers like itself. -/
lemma Compiler.alike_of_keeps {I : σ → Prop} {compiler : Compiler σ}
    (h : ∀ t m, I m → I (compiler t m).2) : compiler.Alike (fun m n => m = n ∧ I m) compiler := by
  rintro t m _ ⟨rfl, hm⟩
  exact ⟨rfl, rfl, h t m hm⟩

/-- Two benches with related memories and with stores that agree on some buckets. -/
structure Bench.Alike (R : σ → τ → Prop) (P : Bucket → Prop) (w : Bench σ) (v : Bench τ) : Prop where
  memory : R w.memory v.memory
  store : w.store.AgreeOn P v.store

/-- Two results are the same and come with benches that are alike. -/
def Bench.SameAnswer {α : Type} (R : σ → τ → Prop) (P : Bucket → Prop) (x : α × Bench σ)
    (y : α × Bench τ) : Prop :=
  x.1 = y.1 ∧ x.2.Alike R P y.2

/-- Every bucket that one of the languages sees under a profile has the property. -/
def Bucket.Covers (P : Bucket → Prop) (ls : List Language) (profile : Profile) : Prop :=
  ∀ l ∈ ls, ∀ b : Bucket, b.VisibleTo l profile → P b

lemma Bucket.visibleTo_compile (l : Language) (profile : Profile) :
    VisibleTo l profile ⟨.compile l, profile⟩ :=
  ⟨Or.inr rfl, fun _ h => (FlagKind.compile.inj h).symm⟩

lemma Bucket.visibleTo_link (l : Language) (profile : Profile) :
    VisibleTo l profile ⟨.link, profile⟩ :=
  ⟨Or.inr rfl, fun _ h => FlagKind.noConfusion h⟩

lemma Bucket.visibleTo_preprocessor (l : Language) (profile : Profile) :
    VisibleTo l profile ⟨.preprocessor, profile⟩ :=
  ⟨Or.inr rfl, fun _ h => FlagKind.noConfusion h⟩

section

variable {R : σ → τ → Prop} {P : Bucket → Prop} {w : Bench σ} {v : Bench τ}

/-- The addition of a flag is new on both benches or on neither. -/
lemma Bench.Alike.addFlag (h : w.Alike R P v) {b : Bucket} (hb : P b) (flag : Option String) :
    SameAnswer R P (w.addFlag b flag) (v.addFlag b flag) := by
  refine ⟨?_, ?_, ?_⟩
  · cases flag with
    | none => rfl
    | some f =>
      show (!w.store.contains b f) = !v.store.contains b f
      rw [h.store.contains_eq hb]
  · rw [addFlag_memory, addFlag_memory]
    exact h.memory
  · rw [addFlag_store, addFlag_store]
    exact h.store.record b flag

lemma Bench.Alike.dropFlag (h : w.Alike R P v) (b : Bucket) (flag : Option String) :
    (w.dropFlag b flag).Alike R P (v.dropFlag b flag) := by
  cases flag with
  | none => exact h
  | some f => exact ⟨h.memory, h.store.discard b f⟩

variable {compiler : Compiler σ} {other : Compiler τ}

/-- One trial on both benches. -/
lemma Bench.Alike.builds (hc : compiler.Alike R other) (h : w.Alike R P v) {l : Language}
    {profile : Profile} (hl : ∀ b : Bucket, b.VisibleTo l profile → P b) (fragment : String)
    (link : Bool) :
    SameAnswer R P (w.builds compiler l profile fragment link)
      (v.builds other l profile fragment link) := by
  have htrial := (h.store.mono hl).trial_eq fragment link
  obtain ⟨hanswer, hmemory⟩ := hc (w.store.trial l profile fragment link) w.memory v.memory h.memory
  unfold SameAnswer Bench.builds
  rw [← htrial]
  exact ⟨hanswer, hmemory, h.store⟩

end

namespace Search

variable {R : σ → τ → Prop} {P : Bucket → Prop} {compiler : Compiler σ} {other : Compiler τ}

lemma tryLanguage_alike (hc : compiler.Alike R other) (search : Search) (c : Candidate) {l : Language}
    (hl : ∀ b : Bucket, b.VisibleTo l search.profile → P b) {w : Bench σ} {v : Bench τ}
    (h : w.Alike R P v) :
    Bench.SameAnswer R P (tryLanguage compiler search c l w) (tryLanguage other search c l v) := by
  have hbucket := hl _ (Bucket.visibleTo_compile l search.profile)
  obtain ⟨hnew, hadded⟩ := h.addFlag hbucket c.compile
  obtain ⟨hanswer, hafter⟩ := hadded.builds hc hl search.fragment search.link
  unfold tryLanguage
  simp only [← hnew, ← hanswer]
  split
  · exact ⟨rfl, hafter.dropFlag _ _⟩
  · exact ⟨hanswer, hafter⟩

lemma tryLanguages_alike (hc : compiler.Alike R other) (search : Search) (c : Candidate)
    {ls : List Language} (hls : Bucket.Covers P ls search.profile) {w : Bench σ} {v : Bench τ}
    (h : w.Alike R P v) :
    Bench.SameAnswer R P (tryLanguages compiler search c ls w)
      (tryLanguages other search c ls v) := by
  induction ls generalizing w v with
  | nil => exact ⟨rfl, h⟩
  | cons l ls ih =>
    obtain ⟨hfirst, hrest⟩ := tryLanguage_alike hc search c (hls l List.mem_cons_self) h
    obtain ⟨hothers, hafter⟩ := ih (fun l' hl' => hls l' (List.mem_cons_of_mem l hl')) hrest
    unfold tryLanguages
    exact ⟨by simp only [hfirst, hothers], hafter⟩

lemma tryCandidate_alike (hc : compiler.Alike R other) (search : Search) (c : Candidate)
    {ls : List Language} (hls : Bucket.Covers P ls search.profile) (hne : ls ≠ []) {w : Bench σ}
    {v : Bench τ} (h : w.Alike R P v) :
    Bench.SameAnswer R P (tryCandidate compiler search c ls w)
      (tryCandidate other search c ls v) := by
  obtain ⟨l, hl⟩ := List.exists_mem_of_ne_nil ls hne
  have hbucket := hls l hl _ (Bucket.visibleTo_link l search.profile)
  obtain ⟨hnew, hadded⟩ := h.addFlag hbucket c.link
  obtain ⟨hanswer, hafter⟩ := tryLanguages_alike hc search c hls hadded
  unfold tryCandidate
  simp only [← hnew, ← hanswer]
  split
  · exact ⟨rfl, hafter.dropFlag _ _⟩
  · exact ⟨hanswer, hafter⟩

lemma walk_alike (hc : compiler.Alike R other) (ids : CompilerIds) (search : Search)
    (hls : Bucket.Covers P search.targets.toList search.profile) (asked : Bool)
    (cs : List Candidate) {w : Bench σ} {v : Bench τ} (h : w.Alike R P v) :
    Bench.SameAnswer R P (walk compiler ids search asked cs w) (walk other ids search asked cs v) := by
  induction cs generalizing asked w v with
  | nil => exact ⟨rfl, h⟩
  | cons c cs ih =>
    unfold walk
    split
    · exact ih asked h
    · next l ls heq =>
      have hcovers : Bucket.Covers P (l :: ls) search.profile := by
        intro l' hl'
        rw [← heq] at hl'
        exact hls l' (List.mem_of_mem_filter hl')
      obtain ⟨hanswer, hafter⟩ :=
        tryCandidate_alike hc search c hcovers (List.cons_ne_nil l ls) h
      simp only [← hanswer]
      split
      · exact ⟨rfl, hafter⟩
      · exact ih true hafter

/-- Searches with compilers that answer alike, on stores that agree on what the targets see, end the
same way. -/
theorem run_alike (hc : compiler.Alike R other) (ids : CompilerIds) (search : Search)
    (hls : Bucket.Covers P search.targets.toList search.profile) {w : Bench σ} {v : Bench τ}
    (h : w.Alike R P v) :
    Bench.SameAnswer R P (search.run compiler ids w) (search.run other ids v) :=
  walk_alike hc ids search hls false search.candidates h

/-- What a compiler keeps true of its memory is kept by a search. -/
lemma memory_run {I : σ → Prop} (hkeeps : ∀ t m, I m → I (compiler t m).2) (ids : CompilerIds)
    (search : Search) {w : Bench σ} (hw : I w.memory) : I (search.run compiler ids w).2.memory := by
  have hself : w.Alike (fun m n => m = n ∧ I m) (fun _ => True) w := ⟨⟨rfl, hw⟩, .refl _⟩
  obtain ⟨_, hafter⟩ :=
    run_alike (Compiler.alike_of_keeps hkeeps) ids search (fun _ _ _ _ => trivial) hself
  exact hafter.memory.2

end Search

end CompilerFlags
