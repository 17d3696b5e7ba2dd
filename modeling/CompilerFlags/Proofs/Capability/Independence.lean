import CompilerFlags.Proofs.Capability.Growth
import CompilerFlags.Proofs.Capability.Slice

/-!
# Independent requests commute

Two requests are independent if neither writes where the other reads.  Requests for different named
profiles are, because both read the default profile but neither writes to it; so are requests for
warnings in different languages, because both read the preprocessor and link buckets but neither writes
to them.

If the compilers and the thread configuration program answer from what they are asked alone
(`Context.Fixed`), then a request gets the same answer whenever its slice of the store reads the same
(`Context.Fixed.check_eq`).  An independent request leaves this slice alone, hence the order of the two
makes no difference.
-/

namespace CompilerFlags

variable {σ : Type} {ctx : Context σ}

/-! ## Answers that are fixed -/

/-- The compiler and the thread configuration program give answers that do not depend on what they
remember. -/
structure Context.Fixed (ctx : Context σ) : Prop where
  compiler : ∃ answer : Trial → Bool, ∀ t m, (ctx.compiler t m).1 = answer t
  threadConfig : ∀ query, ctx.threadConfig = some query →
    ∃ answer : String → Option String, ∀ option m, (query option m).1 = answer option

namespace Context.Fixed

/-- A context with fixed answers gives the same ones from all memories. -/
lemma alike (h : ctx.Fixed) : ctx.Alike (fun _ _ => True) ctx where
  compiler := by
    obtain ⟨answer, hanswer⟩ := h.compiler
    intro t m n _
    exact ⟨(hanswer t m).trans (hanswer t n).symm, trivial⟩
  ids := rfl
  platform := rfl
  cProgram := rfl
  threadFlags := rfl
  threadConfig := by
    cases hconfig : ctx.threadConfig with
    | none => exact .none
    | some query =>
      obtain ⟨answer, hanswer⟩ := h.threadConfig query hconfig
      refine .some fun option _ m n _ => ?_
      exact ⟨(hanswer option m).trans (hanswer option n).symm, trivial⟩

end Context.Fixed

namespace Request

variable {r r' : Request}

/-- The reports that were given before are not looked at. -/
lemma check_of_bench_eq (ctx : Context σ) (r : Request) {s t : Session σ} (h : s.bench = t.bench) :
    (r.check ctx s).1 = (r.check ctx t).1 ∧ (r.check ctx s).2.bench = (r.check ctx t).2.bench := by
  unfold check
  cases hplan : r.plan with
  | error cause =>
    rw [checkWith_of_plan_error hplan, checkWith_of_plan_error hplan]
    exact ⟨rfl, h⟩
  | ok found =>
    rw [checkWith_of_plan_ok hplan, checkWith_of_plan_ok hplan, h]
    exact ⟨rfl, rfl⟩

end Request

/-- With fixed answers, a request gets the same answer in all sessions whose stores agree on its slice,
and they agree on it afterwards. -/
lemma Context.Fixed.check_eq (h : ctx.Fixed) (r : Request) {s t : Session σ}
    (hagree : s.bench.store.AgreeOn r.Reads t.bench.store) :
    (r.check ctx s).1 = (r.check ctx t).1 ∧
      (r.check ctx s).2.bench.store.AgreeOn r.Reads (r.check ctx t).2.bench.store := by
  let u : Session σ := { t with reports := s.reports }
  have hsu : s.Alike (fun _ _ => True) r.Reads u := ⟨⟨trivial, hagree⟩, rfl⟩
  obtain ⟨hanswer, hafter⟩ := r.check_alike h.alike r.covers_reads hsu
  obtain ⟨hanswer', hbench⟩ := r.check_of_bench_eq ctx (s := u) (t := t) rfl
  exact ⟨hanswer.trans hanswer', hbench ▸ hafter.bench.store⟩

/-! ## Requests that do not meddle with each other -/

namespace Request

variable {r r' : Request}

/-- Two requests for different named profiles, or two requests for warnings without a common target
language.  A request without a scope changes nothing and is independent of all others. -/
def Independent (r r' : Request) : Prop :=
  ∀ targets profile targets' profile', r.scope = .ok (targets, profile) →
    r'.scope = .ok (targets', profile') →
    (profile ≠ .default ∧ profile' ≠ .default ∧ profile ≠ profile') ∨
    (r.capability ≠ .threads ∧ r'.capability ≠ .threads ∧ ∀ l ∈ targets, l ∉ targets')

lemma Independent.symm (h : r.Independent r') : r'.Independent r := by
  intro targets' profile' targets profile hscope' hscope
  rcases h targets profile targets' profile' hscope hscope' with ⟨hne, hne', hdiff⟩ | ⟨hr, hr', hdisj⟩
  · exact Or.inl ⟨hne', hne, hdiff.symm⟩
  · exact Or.inr ⟨hr', hr, fun l hl' hl => hdisj l hl hl'⟩

/-- A request reads where it writes. -/
lemma reads_of_writes {b : Bucket} (h : r.Writes b) : r.Reads b := by
  obtain ⟨targets, profile, hscope, hb, _⟩ := h
  exact ⟨targets, profile, hscope, Or.inr hb⟩

/-- An independent request does not write where a request reads. -/
lemma Independent.not_reads (h : r.Independent r') {b : Bucket} (hwrites : r'.Writes b) :
    ¬r.Reads b := by
  obtain ⟨targets', profile', hscope', ⟨hprofile', hlanguage'⟩, hkind⟩ := hwrites
  rintro ⟨targets, profile, hscope, hb⟩
  rcases h targets profile targets' profile' hscope hscope' with ⟨_, hne', hdiff⟩ | ⟨_, hr', hdisj⟩
  · rcases hb with ⟨hprofile, _⟩ | ⟨hprofile, _⟩
    · exact hne' (hprofile'.symm.trans hprofile)
    · exact hdiff (hprofile.symm.trans hprofile')
  · obtain ⟨l, hl⟩ := hkind.resolve_left hr'
    have hmem : l ∈ targets := by
      rcases hb with ⟨_, hlanguage⟩ | ⟨_, hlanguage⟩
      · exact hlanguage l hl
      · exact hlanguage l hl
    exact hdisj l hmem (hlanguage' l hl)

/-- An independent request leaves the slice of a request alone. -/
lemma Independent.agreeOn_reads (h : r.Independent r') (ctx : Context σ) (s : Session σ) :
    s.bench.store.AgreeOn r.Reads (r'.check ctx s).2.bench.store := by
  intro b hreads
  exact ((check_grows ctx r' s).get_eq b fun hwrites => h.not_reads hwrites hreads).symm

/-- Where the later of two independent requests does not write, both orders read the same. -/
lemma Independent.get_eq (h : r.Independent r') (hfixed : ctx.Fixed) (s : Session σ) {b : Bucket}
    (hb : ¬r'.Writes b) :
    (r'.check ctx (r.check ctx s).2).2.bench.store.get b =
      (r.check ctx (r'.check ctx s).2).2.bench.store.get b := by
  rw [(check_grows ctx r' (r.check ctx s).2).get_eq b hb]
  by_cases hreads : r.Reads b
  · exact (hfixed.check_eq r (h.agreeOn_reads ctx s)).2 b hreads
  · have hwrites : ¬r.Writes b := mt reads_of_writes hreads
    calc (r.check ctx s).2.bench.store.get b
        = s.bench.store.get b := (check_grows ctx r s).get_eq b hwrites
      _ = (r'.check ctx s).2.bench.store.get b := ((check_grows ctx r' s).get_eq b hb).symm
      _ = (r.check ctx (r'.check ctx s).2).2.bench.store.get b :=
        ((check_grows ctx r (r'.check ctx s).2).get_eq b hwrites).symm

/-- Two independent requests get the same answers in both orders, and leave stores that read the
same. -/
theorem check_comm_of_independent (hfixed : ctx.Fixed) (h : r.Independent r') (s : Session σ) :
    (r.check ctx s).1 = (r.check ctx (r'.check ctx s).2).1 ∧
      (r'.check ctx s).1 = (r'.check ctx (r.check ctx s).2).1 ∧
      ∀ b, (r'.check ctx (r.check ctx s).2).2.bench.store.get b =
        (r.check ctx (r'.check ctx s).2).2.bench.store.get b := by
  refine ⟨(hfixed.check_eq r (h.agreeOn_reads ctx s)).1,
    (hfixed.check_eq r' (h.symm.agreeOn_reads ctx s)).1, fun b => ?_⟩
  by_cases hb : r'.Writes b
  · have hb' : ¬r.Writes b := fun hwrites => h.not_reads hb (reads_of_writes hwrites)
    exact (h.symm.get_eq hfixed s hb').symm
  · exact h.get_eq hfixed s hb

/-- The check for threads commutes with a warning for another profile, although both read the flags of
the default profile. -/
theorem check_comm_threads_warnExtra :
    let ctx : Context Nat :=
      ⟨fun t m => (!t.compileFlags.contains "-Wall" || t.linkFlags.contains "-lpth", m + 1), .none,
        .darwin, none, ⟨none, none⟩,
        some fun option m => (if option = "--libs" then some "-lpth" else none, m + 1)⟩
    let threads : Request := ⟨.threads, ⟨false, none, none, []⟩⟩
    let extra : Request := ⟨.warnExtra, ⟨false, some "strict", none, []⟩⟩
    let s : Session Nat := .start 0 (Store.empty.record ⟨.compile .c, .default⟩ (some "-Wall"))
    ctx.Fixed ∧ threads.Independent extra ∧
      (threads.check ctx s).1 = (threads.check ctx (extra.check ctx s).2).1 ∧
      (extra.check ctx s).1 = (extra.check ctx (threads.check ctx s).2).1 ∧
      ∀ b, (extra.check ctx (threads.check ctx s).2).2.bench.store.get b =
        (threads.check ctx (extra.check ctx s).2).2.bench.store.get b := by
  intro ctx threads extra s
  have hfixed : ctx.Fixed := by
    refine ⟨⟨_, fun _ _ => rfl⟩, fun query hquery => ?_⟩
    obtain rfl := Option.some.inj hquery
    exact ⟨fun option => if option = "--libs" then some "-lpth" else none, fun _ _ => rfl⟩
  have hthreads : threads.scope = .ok (⟨[.c, .cpp], by decide⟩, ⟨"pthread", by decide⟩) := by decide
  have hextra : extra.scope = .ok (⟨[.c, .cpp], by decide⟩, ⟨"strict", by decide⟩) := rfl
  have hindependent : threads.Independent extra := by
    intro targets profile targets' profile' hscope hscope'
    obtain ⟨_, rfl⟩ := Prod.mk.inj (Except.ok.inj (hthreads.symm.trans hscope))
    obtain ⟨_, rfl⟩ := Prod.mk.inj (Except.ok.inj (hextra.symm.trans hscope'))
    exact Or.inl ⟨by decide, by decide, by decide⟩
  exact ⟨hfixed, hindependent, check_comm_of_independent hfixed hindependent s⟩

end Request

end CompilerFlags
