import CompilerFlags.Proofs.Capability.Sequence

/-!
# Runs of requests

A run is a list of requests that are all answered, one after another (`Request.Runs`).  It determines
the statuses, and with them the reports that are given (`Runs.reports_eq`).

`Request.checkAll` gets through a list exactly along its run (`Runs.checkFrom_eq`); where a request is
refused it stops, with the session that the run of the earlier requests has left
(`Runs.checkFrom_eq_of_error`).

Whatever the compiler and the thread configuration program keep true of the memory is kept by all
requests (`Request.memory_answers`).  Here no new induction over the check is needed: two equal memories
with the property are alike for the context, so that `Request.check_alike` does the work.
-/

namespace CompilerFlags

variable {σ : Type}

/-! ## What is kept true of the memory -/

/-- The compiler and the thread configuration program keep a property of the memory. -/
structure Context.Keeps (I : σ → Prop) (ctx : Context σ) : Prop where
  compiler : ∀ t m, I m → I (ctx.compiler t m).2
  threadConfig : ∀ query, ctx.threadConfig = some query →
    ∀ option ∈ Threads.configOptions, ∀ m, I m → I (query option m).2

section

variable {I : σ → Prop} {ctx : Context σ}

/-- From equal memories with the property a context answers like itself. -/
lemma Context.Keeps.alike (h : ctx.Keeps I) : ctx.Alike (fun m n => m = n ∧ I m) ctx where
  compiler := Compiler.alike_of_keeps h.compiler
  ids := rfl
  platform := rfl
  cProgram := rfl
  threadFlags := rfl
  threadConfig := by
    cases hconfig : ctx.threadConfig with
    | none => exact .none
    | some query =>
      refine .some ?_
      rintro option hoption m _ ⟨rfl, hm⟩
      exact ⟨rfl, rfl, h.threadConfig query hconfig option hoption m hm⟩

/-- A request keeps what its context keeps. -/
lemma Request.memory_check (h : ctx.Keeps I) (r : Request) {s : Session σ} (hs : I s.bench.memory) :
    I (r.check ctx s).2.bench.memory := by
  have hcovers : r.Covers fun _ => True := fun _ _ _ _ _ _ _ => trivial
  have hself : s.Alike (fun m n => m = n ∧ I m) (fun _ => True) s := ⟨⟨⟨rfl, hs⟩, .refl _⟩, rfl⟩
  obtain ⟨_, hafter⟩ := r.check_alike h.alike hcovers hself
  exact hafter.bench.memory.2

/-- Requests keep what their context keeps. -/
lemma Request.memory_answers (h : ctx.Keeps I) (rs : List Request) {s : Session σ}
    (hs : I s.bench.memory) : I (answers ctx rs s).2.bench.memory := by
  induction rs generalizing s with
  | nil => exact hs
  | cons r rs ih => exact ih (r.memory_check h hs)

end

/-! ## Runs -/

namespace Request

/-- Requests that are all answered, the sessions before and after them, and their statuses. -/
inductive Runs (ctx : Context σ) :
    List Request → Session σ → List Status → Session σ → Prop
  | nil (s : Session σ) : Runs ctx [] s [] s
  | cons {r : Request} {rs : List Request} {s t u : Session σ} {status : Status}
      {statuses : List Status} (first : r.check ctx s = (.ok status, t))
      (rest : Runs ctx rs t statuses u) : Runs ctx (r :: rs) s (status :: statuses) u

namespace Runs

variable {ctx : Context σ} {rs : List Request} {s t : Session σ} {statuses : List Status}

lemma length_eq (h : Runs ctx rs s statuses t) : statuses.length = rs.length := by
  induction h with
  | nil s => rfl
  | cons first rest ih => exact congrArg (· + 1) ih

/-- Each request has given its report, and nothing else was reported. -/
lemma reports_eq (h : Runs ctx rs s statuses t) :
    t.reports = s.reports ++ List.zipWith reportOf rs statuses := by
  induction h with
  | nil s => exact (List.append_nil _).symm
  | @cons r rs s t u status statuses first rest ih =>
    have hreports : t.reports = s.reports ++ [r.reportOf status] := by
      have hstatus : (r.check ctx s).1 = .ok status := congrArg Prod.fst first
      rw [← reports_of_check_ok hstatus, first]
    rw [ih, hreports, List.append_assoc]
    rfl

/-- A list of requests is checked to its end along its run. -/
lemma checkFrom_eq (h : Runs ctx rs s statuses t) (number : Nat) :
    checkFrom ctx number rs s = (.ok statuses, t) := by
  induction h generalizing number with
  | nil s => rfl
  | cons first rest ih =>
    unfold checkFrom
    dsimp only
    rw [first]
    dsimp only
    rw [ih]
    rfl

/-- The requests of a run get the answers that they get where none of them ends the sequence. -/
lemma answers_eq (h : Runs ctx rs s statuses t) : answers ctx rs s = (statuses.map .ok, t) := by
  have hall : checkFrom ctx 1 rs s = (.ok statuses, t) := h.checkFrom_eq 1
  have hanswers := answers_of_checkFrom (congrArg Prod.fst hall)
  rw [hanswers, hall]

/-- The first request that is refused ends the check of a list; it is known by its number. -/
lemma checkFrom_eq_of_error (h : Runs ctx rs s statuses t) {r : Request} {e : RequestError}
    (herror : (r.check ctx t).1 = .error e) (later : List Request) (number : Nat) :
    checkFrom ctx number (rs ++ r :: later) s =
      (.error ⟨number + rs.length, r.capability, e⟩, t) := by
  induction h generalizing number with
  | nil s =>
    show checkFrom ctx number (r :: later) s = _
    unfold checkFrom
    dsimp only
    rw [herror, session_of_check_error herror]
    rfl
  | @cons r' rs s t u status statuses first rest ih =>
    show checkFrom ctx number (r' :: (rs ++ r :: later)) s = _
    unfold checkFrom
    dsimp only
    rw [first]
    dsimp only
    rw [ih herror, List.length_cons, Nat.add_assoc, Nat.add_comm 1]
    rfl

end Runs

/-- Requests are all answered, or there is a first one that is refused. -/
lemma runs_or_refused (ctx : Context σ) (rs : List Request) (s : Session σ) :
    (∃ statuses t, Runs ctx rs s statuses t) ∨
      ∃ earlier r later statuses t e, rs = earlier ++ r :: later ∧
        Runs ctx earlier s statuses t ∧ (r.check ctx t).1 = .error e := by
  induction rs generalizing s with
  | nil => exact Or.inl ⟨[], s, .nil s⟩
  | cons r rs ih =>
    cases hfirst : (r.check ctx s).1 with
    | error e => exact Or.inr ⟨[], r, rs, [], s, e, rfl, .nil s, hfirst⟩
    | ok status =>
      have hcheck : r.check ctx s = (.ok status, (r.check ctx s).2) := Prod.ext hfirst rfl
      rcases ih (r.check ctx s).2 with
        ⟨statuses, t, hruns⟩ | ⟨earlier, r', later, statuses, t, e, rfl, hruns, herror⟩
      · exact Or.inl ⟨status :: statuses, t, .cons hcheck hruns⟩
      · exact Or.inr ⟨r :: earlier, r', later, status :: statuses, t, e, rfl,
          .cons hcheck hruns, herror⟩

end Request

end CompilerFlags
