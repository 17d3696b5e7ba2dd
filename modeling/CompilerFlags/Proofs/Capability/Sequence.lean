import CompilerFlags.Capability.Sequence
import CompilerFlags.Proofs.Capability.Alike
import CompilerFlags.Proofs.Search.Course

/-!
# Requests one after another

`Request.answers` checks a list of requests to its end and collects what each of them gets;
`Request.calls` are the calls that are made on the way.  A list that `Request.checkAll` gets through
has the same answers (`answers_of_checkFrom`).

The calls are read off a run in a context that is `recorded`: its compiler writes down every call
beside its memory.  Nothing else is different there (`answers_recorded`).
-/

namespace CompilerFlags

variable {σ τ : Type}

namespace Request

/-- Checks requests one after another, also those after a request that makes no sense. -/
def answers (ctx : Context σ) :
    List Request → Session σ → List (Except RequestError Status) × Session σ
  | [], s => ([], s)
  | r :: rs, s =>
    let first := r.check ctx s
    let others := answers ctx rs first.2
    (first.1 :: others.1, others.2)

/-- Requests that all make sense get the same answers if a senseless one would end the sequence. -/
lemma answers_of_checkFrom {ctx : Context σ} {number : Nat} {rs : List Request} {s : Session σ}
    {statuses : List Status} (h : (checkFrom ctx number rs s).1 = .ok statuses) :
    answers ctx rs s = (statuses.map .ok, (checkFrom ctx number rs s).2) := by
  induction rs generalizing number s statuses with
  | nil =>
    obtain rfl := Except.ok.inj h
    rfl
  | cons r rs ih =>
    unfold checkFrom at h ⊢
    dsimp only at h ⊢
    cases hfirst : (r.check ctx s).1 with
    | error e =>
      rw [hfirst] at h
      cases h
    | ok status =>
      rw [hfirst] at h
      dsimp only at h ⊢
      cases hothers : (checkFrom ctx (number + 1) rs (r.check ctx s).2).1 with
      | error e =>
        rw [hothers] at h
        cases h
      | ok others =>
        rw [hothers] at h
        obtain rfl := Except.ok.inj h
        unfold answers
        dsimp only
        rw [ih hothers, hfirst]
        rfl

/-- Contexts that answer alike cannot be told apart by any number of requests. -/
lemma answers_alike {R : σ → τ → Prop} {P : Bucket → Prop} {ctx : Context σ} {other : Context τ}
    (hctx : ctx.Alike R other) {rs : List Request} (hcovers : ∀ r ∈ rs, r.Covers P) {s : Session σ}
    {t : Session τ} (h : s.Alike R P t) :
    Session.SameAnswer R P (answers ctx rs s) (answers other rs t) := by
  induction rs generalizing s t with
  | nil => exact ⟨rfl, h⟩
  | cons r rs ih =>
    obtain ⟨hfirst, hafter⟩ := r.check_alike hctx (hcovers r List.mem_cons_self) h
    obtain ⟨hothers, hend⟩ := ih (fun r' hr' => hcovers r' (List.mem_cons_of_mem r hr')) hafter
    unfold answers
    dsimp only
    rw [hfirst]
    exact ⟨congrArg _ hothers, hend⟩

end Request

/-! ## Contexts with a record -/

/-- The program that answers from the memory beside a record of calls. -/
def Query.recorded (query : Query σ) : Query (σ × List Call) := fun option m =>
  let answer := query option m.1
  (answer.1, answer.2, m.2)

/-- The context in which a record of all calls is kept. -/
def Context.recorded (ctx : Context σ) : Context (σ × List Call) where
  compiler := ctx.compiler.recorded
  ids := ctx.ids
  platform := ctx.platform
  cProgram := ctx.cProgram
  threadFlags := ctx.threadFlags
  threadConfig := ctx.threadConfig.map Query.recorded

/-- The session in which a record begins. -/
def Session.unrecorded (s : Session σ) : Session (σ × List Call) :=
  { bench := s.bench.unrecorded, reports := s.reports }

/-- Keeping a record changes nothing but the record. -/
lemma Context.recorded_alike (ctx : Context σ) : ctx.recorded.Alike (fun m n => m.1 = n) ctx where
  compiler := ctx.compiler.recorded_alike
  ids := rfl
  platform := rfl
  cProgram := rfl
  threadFlags := rfl
  threadConfig := by
    unfold recorded
    dsimp only
    cases ctx.threadConfig with
    | none => exact .none
    | some query =>
      refine .some ?_
      rintro option _ m _ rfl
      exact ⟨rfl, rfl⟩

/-- The thread configuration program does not touch the record. -/
lemma Threads.consultConfig_recorded (ctx : Context σ) (m : σ × List Call) :
    consultConfig ctx.recorded m =
      ((consultConfig ctx m.1).1, (consultConfig ctx m.1).2, m.2) := by
  unfold consultConfig Context.recorded
  dsimp only
  cases ctx.threadConfig with
  | none => rfl
  | some query => rfl

namespace Request

/-- The calls that are made for requests, the oldest first. -/
def calls (ctx : Context σ) (rs : List Request) (s : Session σ) : List Call :=
  (answers ctx.recorded rs s.unrecorded).2.bench.memory.2

/-- With a record, requests get the same answers and leave a session that is the same but for the
record. -/
lemma answers_recorded (ctx : Context σ) (rs : List Request) (s : Session σ) :
    Session.SameAnswer (fun m n => m.1 = n) (fun _ => True)
      (answers ctx.recorded rs s.unrecorded) (answers ctx rs s) :=
  answers_alike ctx.recorded_alike (fun _ _ _ _ _ _ _ _ _ => trivial) ⟨⟨rfl, .refl _⟩, rfl⟩

end Request

end CompilerFlags
