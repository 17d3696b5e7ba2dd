import CompilerFlags.Proofs.Capability.Keeping
import CompilerFlags.Proofs.Capability.Sequence

/-!
# What a refusing compiler is asked

A compiler that refuses everything is asked about every candidate, so that its calls show all that a
request may try.  The compiler `once` refuses as soon as its memory says so; before that it accepts
one trial, which is enough for the user's thread flags to be taken.

* `Search.run_spent`: all candidates of a search are tried, in all languages that they are eligible
  for.
* `Threads.detect_spent`: the same for the table of thread flags.
* `Threads.detect_once`: if the one trial is that of the user's thread flags, they stay.
-/

namespace CompilerFlags

/-- The compiler that accepts the next trial if its memory says so, and refuses all later ones. -/
def once : Compiler Bool := fun _ m => (m, false)

/-- A memory that refuses, with refused calls only after the earlier ones. -/
def Spent (earlier : List Call) (m : Bool × List Call) : Prop :=
  m.1 = false ∧ ∃ later, m.2 = earlier ++ later ∧ ∀ call ∈ later, call.answer = false

lemma recorded_compiler_of_eq_once {ctx : Context Bool} (hctx : ctx.compiler = once) :
    ctx.recorded.compiler = once.recorded :=
  congrArg Compiler.recorded hctx

/-- A compiler that refuses goes on refusing. -/
lemma spent_once (earlier : List Call) (t : Trial) (m : Bool × List Call)
    (h : Spent earlier m) : Spent earlier (once.recorded t m).2 := by
  obtain ⟨hm, later, hlater, hanswers⟩ := h
  refine ⟨rfl, later ++ [⟨t, m.1⟩], ?_, ?_⟩
  · show m.2 ++ [_] = _
    rw [hlater, List.append_assoc]
    rfl
  · intro call hcall
    rcases List.mem_append.1 hcall with hcall | hcall
    · exact hanswers call hcall
    · obtain rfl := List.mem_singleton.1 hcall
      exact hm

/-- All candidates of a search are refused in all languages that they are eligible for. -/
lemma Search.run_spent (ids : CompilerIds) (search : Search) {w : Bench (Bool × List Call)}
    (hw : w.memory.1 = false) :
    ∃ calls, (search.run once.recorded ids w).1.isSuccess = false ∧
      (search.run once.recorded ids w).2.memory = (false, w.memory.2 ++ calls) ∧
      calls.map Call.trial = search.candidates.flatMap (search.trialsOf ids w.store) := by
  have hspent : Spent w.memory.2 w.memory := ⟨hw, [], (List.append_nil _).symm, by simp⟩
  obtain ⟨hm, later, hlater, hanswers⟩ := search.memory_run (spent_once w.memory.2) ids hspent
  obtain ⟨calls, winner, hcourse, houtcome, hmemory, _⟩ :=
    walk_recorded once ids search false search.candidates w
  have heq : later = calls := List.append_cancel_left (hlater.symm.trans hmemory)
  have hnone : winner = none := hcourse.eq_none fun call hcall => hanswers call (heq ▸ hcall)
  refine ⟨calls, ?_, Prod.ext hm hmemory, (hcourse.of_eq_none hnone).1⟩
  have hresult : (search.run once.recorded ids w).1 = search.outcomeOf false calls winner :=
    houtcome
  rw [hresult, isSuccess_outcomeOf, hnone]
  rfl

/-! ## Threads -/

namespace Threads

variable {σ : Type}

section

variable {ctx : Context Bool} (targets : Targets) (profile : Profile)
  {w : Bench (Bool × List Call)}

/-- A refusing compiler refuses the user's thread flags and goes on refusing. -/
lemma tryUserFlags_spent (hctx : ctx.compiler = once) (primary : Language)
    (hw : w.memory.1 = false) :
    (tryUserFlags ctx.recorded targets profile primary w).1 = false ∧
      (tryUserFlags ctx.recorded targets profile primary w).2.memory.1 = false := by
  unfold tryUserFlags
  rw [recorded_compiler_of_eq_once hctx]
  split
  · dsimp only [Bench.builds, Compiler.recorded, once]
    rw [hw]
    exact ⟨rfl, rfl⟩
  · exact ⟨rfl, hw⟩

/-- A thread configuration program that leaves the memory of the compiler alone. -/
def Quiet (ctx : Context σ) : Prop :=
  ∀ query, ctx.threadConfig = some query → ∀ option m, (query option m).2 = m

lemma consultConfig_quiet {ctx : Context σ} (h : Quiet ctx) (m : σ) :
    (consultConfig ctx m).2 = m := by
  unfold consultConfig
  split
  · rfl
  · next query hquery =>
    dsimp only [consult, ask]
    rw [h query hquery, h query hquery, h query hquery]

/-- A refusing compiler is asked about the whole table of thread flags, in a store that has lost
nothing. -/
lemma detect_spent (hctx : ctx.compiler = once) (hquiet : Quiet ctx) (hw : w.memory.1 = false) :
    let table := search (candidateTable ctx.platform (consultConfig ctx false).1) targets profile
    ∃ s, w.store.Keeps s ∧ ∀ c ∈ table.candidates, ∀ t ∈ table.trialsOf ctx.ids s c,
      ∃ call ∈ (detect ctx.recorded targets profile w).2.memory.2, call.trial = t := by
  intro table
  let user := tryUserFlags ctx.recorded targets profile (targets.primary?.getD .c) w
  obtain ⟨hrefused, hspent⟩ := tryUserFlags_spent targets profile hctx
    (targets.primary?.getD .c) hw
  have hkeeps : w.store.Keeps user.2.store := (tryUserFlags_grows _ _ _ _ w).keeps
  have hconfig : consultConfig ctx.recorded user.2.memory =
      ((consultConfig ctx false).1, user.2.memory) := by
    rw [consultConfig_recorded, consultConfig_quiet hquiet, hspent]
    exact congrArg _ (Prod.ext hspent.symm rfl)
  obtain ⟨calls, hfailed, hmemory, htrials⟩ := Search.run_spent ctx.ids table
    (w := user.2) hspent
  have hfound : searchTable ctx.recorded targets profile user.2 =
      (false, (table.run once.recorded ctx.ids user.2).2) := by
    unfold searchTable
    rw [hconfig, recorded_compiler_of_eq_once hctx]
    exact Prod.ext hfailed rfl
  have hdetect : (detect ctx.recorded targets profile w).2 =
      (table.run once.recorded ctx.ids user.2).2 := by
    unfold detect
    dsimp only
    rw [findFlags_of_refused hrefused, hfound]
    rfl
  refine ⟨user.2.store, hkeeps, fun c hc t ht => ?_⟩
  have hmem : t ∈ calls.map Call.trial := htrials ▸ List.mem_flatMap.2 ⟨c, hc, ht⟩
  obtain ⟨call, hcall, rfl⟩ := List.mem_map.1 hmem
  refine ⟨call, ?_, rfl⟩
  rw [hdetect, hmemory]
  exact List.mem_append_right _ hcall

/-- A refusing compiler goes on refusing, whatever the thread configuration program is asked. -/
lemma recorded_refusing_alike (hctx : ctx.compiler = once) (hquiet : Quiet ctx) :
    ctx.recorded.Alike (fun m n => m = n ∧ m.1 = false) ctx.recorded where
  compiler := by
    rw [recorded_compiler_of_eq_once hctx]
    rintro t m _ ⟨rfl, _⟩
    exact ⟨rfl, rfl, rfl⟩
  ids := rfl
  platform := rfl
  cProgram := rfl
  threadFlags := rfl
  threadConfig := by
    show Option.Rel _ (ctx.threadConfig.map Query.recorded) (ctx.threadConfig.map Query.recorded)
    cases hconfig : ctx.threadConfig with
    | none => exact .none
    | some query =>
      refine .some ?_
      rintro option _ m _ ⟨rfl, hm⟩
      exact ⟨rfl, rfl, (hquiet query hconfig option m.1).trans hm⟩

/-- If the one trial that `once` accepts is that of the user's thread flags, they stay. -/
lemma detect_once (hctx : ctx.compiler = once) (hquiet : Quiet ctx)
    (hset : ctx.threadFlags.isSet = true) (hprimary : targets.primary?.getD .c ∈ targets.toList)
    (hw : w.memory.1 = true) :
    (detect ctx.recorded targets profile w).2.memory.1 = false ∧
      ∀ e ∈ userEntries ctx.threadFlags targets profile,
        e.2 ∈ (detect ctx.recorded targets profile w).2.store.get e.1 := by
  let primary := targets.primary?.getD .c
  let user := tryUserFlags ctx.recorded targets profile primary w
  obtain ⟨haccepted, hspent, hstore⟩ : user.1 = true ∧ user.2.memory.1 = false ∧
      user.2.store = (addEntries (userEntries ctx.threadFlags targets profile) w.store).2 := by
    have hset' : ctx.recorded.threadFlags.isSet = true := hset
    show (tryUserFlags ctx.recorded targets profile primary w).1 = true ∧
      (tryUserFlags ctx.recorded targets profile primary w).2.memory.1 = false ∧
      (tryUserFlags ctx.recorded targets profile primary w).2.store = _
    unfold tryUserFlags
    rw [recorded_compiler_of_eq_once hctx, if_pos hset']
    dsimp only [Bench.builds, Compiler.recorded, once]
    rw [hw]
    exact ⟨rfl, rfl, rfl⟩
  have hdetect : detect ctx.recorded targets profile w =
      adjust ctx.recorded targets profile primary user.2 :=
    detect_of_findFlags rfl (findFlags_of_taken haccepted)
  have hcovers : Bucket.Covers (fun _ => True) targets.toList profile := fun _ _ _ _ => trivial
  obtain ⟨_, hafter⟩ := adjust_alike (recorded_refusing_alike hctx hquiet) hcovers hprimary
    (w := user.2) ⟨⟨rfl, hspent⟩, .refl _⟩
  rw [hdetect]
  refine ⟨hafter.memory.2, fun e he => (adjust_grows _ _ _ _ _).mem ?_⟩
  rw [hstore]
  exact mem_addEntries he w.store

end

end Threads

end CompilerFlags
