/-!
# Computations that pause

Programs that run side by side share a state, and only one of them runs at a time.  A `Task` is a
computation that may pause: it hands the state over, says what it waits for, and goes on with the
state that it gets back.  In between other tasks may have changed the state.

`Task.andThen` puts tasks one after another.  It is associative and `done` is neutral for it, so
that only the order of the pauses matters, and not how a task was put together.
-/

namespace CompilerFlags.Script

/-- What a program that pauses waits for. -/
inductive Wait
  /-- Nothing but its next turn. -/
  | turn
  /-- Something that can be read from a pipe, or the end of its writers. -/
  | input (pipe : Nat)
  /-- Room for so many octets in a pipe, or the end of its readers. -/
  | room (pipe octets : Nat)
  /-- The end of a program that it has started. -/
  | child
deriving DecidableEq, Repr

/-- A computation that may pause and hand a state over to others. -/
inductive Task (σ α : Type) where
  | done (a : α)
  | pause (w : Wait) (s : σ) (go : σ → Task σ α)

namespace Task

variable {σ α β γ : Type}

/-- A task and then another one. -/
def andThen : Task σ α → (α → Task σ β) → Task σ β
  | done a, f => f a
  | pause w s go, f => pause w s fun s => (go s).andThen f

/-- A task and then another one.  A task that does not pause needs no recursion. -/
@[always_inline, inline]
def bind (x : Task σ α) (f : α → Task σ β) : Task σ β :=
  match x with
  | done a => f a
  | pause w s go => pause w s fun s => (go s).andThen f

@[always_inline]
instance : Monad (Task σ) where
  pure := done
  bind := bind

/-- It does not matter which of the two ways to put tasks together is taken. -/
theorem bind_eq_andThen (x : Task σ α) (f : α → Task σ β) : x.bind f = x.andThen f := by
  cases x <;> rfl

/-- Nothing changes if a task is followed by one that does nothing. -/
theorem andThen_done (x : Task σ α) : x.andThen done = x := by
  induction x with
  | done a => rfl
  | pause w s go ih => simp only [andThen, ih]

/-- How three tasks are put together does not matter. -/
theorem andThen_assoc (x : Task σ α) (f : α → Task σ β) (g : β → Task σ γ) :
    (x.andThen f).andThen g = x.andThen fun a => (f a).andThen g := by
  induction x with
  | done a => rfl
  | pause w s go ih => simp only [andThen, ih]

end Task

end CompilerFlags.Script
