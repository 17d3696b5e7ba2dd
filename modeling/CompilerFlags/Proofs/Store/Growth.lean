import CompilerFlags.Proofs.Store.Reading

/-!
# Stores that only grow

A store *grows within* some buckets if flags are added at the ends of these buckets and nothing else is
read differently.  That is the whole effect that the check of a request has on a store, whatever it
tries and takes out again on the way.

`GrowsWithin` is a preorder for every choice of buckets.  It is stated of what is read, hence a store
from which something was taken out counts as unchanged once it reads as before
(`GrowsWithin.of_agree`).
-/

namespace CompilerFlags

section

variable {α : Type} [DecidableEq α]

lemma prefix_appendNew (l : List α) (a? : Option α) : l <+: appendNew l a? := by
  unfold appendNew
  split
  · exact List.prefix_rfl
  · split
    · exact List.prefix_rfl
    · exact List.prefix_append l _

lemma length_appendNew_le (l : List α) (a? : Option α) : (appendNew l a?).length ≤ l.length + 1 := by
  unfold appendNew
  split
  · exact Nat.le_succ _
  · split
    · exact Nat.le_succ _
    · exact Nat.le_of_eq List.length_append

end

namespace Store

/-- Every flag that is read from one store is read from the other. -/
def Keeps (s t : Store) : Prop := ∀ b, ∀ flag ∈ s.get b, flag ∈ t.get b

/-- Flags are added at the ends of the buckets with a property, and all other buckets read as
before. -/
structure GrowsWithin (P : Bucket → Prop) (s t : Store) : Prop where
  /-- What was read from a bucket is read first from it. -/
  appended : ∀ b, (s.get b).toList <+: (t.get b).toList
  get_eq : ∀ b, ¬P b → t.get b = s.get b

namespace GrowsWithin

variable {P Q : Bucket → Prop} {s t u : Store}

lemma refl (s : Store) : s.GrowsWithin P s := ⟨fun _ => List.prefix_rfl, fun _ _ => rfl⟩

lemma trans (h : s.GrowsWithin P t) (h' : t.GrowsWithin P u) : s.GrowsWithin P u :=
  ⟨fun b => (h.appended b).trans (h'.appended b),
    fun b hb => (h'.get_eq b hb).trans (h.get_eq b hb)⟩

lemma mono (h : s.GrowsWithin P t) (hPQ : ∀ b, P b → Q b) : s.GrowsWithin Q t :=
  ⟨h.appended, fun b hb => h.get_eq b (mt (hPQ b) hb)⟩

/-- A store that reads as before has grown nowhere. -/
lemma of_agree (h : s.AgreeOn (fun _ => True) t) : s.GrowsWithin P t :=
  ⟨fun b => h b trivial ▸ List.prefix_rfl, fun b _ => (h b trivial).symm⟩

/-- A store grows if at most one flag is added to each bucket, and none to the others. -/
lemma of_insert? (h : ∀ b, ∃ flag, t.get b = (s.get b).insert? flag ∧ (P b ∨ flag = none)) :
    s.GrowsWithin P t := by
  constructor
  · intro b
    obtain ⟨flag, hget, _⟩ := h b
    rw [hget, OrderedSet.toList_insert?]
    exact prefix_appendNew _ flag
  · intro b hb
    obtain ⟨flag, hget, hflag⟩ := h b
    rw [hget, hflag.resolve_left hb, OrderedSet.insert?_none]

/-- Recording a flag makes a store grow within the bucket of the flag. -/
lemma record (s : Store) {b : Bucket} (hb : P b) (flag : Option String) :
    s.GrowsWithin P (s.record b flag) := by
  refine of_insert? fun c => ?_
  by_cases hc : c = b
  · exact ⟨flag, by rw [hc, get_record_self], Or.inl (hc ▸ hb)⟩
  · exact ⟨none, get_record_of_ne hc s flag, Or.inr rfl⟩

/-- Flags are kept where they are. -/
lemma mem (h : s.GrowsWithin P t) {b : Bucket} {flag : String} (hflag : flag ∈ s.get b) :
    flag ∈ t.get b :=
  (h.appended b).subset hflag

lemma keeps (h : s.GrowsWithin P t) : s.Keeps t :=
  fun _ _ hflag => h.mem hflag

end GrowsWithin

end Store

end CompilerFlags
