import CompilerFlags.Proofs.Store.Persistence

/-!
# Stores that are restored exactly

A store that is read from its written form reads like the original, but it need not be the same: a
bucket whose last flag was taken out is not written.  It is the same exactly if the original is
*compact*, which means that it has no such bucket (`exists_ofToml_toToml_eq_iff`).

Reading a written store only adds flags, and a bucket that comes into being by an addition holds a flag
from the start.  So whatever is read is compact (`compact_of_ofToml`), and among compact stores those
that read the same are equal (`Compact.ext_get`).
-/

namespace CompilerFlags

lemma OrderedSet.isEmpty_insert {α : Type} [DecidableEq α] (s : OrderedSet α) (a : α) :
    (s.insert a).isEmpty = false :=
  List.isEmpty_eq_false_iff_exists_mem.2 ⟨a, mem_insert.2 (Or.inr rfl)⟩

namespace Store

/-- Every bucket that was ever written holds a flag. -/
def Compact (s : Store) : Prop := ∀ e ∈ s.entries, e.2.isEmpty = false

variable {s t : Store}

namespace Compact

lemma add (h : s.Compact) (b : Bucket) (flag : String) : (s.add b flag).2.Compact := by
  intro e he
  rcases mem_alterEntries he with he | ⟨fs, rfl⟩
  · exact h e he
  · exact fs.isEmpty_insert flag

lemma addMany (h : s.Compact) (b : Bucket) (flags : List String) :
    (s.addMany b flags).Compact := by
  induction flags generalizing s with
  | nil => exact h
  | cons flag flags ih => exact ih (h.add b flag)

lemma fill (h : s.Compact) {lists : List (String × List String)} (hfill : s.fill lists = .ok t) :
    t.Compact := by
  induction lists generalizing s with
  | nil =>
    obtain rfl := Except.ok.inj hfill
    exact h
  | cons l lists ih =>
    rw [Store.fill] at hfill
    split at hfill
    · cases hfill
    · next b _ => exact ih (h.addMany b l.2) hfill

/-- A compact store writes all its buckets. -/
lemma filled_eq (h : s.Compact) : s.filled = s.entries :=
  List.filter_eq_self.2 fun e he => by rw [h e he, Bool.not_false]

/-- Compact stores are known by what is read from them. -/
lemma ext_get (hs : s.Compact) (ht : t.Compact) (h : ∀ b, s.get b = t.get b) : s = t := by
  apply Store.ext
  rw [← hs.filled_eq, ← ht.filled_eq, filled_congr h]

end Compact

/-- Whatever is read from a text is compact. -/
lemma compact_of_ofToml {text : String} (h : ofToml text = .ok t) : t.Compact := by
  unfold ofToml at h
  split at h
  · cases h
  · next lists _ =>
    cases hlists : ofLists lists with
    | error e =>
      rw [hlists] at h
      cases h
    | ok t' =>
      rw [hlists] at h
      obtain rfl := Except.ok.inj h
      exact Compact.fill (s := empty) (fun _ he => nomatch he) hlists

/-- The written form of a store is read back: the same flags are read from every bucket in the same
order, the written form is the same again, and the store itself is the same if and only if each of its
buckets holds a flag. -/
theorem exists_ofToml_toToml_eq_iff (s : Store) :
    ∃ t, ofToml s.toToml = .ok t ∧ (∀ b, (t.get b).toList = (s.get b).toList) ∧
      t.toToml = s.toToml ∧ (t = s ↔ s.Compact) := by
  obtain ⟨t, hload, hread⟩ := s.exists_ofToml_toToml
  have hcompact : t.Compact := compact_of_ofToml hload
  refine ⟨t, hload, fun b => congrArg OrderedSet.toList (hread b), toToml_congr hread, ?_, ?_⟩
  · rintro rfl
    exact hcompact
  · exact fun hs => hcompact.ext_get hs hread

/-- A bucket that was emptied again reads like none, but it is there. -/
example :
    let s := ((empty.add ⟨.link, .default⟩ "-lm").2.discard ⟨.link, .default⟩ "-lm").2
    s.filled = empty.filled ∧ s ≠ empty := by
  decide

end Store

end CompilerFlags
