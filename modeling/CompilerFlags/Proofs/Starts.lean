import CompilerFlags.Text
import Mathlib.Data.List.Basic
import Mathlib.Tactic.Lemma

/-!
# How texts start

Flags and the names of systems are told apart by how they start.  Of two starts of one text one is a
start of the other (`starts_or_starts`), so starts of which neither begins with the other exclude each
other.
-/

namespace CompilerFlags.Text

variable {p q s : String}

lemma starts_append (p r : String) : starts p (p ++ r) = true := by
  rw [starts_iff, String.toList_append]
  exact List.prefix_append _ _

lemma exists_of_starts (h : starts p s = true) : ∃ r, s = p ++ r := by
  obtain ⟨r, hr⟩ := starts_iff.1 h
  refine ⟨String.ofList r, String.toList_injective ?_⟩
  rw [String.toList_append, String.toList_ofList, hr]

lemma starts_trans (hpq : starts p q = true) (hqs : starts q s = true) : starts p s = true :=
  starts_iff.2 ((starts_iff.1 hpq).trans (starts_iff.1 hqs))

/-- Of two starts of a text one is a start of the other. -/
lemma starts_or_starts (hp : starts p s = true) (hq : starts q s = true) :
    starts p q = true ∨ starts q p = true :=
  (List.prefix_or_prefix_of_prefix (starts_iff.1 hp) (starts_iff.1 hq)).imp starts_iff.2
    starts_iff.2

/-- A text does not start with something that its start rules out. -/
lemma starts_eq_false (hp : starts p s = true) (hpq : starts p q = false)
    (hqp : starts q p = false) : starts q s = false := by
  rw [Bool.eq_false_iff]
  intro hq
  rcases starts_or_starts hp hq with h | h
  · exact Bool.false_ne_true (hpq.symm.trans h)
  · exact Bool.false_ne_true (hqp.symm.trans h)

/-- What does not start with a text starts with no longer one either. -/
lemma starts_eq_false_of_longer (hpq : starts p q = true) (h : starts p s = false) :
    starts q s = false := by
  rw [Bool.eq_false_iff] at h ⊢
  exact mt (starts_trans hpq) h

lemma dropStart?_eq_none (h : starts p s = false) : dropStart? p s = none := by
  rw [Option.eq_none_iff_forall_ne_some]
  intro r hr
  rw [dropStart?_eq_some_iff.1 hr, starts_append] at h
  cases h

end CompilerFlags.Text
