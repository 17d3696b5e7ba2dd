/-!
# Sets that remember the order of insertion

An `OrderedSet` is a list without repetitions.  Inserting a new element adds it at the end, so the
list shows the order in which the elements first came; inserting an element that is there changes
nothing.  The absence of repetitions is part of the type, hence two ordered sets with the same list
are equal.

`toList` is the view: every operation below comes with the equation that says what it does to the
list, and nothing else needs to unfold an operation.
-/

namespace CompilerFlags

/-- A list without repetitions, in the order in which its elements were first inserted. -/
structure OrderedSet (α : Type) where
  /-- The elements, the oldest first. -/
  toList : List α
  /-- No element occurs twice. -/
  nodup : toList.Nodup
deriving DecidableEq

namespace OrderedSet

variable {α : Type}

@[ext]
theorem ext {s t : OrderedSet α} (h : s.toList = t.toList) : s = t := by
  cases s; cases t; simp_all

/-- The set without elements. -/
def empty : OrderedSet α := ⟨[], List.nodup_nil⟩

instance : EmptyCollection (OrderedSet α) := ⟨empty⟩

instance : Inhabited (OrderedSet α) := ⟨empty⟩

instance : Membership α (OrderedSet α) := ⟨fun s a => a ∈ s.toList⟩

/-- Whether the set has no elements. -/
def isEmpty (s : OrderedSet α) : Bool := s.toList.isEmpty

@[simp]
theorem toList_empty : (empty : OrderedSet α).toList = [] := rfl

@[simp]
theorem mem_toList {s : OrderedSet α} {a : α} : a ∈ s.toList ↔ a ∈ s := Iff.rfl

variable [DecidableEq α]

instance (a : α) (s : OrderedSet α) : Decidable (a ∈ s) :=
  inferInstanceAs (Decidable (a ∈ s.toList))

/-- Adds `a` at the end unless it is there. -/
def insert (s : OrderedSet α) (a : α) : OrderedSet α :=
  if h : a ∈ s.toList then s
  else ⟨s.toList ++ [a], by
    rw [List.nodup_append]
    refine ⟨s.nodup, by simp, fun b hb c hc => ?_⟩
    rintro rfl
    exact h (List.mem_singleton.1 hc ▸ hb)⟩

/-- Takes `a` out; the others keep their order. -/
def erase (s : OrderedSet α) (a : α) : OrderedSet α :=
  ⟨s.toList.erase a, s.nodup.erase a⟩

/-- Inserts the elements of a list from left to right. -/
def insertMany (s : OrderedSet α) (l : List α) : OrderedSet α :=
  l.foldl insert s

/-- The elements of a list in the order of their first occurrences. -/
def ofList (l : List α) : OrderedSet α :=
  insertMany empty l

theorem toList_insert (s : OrderedSet α) (a : α) :
    (s.insert a).toList = if a ∈ s then s.toList else s.toList ++ [a] := by
  by_cases h : a ∈ s.toList
  · rw [insert, dif_pos h, if_pos (mem_toList.1 h)]
  · rw [insert, dif_neg h, if_neg (mt mem_toList.2 h)]

theorem insert_of_mem {s : OrderedSet α} {a : α} (h : a ∈ s) : s.insert a = s :=
  ext (by rw [toList_insert, if_pos h])

@[simp]
theorem mem_insert {s : OrderedSet α} {a b : α} : b ∈ s.insert a ↔ b ∈ s ∨ b = a := by
  rw [← mem_toList, toList_insert]
  split
  · constructor
    · exact Or.inl
    · rintro (hb | rfl) <;> assumption
  · simp

@[simp]
theorem toList_erase (s : OrderedSet α) (a : α) : (s.erase a).toList = s.toList.erase a := rfl

@[simp]
theorem mem_erase {s : OrderedSet α} {a b : α} : b ∈ s.erase a ↔ b ≠ a ∧ b ∈ s := by
  rw [← mem_toList, toList_erase, s.nodup.mem_erase_iff, mem_toList]

/-- Taking out what was just added at the end gives the former set. -/
theorem erase_insert_of_not_mem {s : OrderedSet α} {a : α} (h : a ∉ s) :
    (s.insert a).erase a = s := by
  apply ext
  rw [toList_erase, toList_insert, if_neg h, List.erase_append_right _ (mt mem_toList.1 h)]
  simp

end OrderedSet

end CompilerFlags
