import CompilerFlags.Search
import Mathlib.Data.List.Basic

/-!
# What is read from a store

A store is known to the rest of the library by what is read from its buckets.  Two stores *agree*
on some buckets if the same flags are read from each of these, whatever else they hold and whichever
buckets were ever written.

`Store.record` adds a flag, if there is one, and is all that a search ever leaves behind
(`Search.leave` in `Proofs/Search`).  A trial in a language for a profile sees only the buckets that
are `VisibleTo` the language under the profile, hence stores that agree on these are asked about in
the same words (`AgreeOn.trial_eq`).
-/

namespace CompilerFlags

/-- A list with one more element at the end, if there is one that the list does not hold. -/
def appendNew {α : Type} [DecidableEq α] (l : List α) : Option α → List α
  | none => l
  | some a => if a ∈ l then l else l ++ [a]

namespace OrderedSet

variable {α : Type} [DecidableEq α]

/-- Adds an element at the end, if there is one and it is not there. -/
def insert? (s : OrderedSet α) : Option α → OrderedSet α
  | none => s
  | some a => s.insert a

@[simp]
theorem insert?_none (s : OrderedSet α) : s.insert? none = s := rfl

@[simp]
theorem insert?_some (s : OrderedSet α) (a : α) : s.insert? (some a) = s.insert a := rfl

/-- The list of a set to which an element was added. -/
theorem toList_insert? (s : OrderedSet α) (a? : Option α) :
    (s.insert? a?).toList = appendNew s.toList a? := by
  cases a? with
  | none => rfl
  | some a => exact toList_insert s a

/-- Adding an element twice is adding it once. -/
@[simp]
theorem insert?_insert? (s : OrderedSet α) (a? : Option α) :
    (s.insert? a?).insert? a? = s.insert? a? := by
  cases a? with
  | none => rfl
  | some a => exact insert_of_mem (mem_insert.2 (Or.inr rfl))

/-- The elements after an addition: the old ones, and the new one only if it was absent. -/
theorem mem_insert? {s : OrderedSet α} {a? : Option α} {b : α} :
    b ∈ s.insert? a? ↔ b ∈ s ∨ a? = some b := by
  cases a? with
  | none => simp
  | some a => simp [eq_comm]

end OrderedSet

/-- The flags that a trial for a profile in a language sees lie in these buckets. -/
def Bucket.VisibleTo (l : Language) (profile : Profile) (b : Bucket) : Prop :=
  (b.profile = .default ∨ b.profile = profile) ∧ ∀ l', b.kind = .compile l' → l' = l

namespace Store

/-! ## Agreement -/

/-- The same flags are read from the buckets with a property. -/
def AgreeOn (P : Bucket → Prop) (s t : Store) : Prop :=
  ∀ b, P b → s.get b = t.get b

variable {P Q : Bucket → Prop} {s t u : Store}

theorem AgreeOn.refl (s : Store) : AgreeOn P s s := fun _ _ => rfl

theorem AgreeOn.symm (h : AgreeOn P s t) : AgreeOn P t s := fun b hb => (h b hb).symm

theorem AgreeOn.trans (h : AgreeOn P s t) (h' : AgreeOn P t u) : AgreeOn P s u :=
  fun b hb => (h b hb).trans (h' b hb)

theorem AgreeOn.mono (h : AgreeOn P s t) (hPQ : ∀ b, Q b → P b) : AgreeOn Q s t :=
  fun b hb => h b (hPQ b hb)

/-- Whether a flag is in a bucket is the same in stores that agree on the bucket. -/
theorem AgreeOn.contains_eq (h : AgreeOn P s t) {b : Bucket} (hb : P b) (flag : String) :
    s.contains b flag = t.contains b flag := by
  rw [contains, contains, h b hb]

/-- Agreement survives the addition of a flag. -/
theorem AgreeOn.add (h : AgreeOn P s t) (b : Bucket) (flag : String) :
    AgreeOn P (s.add b flag).2 (t.add b flag).2 := by
  intro c hc
  rw [get_add, get_add]
  split
  · next hcb => rw [h b (hcb ▸ hc)]
  · exact h c hc

/-- Agreement survives the removal of a flag. -/
theorem AgreeOn.discard (h : AgreeOn P s t) (b : Bucket) (flag : String) :
    AgreeOn P (s.discard b flag).2 (t.discard b flag).2 := by
  intro c hc
  rw [get_discard, get_discard]
  split
  · next hcb => rw [h b (hcb ▸ hc)]
  · exact h c hc

/-! ## Recording a flag -/

/-- The store after a flag, if there is one, was added to a bucket. -/
def record (s : Store) (b : Bucket) (flag : Option String) : Store :=
  match flag with
  | none => s
  | some flag => (s.add b flag).2

theorem get_record (s : Store) (b c : Bucket) (flag : Option String) :
    (s.record b flag).get c = if c = b then (s.get b).insert? flag else s.get c := by
  cases flag with
  | none =>
    show s.get c = if c = b then s.get b else s.get c
    split
    · next h => rw [h]
    · rfl
  | some flag => exact get_add s b c flag

theorem get_record_self (s : Store) (b : Bucket) (flag : Option String) :
    (s.record b flag).get b = (s.get b).insert? flag := by
  rw [get_record, if_pos rfl]

theorem get_record_of_ne {b c : Bucket} (h : c ≠ b) (s : Store) (flag : Option String) :
    (s.record b flag).get c = s.get c := by
  rw [get_record, if_neg h]

theorem AgreeOn.record (h : AgreeOn P s t) (b : Bucket) (flag : Option String) :
    AgreeOn P (s.record b flag) (t.record b flag) := by
  cases flag with
  | none => exact h
  | some flag => exact h.add b flag

/-! ## What trials see -/

/-- Every bucket that is gathered for a trial is visible to its language. -/
theorem visibleTo_of_mem_visible {l : Language} {profile : Profile} {kind : FlagKind} {b : Bucket}
    (hkind : ∀ l', kind = .compile l' → l' = l) (hb : b ∈ visible profile kind) :
    b.VisibleTo l profile := by
  unfold visible at hb
  split at hb
  · obtain rfl := List.mem_singleton.1 hb
    exact ⟨Or.inl rfl, hkind⟩
  · rcases List.mem_cons.1 hb with rfl | hb
    · exact ⟨Or.inl rfl, hkind⟩
    · obtain rfl := List.mem_singleton.1 hb
      exact ⟨Or.inr rfl, hkind⟩

/-- The gathered flags are those of the visible buckets. -/
theorem mem_gather {s : Store} {kinds : List FlagKind} {profile : Profile} {flag : String} :
    flag ∈ (s.gather kinds profile).toList ↔
      ∃ kind ∈ kinds, ∃ b ∈ visible profile kind, flag ∈ s.get b := by
  have hmany (t : Flags) (l : List String) : flag ∈ t.insertMany l ↔ flag ∈ t ∨ flag ∈ l := by
    induction l generalizing t with
    | nil => simp [OrderedSet.insertMany]
    | cons a l ih =>
      show flag ∈ (t.insert a).insertMany l ↔ _
      rw [ih, OrderedSet.mem_insert, List.mem_cons, or_assoc]
  rw [OrderedSet.mem_toList, gather, OrderedSet.ofList, hmany]
  simp only [List.mem_flatMap, OrderedSet.mem_toList]
  constructor
  · rintro (h | ⟨b, ⟨kind, hkind, hb⟩, hflag⟩)
    · cases h
    · exact ⟨kind, hkind, b, hb, hflag⟩
  · rintro ⟨kind, hkind, b, hb, hflag⟩
    exact Or.inr ⟨b, ⟨kind, hkind, hb⟩, hflag⟩

/-- The buckets that are visible for a kind are of that kind. -/
theorem kind_of_mem_visible {profile : Profile} {kind : FlagKind} {b : Bucket}
    (h : b ∈ visible profile kind) : b.kind = kind := by
  unfold visible at h
  split at h
  · rw [List.mem_singleton.1 h]
  · rcases List.mem_cons.1 h with rfl | h
    · rfl
    · rw [List.mem_singleton.1 h]

/-- The gathered flags depend on the visible buckets only. -/
theorem AgreeOn.gather_eq {l : Language} {profile : Profile} (h : AgreeOn (·.VisibleTo l profile) s t)
    {kinds : List FlagKind} (hkinds : ∀ kind ∈ kinds, ∀ l', kind = .compile l' → l' = l) :
    s.gather kinds profile = t.gather kinds profile := by
  have hflags : ∀ b ∈ kinds.flatMap (visible profile), (s.get b).toList = (t.get b).toList := by
    intro b hb
    obtain ⟨kind, hkind, hb⟩ := List.mem_flatMap.1 hb
    rw [h b (visibleTo_of_mem_visible (hkinds kind hkind) hb)]
  rw [gather, gather, List.flatMap_congr hflags]

/-- Stores that agree on what a language sees under a profile are asked about in the same words. -/
theorem AgreeOn.trial_eq {l : Language} {profile : Profile}
    (h : AgreeOn (·.VisibleTo l profile) s t) (fragment : String) (link : Bool) :
    s.trial l profile fragment link = t.trial l profile fragment link := by
  have hcompile : s.gather [.preprocessor, .compile l] profile =
      t.gather [.preprocessor, .compile l] profile := by
    refine h.gather_eq fun kind hkind l' heq => ?_
    subst heq
    simpa using hkind
  have hlink : s.gather [.link] profile = t.gather [.link] profile := by
    refine h.gather_eq fun kind hkind l' heq => ?_
    subst heq
    simp at hkind
  unfold trial
  rw [hcompile, hlink]

end Store

/-! ## The bench as seen through its store -/

namespace Bench

variable {σ : Type}

@[simp]
theorem addFlag_memory (b : Bucket) (flag : Option String) (w : Bench σ) :
    (w.addFlag b flag).2.memory = w.memory := by
  cases flag <;> rfl

@[simp]
theorem addFlag_store (b : Bucket) (flag : Option String) (w : Bench σ) :
    (w.addFlag b flag).2.store = w.store.record b flag := by
  cases flag <;> rfl

@[simp]
theorem dropFlag_memory (b : Bucket) (flag : Option String) (w : Bench σ) :
    (w.dropFlag b flag).memory = w.memory := by
  cases flag <;> rfl

/-- A flag counts as new if there is one and its bucket did not hold it. -/
theorem addFlag_fst {b : Bucket} {flag : Option String} {w : Bench σ} :
    (w.addFlag b flag).1 = true ↔ ∃ f, flag = some f ∧ f ∉ w.store.get b := by
  cases flag with
  | none => simp [addFlag]
  | some f =>
    show (w.store.add b f).1 = true ↔ _
    rw [Store.add_fst]
    simp

/-- A flag that does not count as new changes nothing that is read. -/
theorem get_record_of_addFlag_eq_false {b : Bucket} {flag : Option String} {w : Bench σ}
    (h : (w.addFlag b flag).1 = false) (c : Bucket) :
    (w.store.record b flag).get c = w.store.get c := by
  cases flag with
  | none => rfl
  | some f =>
    have hmem : f ∈ w.store.get b := by
      by_contra hmem
      have hnew := addFlag_fst.2 ⟨f, rfl, hmem⟩
      rw [h] at hnew
      exact Bool.false_ne_true hnew
    rw [Store.get_record]
    split
    · next hcb => rw [hcb, OrderedSet.insert?_some, OrderedSet.insert_of_mem hmem]
    · rfl

/-- Dropping the flag that was just added gives back what was read before; `v` is the bench at the
time of dropping, in which other buckets may have changed. -/
theorem get_dropFlag_of_addFlag {b : Bucket} {flag : Option String} {w v : Bench σ}
    (hnew : (w.addFlag b flag).1 = true)
    (hv : v.store.get b = (w.store.record b flag).get b) (c : Bucket) :
    (v.dropFlag b flag).store.get c = if c = b then w.store.get b else v.store.get c := by
  obtain ⟨f, rfl, hmem⟩ := addFlag_fst.1 hnew
  show (v.store.discard b f).2.get c = _
  rw [Store.get_discard, hv, Store.get_record_self, OrderedSet.insert?_some,
    OrderedSet.erase_insert_of_not_mem hmem]

end Bench

end CompilerFlags
