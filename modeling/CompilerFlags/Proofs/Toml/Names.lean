import CompilerFlags.Data.Toml.Reader
import Mathlib.Data.List.Nodup
import Mathlib.Tactic.Lemma

/-!
# The fields of a document have different names

`parse?_distinct`: whatever a document says, no two fields of its root table have the same name.

Each line changes the root table through `Fields.set`, which writes over a field that is there, or
adds a field after `List.lookup` has found none of its name.  Both keep the names of the table
different from each other, so the invariant holds after every line.
-/

namespace CompilerFlags.Toml

namespace Fields

/-- The fields have different names. -/
def Distinct (fields : Fields) : Prop := (fields.map (·.1)).Nodup

variable {fields fields' : Fields}

lemma mem_names_set {name other : String} {node : Node} :
    other ∈ (set name node fields).map (·.1) ↔ other = name ∨ other ∈ fields.map (·.1) := by
  induction fields with
  | nil => simp [set]
  | cons field rest ih =>
    rw [set]
    split
    · next h => simp [h]
    · rw [List.map_cons, List.mem_cons, ih, List.map_cons, List.mem_cons, or_left_comm]

lemma Distinct.set (h : fields.Distinct) (name : String) (node : Node) :
    (fields.set name node).Distinct := by
  induction fields with
  | nil => exact List.nodup_singleton _
  | cons field rest ih =>
    obtain ⟨hnew, hrest⟩ := List.nodup_cons.1 h
    rw [Fields.set]
    split
    · next heq => exact List.nodup_cons.2 ⟨heq ▸ hnew, hrest⟩
    · next hne =>
      refine List.nodup_cons.2 ⟨fun hmem => ?_, ih hrest⟩
      exact (mem_names_set.1 hmem).elim hne hnew

lemma Distinct.insertNew (h : fields.Distinct) {name : String} {v : Value}
    (hinsert : fields.insertNew name v = some fields') : fields'.Distinct := by
  unfold Fields.insertNew at hinsert
  split at hinsert
  · next hnone =>
    obtain rfl := Option.some.inj hinsert
    have hnew : name ∉ fields.map (·.1) := by
      intro hmem
      obtain ⟨field, hfield, rfl⟩ := List.mem_map.1 hmem
      simpa using List.lookup_eq_none_iff.1 hnone field hfield
    rw [Distinct, List.map_append, List.nodup_append]
    refine ⟨h, List.nodup_singleton _, fun other hother new hmem => ?_⟩
    rintro rfl
    obtain rfl : other = name := List.mem_singleton.1 hmem
    exact hnew hother
  · cases hinsert

lemma Distinct.assign (h : fields.Distinct) {name : String} {v : Value} {path : List String}
    (hassign : fields.assign name v path = some fields') : fields'.Distinct := by
  cases path with
  | nil => exact h.insertNew hassign
  | cons first path =>
    rw [Fields.assign] at hassign
    split at hassign
    · obtain ⟨_, _, rfl⟩ := Option.map_eq_some_iff.1 hassign
      exact h.set _ _
    · split at hassign
      · cases hassign
      · obtain ⟨_, _, rfl⟩ := Option.map_eq_some_iff.1 hassign
        exact h.set _ _
    · split at hassign
      · cases hassign
      · obtain ⟨_, _, rfl⟩ := Option.map_eq_some_iff.1 hassign
        exact h.set _ _
    · cases hassign

lemma Distinct.openTable (h : fields.Distinct) {name : String}
    (hopen : fields.openTable name = some fields') : fields'.Distinct := by
  unfold Fields.openTable at hopen
  split at hopen
  · exact Option.some.inj hopen ▸ h.set _ _
  · exact Option.some.inj hopen ▸ h.set _ _
  · cases hopen

lemma Distinct.openRow (h : fields.Distinct) {name : String}
    (hopen : fields.openRow name = some fields') : fields'.Distinct := by
  unfold Fields.openRow at hopen
  split at hopen
  · exact Option.some.inj hopen ▸ h.set _ _
  · exact Option.some.inj hopen ▸ h.set _ _
  · cases hopen

/-- A change further inside is a change of one field. -/
lemma Distinct.update (h : fields.Distinct) {change : Fields → Option Fields}
    (hchange : ∀ fields', change fields = some fields' → fields'.Distinct) {path : List String}
    (hupdate : fields.update change path = some fields') : fields'.Distinct := by
  cases path with
  | nil => exact hchange fields' hupdate
  | cons first path =>
    rw [Fields.update] at hupdate
    split at hupdate
    · obtain ⟨_, _, heq⟩ := Option.bind_eq_some_iff.1 hupdate
      exact Option.some.inj heq ▸ h.set _ _
    · cases hupdate
    · obtain ⟨_, _, heq⟩ := Option.bind_eq_some_iff.1 hupdate
      exact Option.some.inj heq ▸ h.set _ _
    · obtain ⟨_, _, heq⟩ := Option.bind_eq_some_iff.1 hupdate
      exact Option.some.inj heq ▸ h.set _ _

end Fields

/-! ## Lines -/

variable {d d' : Draft}

/-- A line that changes a table through its path keeps the names of the root table different. -/
lemma distinct_of_update (h : d.root.Distinct) {change : Fields → Option Fields}
    (hchange : ∀ root, change d.root = some root → root.Distinct) {path : List String}
    {draft : Fields → Draft} (hdraft : ∀ root, (draft root).root = root)
    (hline : (d.root.update change path).map draft = some d') : d'.root.Distinct := by
  obtain ⟨root, hroot, rfl⟩ := Option.map_eq_some_iff.1 hline
  rw [hdraft]
  exact h.update hchange hroot

/-- Reading a header or an assignment keeps the names of the root table different. -/
lemma distinct_expression? (h : d.root.Distinct) {s rest : List Char}
    (hread : expression? d s = some (d', rest)) : d'.root.Distinct := by
  unfold expression? at hread
  split at hread
  · obtain ⟨⟨⟨path, name⟩, s'⟩, _, hread⟩ := Option.bind_eq_some_iff.1 hread
    dsimp only at hread
    split at hread
    · obtain ⟨e, hopen, heq⟩ := Option.map_eq_some_iff.1 hread
      obtain ⟨rfl, _⟩ := Prod.mk.inj heq
      exact distinct_of_update h (fun _ => h.openRow) (fun _ => rfl) hopen
    · cases hread
  · obtain ⟨⟨⟨path, name⟩, s'⟩, _, hread⟩ := Option.bind_eq_some_iff.1 hread
    dsimp only at hread
    split at hread
    · obtain ⟨e, hopen, heq⟩ := Option.map_eq_some_iff.1 hread
      obtain ⟨rfl, _⟩ := Prod.mk.inj heq
      exact distinct_of_update h (fun _ => h.openTable) (fun _ => rfl) hopen
    · cases hread
  · obtain ⟨⟨⟨path, name, v⟩, s'⟩, _, hread⟩ := Option.bind_eq_some_iff.1 hread
    obtain ⟨e, hassign, heq⟩ := Option.map_eq_some_iff.1 hread
    obtain ⟨rfl, _⟩ := Prod.mk.inj heq
    exact distinct_of_update h (fun _ => h.assign) (fun _ => rfl) hassign

/-- Reading lines keeps the names of the root table different. -/
lemma distinct_lines? {steps : Nat} (h : d.root.Distinct) {s : List Char}
    (hread : lines? steps d s = some d') : d'.root.Distinct := by
  induction steps generalizing d s with
  | zero =>
    unfold lines? at hread
    split at hread
    · exact Option.some.inj hread ▸ h
    · cases hread
  | succ steps ih =>
    unfold lines? at hread
    split at hread
    · exact Option.some.inj hread ▸ h
    · obtain ⟨⟨e, s'⟩, hexpression, hread⟩ := Option.bind_eq_some_iff.1 hread
      obtain ⟨s'', _, hread⟩ := Option.bind_eq_some_iff.1 hread
      exact ih (distinct_expression? h hexpression) hread

lemma names_fieldValues (fields : Fields) : (fieldValues fields).map (·.1) = fields.map (·.1) := by
  induction fields with
  | nil => rfl
  | cons field fields ih =>
    obtain ⟨name, node⟩ := field
    show name :: (fieldValues fields).map (·.1) = _
    rw [ih]
    rfl

/-- The fields of a document have different names. -/
theorem parse?_distinct {text : String} {fields : List (String × Value)}
    (h : parse? text = some fields) : (fields.map (·.1)).Nodup := by
  obtain ⟨d, hread, rfl⟩ := Option.map_eq_some_iff.1 h
  have hempty : Fields.Distinct [] := List.nodup_nil
  rw [names_fieldValues]
  exact distinct_lines? (d := ⟨[], []⟩) hempty hread

end CompilerFlags.Toml
