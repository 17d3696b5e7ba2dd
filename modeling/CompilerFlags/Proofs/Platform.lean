import CompilerFlags.Platform
import CompilerFlags.Proofs.Starts
import CompilerFlags.Proofs.Trimming

/-!
# Names of operating systems

A system is known by how its name starts in small letters (`known?_eq_some_iff`).  Starts that fit the
same name belong to the same system, since one of them starts with the other and no entry of the table
is the start of an entry for another system.  So all tables with the same entries, in whatever order,
tell the same systems apart (`Lists.findIn?_eq`).

What a name starts with does not change if something is put behind it, and case and outer blanks are
gone before the start is looked at.  So a known system is known by any longer name
(`known?_of_longer`).  The name of a system in reports is one that the system is known by, and the kept
name of any other system is as it would be kept again (`ofName_name`).
-/

namespace CompilerFlags.Platform

/-- Whether a system is one of the known ones; of any other one only the name is kept. -/
def isKnown : Platform → Bool
  | other _ => false
  | _ => true

/-- A table lists the known systems if it has the entries of `knownStarts`, in any order, and if all its
entries start like one of them that is for the same system, as `macosx` does. -/
structure Lists (table : List (String × Platform)) : Prop where
  complete : ∀ e ∈ knownStarts, e ∈ table
  sound : ∀ e ∈ table, ∃ k ∈ knownStarts, Text.starts k.1 e.1 = true ∧ k.2 = e.2

instance (table : List (String × Platform)) : Decidable (Lists table) :=
  decidable_of_iff
    ((∀ e ∈ knownStarts, e ∈ table) ∧
      ∀ e ∈ table, ∃ k ∈ knownStarts, Text.starts k.1 e.1 = true ∧ k.2 = e.2)
    ⟨fun h => ⟨h.1, h.2⟩, fun h => ⟨h.complete, h.sound⟩⟩

variable {table : List (String × Platform)} {n n' name : String} {system : Platform}

/-! ## Starts -/

/-- Starts that fit the same name are for the same system. -/
lemma system_eq_of_starts {k k' : String × Platform} (hk : k ∈ knownStarts) (hk' : k' ∈ knownStarts)
    (h : Text.starts k.1 name = true) (h' : Text.starts k'.1 name = true) : k.2 = k'.2 := by
  have hcoherent : ∀ k ∈ knownStarts, ∀ k' ∈ knownStarts, Text.starts k.1 k'.1 = true → k.2 = k'.2 := by
    decide
  rcases Text.starts_or_starts h h' with hstarts | hstarts
  · exact hcoherent k hk k' hk' hstarts
  · exact (hcoherent k' hk' k hk hstarts).symm

/-- An entry that is found for a name goes back to an entry for the same system that fits too. -/
lemma Lists.exists_of_find? (h : Lists table) {e : String × Platform}
    (hfound : (table.find? fun entry => Text.starts entry.1 name) = some e) :
    ∃ k ∈ knownStarts, Text.starts k.1 name = true ∧ k.2 = e.2 := by
  obtain ⟨k, hk, hstarts, hsystem⟩ := h.sound e (List.mem_of_find?_eq_some hfound)
  have hfits := List.find?_some hfound
  exact ⟨k, hk, Text.starts_trans hstarts hfits, hsystem⟩

lemma Lists.findIn?_eq_some_iff (h : Lists table) : findIn? table name = some system ↔
    ∃ k ∈ knownStarts, Text.starts k.1 name = true ∧ k.2 = system := by
  unfold findIn?
  rw [Option.map_eq_some_iff]
  constructor
  · rintro ⟨e, hfound, rfl⟩
    exact h.exists_of_find? hfound
  · rintro ⟨k, hk, hfits, rfl⟩
    have hsome : (table.find? fun entry => Text.starts entry.1 name).isSome = true :=
      List.find?_isSome.2 ⟨k, h.complete k hk, hfits⟩
    obtain ⟨e, hfound⟩ := Option.isSome_iff_exists.1 hsome
    obtain ⟨k', hk', hfits', hsystem⟩ := h.exists_of_find? hfound
    have hsame : k'.2 = k.2 := system_eq_of_starts hk' hk hfits' hfits
    exact ⟨e, hfound, hsystem.symm.trans hsame⟩

lemma lists_knownStarts : Lists knownStarts := by decide

/-- The order of a table does not matter, nor do longer starts for the same systems. -/
lemma Lists.findIn?_eq (h : Lists table) (name : String) :
    findIn? table name = findIn? knownStarts name := by
  refine Option.ext fun system => ?_
  rw [h.findIn?_eq_some_iff, lists_knownStarts.findIn?_eq_some_iff]

/-! ## Names -/

lemma known?_eq_some_iff : known? n = some system ↔
    ∃ k ∈ knownStarts, Text.starts k.1 (Text.lower (Text.trim n)) = true ∧ k.2 = system :=
  lists_knownStarts.findIn?_eq_some_iff

lemma ofName_of_known (h : known? n = some system) : ofName n = system := by
  rw [ofName, h, Option.getD_some]

lemma ofName_of_unknown (h : known? n = none) :
    ofName n = other (Text.lower (Text.trim n)) := by
  rw [ofName, h, Option.getD_none]

lemma isKnown_ofName (n : String) : (ofName n).isKnown = (known? n).isSome := by
  have hknown : ∀ k ∈ knownStarts, k.2.isKnown = true := by decide
  cases h : known? n with
  | none =>
    rw [ofName_of_unknown h]
    rfl
  | some system =>
    obtain ⟨k, hk, _, rfl⟩ := known?_eq_some_iff.1 h
    rw [ofName_of_known h, hknown k hk, Option.isSome_some]

/-- The name that is kept of a system is kept as it is. -/
lemma known?_kept (n : String) : known? (Text.lower (Text.trim n)) = known? n := by
  unfold known?
  rw [Text.trim_lower, Text.trim_trim, Text.lower_lower]

/-- The name of a system in reports stands for this system. -/
lemma ofName_name (n : String) : ofName (ofName n).name = ofName n := by
  have hreported : ∀ k ∈ knownStarts, ofName k.2.name = k.2 := by decide
  cases h : known? n with
  | none =>
    have hkept : known? (Text.lower (Text.trim n)) = none := (known?_kept n).trans h
    rw [ofName_of_unknown h]
    show ofName (Text.lower (Text.trim n)) = _
    rw [ofName_of_unknown hkept, Text.trim_lower, Text.trim_trim, Text.lower_lower]
  | some system =>
    obtain ⟨k, hk, _, rfl⟩ := known?_eq_some_iff.1 h
    rw [ofName_of_known h, hreported k hk]

/-- A known system is known by other capitals, with blanks in front, and with anything behind. -/
lemma known?_of_longer (h : known? n = some system) (hcase : Text.lower n' = Text.lower n)
    {before : String} (hblank : Text.isAllBlank before = true) (after : String) :
    known? (before ++ n' ++ after) = some system := by
  obtain ⟨k, hk, hstarts, rfl⟩ := known?_eq_some_iff.1 h
  have hsame : Text.lower (Text.trim n') = Text.lower (Text.trim n) := by
    rw [← Text.trim_lower, hcase, Text.trim_lower]
  have hne : Text.trim n' ≠ "" := by
    intro hempty
    have hnonempty : ∀ k ∈ knownStarts, Text.starts k.1 (Text.lower "") = false := by decide
    rw [← hsame, hempty, hnonempty k hk] at hstarts
    cases hstarts
  obtain ⟨rest, hrest⟩ := Text.exists_trim_append hne hblank after
  refine known?_eq_some_iff.2 ⟨k, hk, ?_, rfl⟩
  rw [hrest, Text.lower_append, hsame]
  exact Text.starts_trans hstarts (Text.starts_append _ _)

/-! ## Triples -/

lemma ofTriple_of_known_os {t : Triple} (h : known? t.os = some system) : ofTriple t = system := by
  rw [ofTriple, h, Option.some_or, Option.getD_some]

lemma ofTriple_of_unknown_os {t : Triple} (h : known? t.os = none) :
    ofTriple t = (known? t.vendor).getD (other (Text.lower (Text.trim t.os))) := by
  rw [ofTriple, h, Option.none_or, ofName_of_unknown h]

/-- The name of a system in reports stands for the same system.  A known system is also known by names
with other capitals, with blanks around them, and with anything put behind them, and by any table that
lists the known systems, whatever its order.  A triple stands for the system that its third part is known
by, or else for the one that its second part is known by, or else the third part is kept. -/
theorem ofName_canonical :
    (∀ n, ofName (ofName n).name = ofName n) ∧
    (∀ n n' before after, (ofName n).isKnown = true → Text.lower n' = Text.lower n →
      Text.isAllBlank before = true → ofName (before ++ n' ++ after) = ofName n) ∧
    (∀ table, Lists table → ∀ n, ofName n =
      (findIn? table (Text.lower (Text.trim n))).getD (other (Text.lower (Text.trim n)))) ∧
    ∀ t : Triple,
      ((ofName t.os).isKnown = true → ofTriple t = ofName t.os) ∧
      ((ofName t.os).isKnown = false → (ofName t.vendor).isKnown = true →
        ofTriple t = ofName t.vendor) ∧
      ((ofName t.os).isKnown = false → (ofName t.vendor).isKnown = false →
        ofTriple t = other (Text.lower (Text.trim t.os))) := by
  refine ⟨ofName_name, fun n n' before after hknown hcase hblank => ?_, fun table hlists n => ?_,
    fun t => ?_⟩
  · rw [isKnown_ofName] at hknown
    obtain ⟨system, hsystem⟩ := Option.isSome_iff_exists.1 hknown
    rw [ofName_of_known hsystem, ofName_of_known (known?_of_longer hsystem hcase hblank after)]
  · rw [hlists.findIn?_eq]
    rfl
  · simp only [isKnown_ofName, Option.isSome_iff_exists, Option.isSome_eq_false_iff,
      Option.isNone_iff_eq_none]
    refine ⟨?_, fun hos => ?_, fun hos hvendor => ?_⟩
    · rintro ⟨system, hos⟩
      rw [ofTriple_of_known_os hos, ofName_of_known hos]
    · rintro ⟨system, hvendor⟩
      rw [ofTriple_of_unknown_os hos, hvendor, ofName_of_known hvendor, Option.getD_some]
    · rw [ofTriple_of_unknown_os hos, hvendor, Option.getD_none]

example : Lists (("macosx", darwin) :: knownStarts.reverse) := by decide

end CompilerFlags.Platform
