import CompilerFlags.Bucket
import Mathlib.Data.List.Basic

/-!
# Bucket names are read as they were written

`Bucket.parse_name`: the name of a bucket names that bucket and no other.

The build variables tell the kinds apart: none of them is the beginning of another one.  What follows
the variable is nothing at all for the default profile, and an underscore and a text otherwise.
-/

namespace CompilerFlags

theorem Text.dropStart?_append (p r : String) : dropStart? p (p ++ r) = some r :=
  dropStart?_eq_some_iff.2 rfl

/-- A name that starts with the build variable of one kind does not start with that of another. -/
theorem FlagKind.dropStart?_variableName {k k' : FlagKind} (h : k' ≠ k) (rest : String) :
    Text.dropStart? k'.variableName (k.variableName ++ rest) = none := by
  rw [Text.dropStart?, String.toList_append]
  rcases k with (_ | _) | _ | _ <;> rcases k' with (_ | _) | _ | _ <;>
    first | exact absurd rfl h | rfl

theorem FlagKind.mem_all (k : FlagKind) : k ∈ all := by
  rcases k with (_ | _) | _ | _ <;> decide

namespace Profile

/-- Only the default profile has the empty name. -/
theorem isDefault_iff {p : Profile} : p.isDefault = true ↔ p = default := by
  rw [isDefault, String.isEmpty_iff]
  exact ⟨fun h => Profile.ext h, fun h => h ▸ rfl⟩

/-- The name of a profile selects it. -/
theorem named_name (p : Profile) : named p.name = .ok p := by
  rw [named, dif_pos p.valid]

/-- A profile has the name that selects it. -/
theorem name_of_named_eq_ok {name : String} {p : Profile} (h : named name = .ok p) :
    p.name = name := by
  unfold named at h
  split at h
  · cases h
    rfl
  · cases h

/-- Profile characters are the ASCII letters and digits, the underscore and the dash. -/
theorem isProfileChar_iff {c : Char} :
    isProfileChar c = true ↔ c.isAlpha ∨ c.isDigit ∨ c = '_' ∨ c = '-' := by
  simp [isProfileChar, Char.isAlphanum, or_assoc]

/-- A profile is the default one or has a name of ASCII letters, digits, underscores and dashes. -/
theorem default_or_spelled (p : Profile) :
    p = default ∨ p.name ≠ "" ∧
      ∀ c ∈ p.name.toList, c.isAlpha ∨ c.isDigit ∨ c = '_' ∨ c = '-' := by
  by_cases hdefault : p = default
  · exact Or.inl hdefault
  · refine Or.inr ⟨fun hempty => hdefault (Profile.ext hempty), ?_⟩
    intro c hc
    exact isProfileChar_iff.1 (List.all_eq_true.1 p.valid c hc)

/-- A profile is refused for a character that is no ASCII letter or digit, underscore or dash. -/
theorem named_eq_error_iff {name : String} {e : BucketError} :
    named name = .error e ↔ e = .invalidProfile name ∧
      ∃ c ∈ name.toList, ¬(c.isAlpha ∨ c.isDigit ∨ c = '_' ∨ c = '-') := by
  have hinvalid : ¬name.toList.all isProfileChar = true ↔
      ∃ c ∈ name.toList, ¬(c.isAlpha ∨ c.isDigit ∨ c = '_' ∨ c = '-') := by
    simp only [List.all_eq_true, isProfileChar_iff, not_forall, exists_prop]
  unfold named
  rw [← hinvalid]
  split
  · next h => simp [h]
  · next h => simp [h, eq_comm]

end Profile

namespace Bucket

/-- What a profile adds to the name of a bucket is read back. -/
theorem ofRest?_suffix (whole : String) (b : Bucket) :
    ofRest? whole b.kind b.profile.suffix = some (.ok b) := by
  unfold Profile.suffix ofRest?
  by_cases hdefault : b.profile.isDefault = true
  · have hempty : ("" : String).isEmpty = true := String.isEmpty_iff.2 rfl
    rw [if_pos hdefault, if_pos hempty, ← Profile.isDefault_iff.1 hdefault]
  · have hname : b.profile.name.isEmpty = false := Bool.eq_false_iff.2 hdefault
    have hsuffix : ("_" ++ b.profile.name).isEmpty = false := by
      rw [Bool.eq_false_iff, Ne, String.isEmpty_iff]
      exact fun heq => absurd (String.append_eq_empty_iff.1 heq).1 (by decide)
    rw [if_neg hdefault, hsuffix, if_neg Bool.false_ne_true, Text.dropStart?_append]
    dsimp only
    rw [hname, if_neg Bool.false_ne_true, Profile.named_name]
    rfl

/-- What a text is read as if it starts with the build variable of a kind.  The other kinds that are
tried have no say in it. -/
theorem parseAs_variableName (kind : FlagKind) (rest : String) (kinds : List FlagKind) :
    parseAs (kind.variableName ++ rest) kinds =
      if kind ∈ kinds then
        (ofRest? (kind.variableName ++ rest) kind rest).getD
          (.error (.unknownBucket (kind.variableName ++ rest)))
      else .error (.unknownBucket (kind.variableName ++ rest)) := by
  induction kinds with
  | nil => rfl
  | cons kind' kinds ih =>
    unfold parseAs
    by_cases hkind : kind' = kind
    · rw [hkind, Text.dropStart?_append, Option.bind_some, if_pos List.mem_cons_self]
      cases hrest : ofRest? (kind.variableName ++ rest) kind rest with
      | some answer => rfl
      | none =>
        -- the text is tried again, but the later kinds know no better
        rw [hrest, Option.getD_none, ite_self] at ih
        exact ih
    · have hother : Text.dropStart? kind'.variableName (kind.variableName ++ rest) = none :=
        FlagKind.dropStart?_variableName hkind rest
      rw [hother]
      refine ih.trans (if_congr ?_ rfl rfl)
      rw [List.mem_cons, or_iff_right (Ne.symm hkind)]

/-- What a text is read as if it starts with the build variable of a kind. -/
theorem parse_variableName (kind : FlagKind) (rest : String) :
    parse (kind.variableName ++ rest) =
      (ofRest? (kind.variableName ++ rest) kind rest).getD
        (.error (.unknownBucket (kind.variableName ++ rest))) := by
  rw [parse, parseAs_variableName, if_pos (FlagKind.mem_all kind)]

/-- The name of a bucket names it. -/
theorem parse_name (b : Bucket) : parse b.name = .ok b := by
  rw [name, parse_variableName, ofRest?_suffix]
  rfl

/-- Different buckets have different names. -/
theorem name_injective {b c : Bucket} (h : b.name = c.name) : b = c := by
  have hparse := parse_name c
  rw [← h, parse_name] at hparse
  exact Except.ok.inj hparse

theorem name_ne_empty (b : Bucket) : b.name ≠ "" := by
  have hvariable : ∀ k : FlagKind, k.variableName ≠ "" := by
    rintro ((_ | _) | _ | _) <;> decide
  exact fun h => hvariable b.kind (String.append_eq_empty_iff.1 h).1

/-- Bucket names consist of the characters of profile names. -/
theorem isProfileChar_of_mem_name {b : Bucket} {c : Char} (h : c ∈ b.name.toList) :
    isProfileChar c = true := by
  have hvariable : ∀ k : FlagKind, k.variableName.toList.all isProfileChar = true := by
    rintro ((_ | _) | _ | _) <;> decide
  rw [name, String.toList_append, List.mem_append] at h
  rcases h with h | h
  · exact List.all_eq_true.1 (hvariable b.kind) c h
  · unfold Profile.suffix at h
    split at h
    · cases h
    · rw [String.toList_append, List.mem_append] at h
      rcases h with h | h
      · obtain rfl := List.mem_singleton.1 h
        rfl
      · exact List.all_eq_true.1 b.profile.valid c h

end Bucket

end CompilerFlags
