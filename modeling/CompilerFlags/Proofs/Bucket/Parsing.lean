import CompilerFlags.Proofs.Bucket.Naming

/-!
# Which texts are bucket names

A text is read as a bucket exactly if it is the name of that bucket, so that no text is accepted in
a second spelling.  Any other text is refused, in one of two ways: a text that is *misspelled* has
the form of a bucket name, but its profile holds a character that profiles do not have; all others
are unknown.

The reader tries the build variables one after another.  At most one of them starts the text, and
only what follows it decides (`parse_variableName`): nothing, an underscore and a profile, or
something else.
-/

namespace CompilerFlags.Bucket

/-- A text that would be the name of a bucket if profiles could be named `rest`; they cannot,
because `rest` holds a character that is no ASCII letter or digit, underscore or dash. -/
def Misspelled (t rest : String) : Prop :=
  (∃ v ∈ ["CFLAGS", "CXXFLAGS", "CPPFLAGS", "LINKFLAGS"], t = v ++ "_" ++ rest) ∧ rest ≠ "" ∧
    ∃ c ∈ rest.toList, ¬(c.isAlpha ∨ c.isDigit ∨ c = '_' ∨ c = '-')

/-! ## After the build variable -/

section

variable {whole rest : String} {kind : FlagKind}

/-- After the build variable, an underscore is followed by the profile. -/
lemma ofRest?_underscore (whole : String) (kind : FlagKind) {profile : String} (h : profile ≠ "") :
    ofRest? whole kind ("_" ++ profile) = some ((Profile.named profile).map (⟨kind, ·⟩)) := by
  have hrest : ("_" ++ profile).isEmpty = false := by
    rw [Bool.eq_false_iff, Ne, String.isEmpty_iff]
    intro heq
    exact h (String.append_eq_empty_iff.1 heq).2
  have hprofile : profile.isEmpty = false := by
    rw [Bool.eq_false_iff, Ne, String.isEmpty_iff]
    exact h
  unfold ofRest?
  rw [hrest, if_neg Bool.false_ne_true, Text.dropStart?_append]
  dsimp only
  rw [hprofile, if_neg Bool.false_ne_true]

/-- Without a profile after the underscore the text is unknown. -/
lemma ofRest?_lone_underscore (whole : String) (kind : FlagKind) :
    ofRest? whole kind "_" = some (.error (.unknownBucket whole)) := by
  rfl

/-- Without an underscore the kind has nothing to say. -/
lemma ofRest?_eq_none (hne : rest ≠ "") (h : Text.dropStart? "_" rest = none) :
    ofRest? whole kind rest = none := by
  have hrest : rest.isEmpty = false := by
    rw [Bool.eq_false_iff, Ne, String.isEmpty_iff]
    exact hne
  unfold ofRest?
  rw [hrest, if_neg Bool.false_ne_true, h]

end

/-! ## All texts -/

/-- The build variables are those of the kinds. -/
lemma mem_variables_iff {v : String} :
    v ∈ ["CFLAGS", "CXXFLAGS", "CPPFLAGS", "LINKFLAGS"] ↔
      ∃ kind : FlagKind, kind.variableName = v := by
  have hvariables : ["CFLAGS", "CXXFLAGS", "CPPFLAGS", "LINKFLAGS"] =
      FlagKind.all.map FlagKind.variableName := rfl
  rw [hvariables, List.mem_map]
  constructor
  · rintro ⟨kind, _, hkind⟩
    exact ⟨kind, hkind⟩
  · rintro ⟨kind, hkind⟩
    exact ⟨kind, kind.mem_all, hkind⟩

/-- A misspelled text is refused for its profile. -/
lemma parse_of_misspelled {t rest : String} (h : Misspelled t rest) :
    parse t = .error (.invalidProfile rest) := by
  obtain ⟨⟨v, hv, rfl⟩, hrest, hcharacter⟩ := h
  obtain ⟨kind, rfl⟩ := mem_variables_iff.1 hv
  have hnamed : Profile.named rest = .error (.invalidProfile rest) :=
    Profile.named_eq_error_iff.2 ⟨rfl, hcharacter⟩
  rw [String.append_assoc, parse_variableName, ofRest?_underscore _ kind hrest, hnamed]
  rfl

/-- A text that starts with no build variable is unknown. -/
lemma parseAs_of_no_variable {t : String} {kinds : List FlagKind}
    (h : ∀ kind ∈ kinds, Text.dropStart? kind.variableName t = none) :
    parseAs t kinds = .error (.unknownBucket t) := by
  induction kinds with
  | nil => rfl
  | cons kind kinds ih =>
    have hkind := h kind List.mem_cons_self
    unfold parseAs
    rw [hkind]
    exact ih fun kind' hkind' => h kind' (List.mem_cons_of_mem kind hkind')

/-- A text is the name of a bucket, or misspelled, or unknown. -/
lemma parse_cases (t : String) :
    (∃ b : Bucket, b.name = t) ∨ (∃ rest, Misspelled t rest) ∨
      parse t = .error (.unknownBucket t) := by
  by_cases hstart : ∃ kind : FlagKind, ∃ rest, t = kind.variableName ++ rest
  · obtain ⟨kind, rest, rfl⟩ := hstart
    by_cases hrest : rest = ""
    · exact Or.inl ⟨⟨kind, .default⟩, by rw [hrest]; rfl⟩
    cases hunderscore : Text.dropStart? "_" rest with
    | none =>
      refine Or.inr (Or.inr ?_)
      rw [parse_variableName, ofRest?_eq_none hrest hunderscore]
      rfl
    | some profile =>
      obtain rfl := Text.dropStart?_eq_some_iff.1 hunderscore
      by_cases hprofile : profile = ""
      · refine Or.inr (Or.inr ?_)
        rw [hprofile, String.append_empty, parse_variableName, ofRest?_lone_underscore]
        rfl
      cases hnamed : Profile.named profile with
      | ok p =>
        obtain rfl := Profile.name_of_named_eq_ok hnamed
        have hdefault : ¬p.isDefault = true := by
          rw [Profile.isDefault, String.isEmpty_iff]
          exact hprofile
        refine Or.inl ⟨⟨kind, p⟩, ?_⟩
        rw [name, Profile.suffix, if_neg hdefault]
      | error e =>
        obtain ⟨_, hcharacter⟩ := Profile.named_eq_error_iff.1 hnamed
        refine Or.inr (Or.inl ⟨profile, ⟨kind.variableName, ?_, ?_⟩, hprofile, hcharacter⟩)
        · exact mem_variables_iff.2 ⟨kind, rfl⟩
        · exact (String.append_assoc).symm
  · refine Or.inr (Or.inr (parseAs_of_no_variable fun kind _ => ?_))
    by_contra hsome
    obtain ⟨rest, hdrop⟩ := Option.ne_none_iff_exists'.1 hsome
    exact hstart ⟨kind, rest, Text.dropStart?_eq_some_iff.1 hdrop⟩

/-- The text of a bucket is its name. -/
lemma parse_eq_ok_iff {t : String} {b : Bucket} : parse t = .ok b ↔ b.name = t := by
  constructor
  · intro h
    rcases parse_cases t with ⟨b', rfl⟩ | ⟨rest, hmisspelled⟩ | hunknown
    · rw [parse_name] at h
      rw [Except.ok.inj h]
    · rw [parse_of_misspelled hmisspelled] at h
      cases h
    · rw [hunknown] at h
      cases h
  · rintro rfl
    exact parse_name b

/-- A text that is no bucket name is refused with its profile if it is misspelled, and as a whole if
it is not. -/
lemma parse_eq_error_iff {t : String} {e : BucketError} :
    parse t = .error e ↔ (∃ rest, Misspelled t rest ∧ e = .invalidProfile rest) ∨
      ((∀ b : Bucket, b.name ≠ t) ∧ (∀ rest, ¬Misspelled t rest) ∧ e = .unknownBucket t) := by
  constructor
  · intro h
    have hno : ∀ b : Bucket, b.name ≠ t := by
      intro b hb
      rw [parse_eq_ok_iff.2 hb] at h
      cases h
    rcases parse_cases t with ⟨b, hb⟩ | ⟨rest, hmisspelled⟩ | hunknown
    · exact absurd hb (hno b)
    · rw [parse_of_misspelled hmisspelled] at h
      exact Or.inl ⟨rest, hmisspelled, (Except.error.inj h).symm⟩
    · rw [hunknown] at h
      refine Or.inr ⟨hno, ?_, (Except.error.inj h).symm⟩
      intro rest hmisspelled
      rw [parse_of_misspelled hmisspelled] at hunknown
      cases hunknown
  · rintro (⟨rest, hmisspelled, rfl⟩ | ⟨hno, hspelled, rfl⟩)
    · exact parse_of_misspelled hmisspelled
    · rcases parse_cases t with ⟨b, hb⟩ | ⟨rest, hmisspelled⟩ | hunknown
      · exact absurd hb (hno b)
      · exact absurd hmisspelled (hspelled rest)
      · exact hunknown

/-- **Bucket names are read exactly.**  A text is read as the bucket whose name it is, so every
bucket is read from its own name only.  A text that is no bucket name is refused with its profile if
it is misspelled, and as a whole if not. -/
theorem parse_reads_exactly_names (t : String) :
    (∀ b : Bucket, parse t = .ok b ↔ b.kind ∈ FlagKind.all ∧
      (b.profile = .default ∨ b.profile.name ≠ "" ∧
        ∀ c ∈ b.profile.name.toList, c.isAlpha ∨ c.isDigit ∨ c = '_' ∨ c = '-') ∧
      b.name = t) ∧
    (∀ b : Bucket, parse b.name = .ok b) ∧
    (∀ b b' : Bucket, b.name = b'.name ↔ b = b') ∧
    (∀ e, parse t = .error e ↔
      (∃ rest, Misspelled t rest ∧ e = .invalidProfile rest) ∨
        ((∀ b : Bucket, b.name ≠ t) ∧ (∀ rest, ¬Misspelled t rest) ∧ e = .unknownBucket t)) := by
  refine ⟨?_, parse_name, ?_, fun e => parse_eq_error_iff⟩
  · intro b
    have hkind := b.kind.mem_all
    have hprofile := b.profile.default_or_spelled
    rw [parse_eq_ok_iff, and_iff_right hkind, and_iff_right hprofile]
  · intro b b'
    exact ⟨name_injective, congrArg name⟩

end CompilerFlags.Bucket
