import CompilerFlags.Proofs.Bucket.Naming
import CompilerFlags.Proofs.Capability.Scope
import CompilerFlags.Proofs.Language

/-!
# Why a request is refused

A request is refused for its options alone, before anything is tried.  `Request.Refused` lists the
reasons in their order: each holds only where no earlier one does.

1. `ignoreWarning` without flags.
2. A selector of languages that is no good: its first unknown token is the reason, or that it has no
   token at all.
3. A profile whose name has a character that profiles do not have.

These are exactly the requests without a plan (`plan_eq_error_iff`).
-/

namespace CompilerFlags

namespace Request

/-- The reasons to refuse a request; an earlier one is the only one. -/
inductive Refused (r : Request) : RequestError → Prop
  /-- The request needs flags and has none. -/
  | missingFlags (flags : r.LacksFlags) : Refused r (.missingFlags .ignoreWarning)
  /-- A token names no language, and all tokens before it do. -/
  | unsupportedLanguage {selector : Selector} {before after : List String} {token : String}
      (flags : ¬r.LacksFlags) (selected : r.options.languages = some selector)
      (tokens : selector.tokens = before ++ token :: after)
      (known : ∀ t ∈ before, Language.IsToken t) (unknown : ¬Language.IsToken token) :
      Refused r (.unsupportedLanguage token)
  /-- The list of languages is empty. -/
  | noLanguages {selector : Selector} (flags : ¬r.LacksFlags)
      (selected : r.options.languages = some selector) (tokens : selector.tokens = []) :
      Refused r .noLanguages
  /-- The profile has a character that profiles do not have. -/
  | invalidProfile {name : String} (flags : ¬r.LacksFlags)
      (languages : ∀ selector, r.options.languages = some selector →
        selector.tokens ≠ [] ∧ ∀ token ∈ selector.tokens, Language.IsToken token)
      (named : r.options.profile = some name)
      (character : ∃ c ∈ name.toList, ¬(c.isAlpha ∨ c.isDigit ∨ c = '_' ∨ c = '-')) :
      Refused r (.bucket (.invalidProfile name))

variable {r : Request}

lemma plan_of_flags (h : ¬r.LacksFlags) : r.plan = r.scope :=
  if_neg h

/-- Languages that make no sense are the reason, whatever the profile is. -/
lemma scope_of_resolve_error {e : LanguageError}
    (h : Targets.resolve r.options.languages = .error e) :
    r.scope = .error (.ofLanguageError e) := by
  unfold scope CompilerFlags.scope
  rw [h]

/-- If the languages make sense, only the profile can be wrong; the one that threads have by default
is not. -/
lemma scope_eq_error_iff_of_resolve {targets : Targets} {e : RequestError}
    (h : Targets.resolve r.options.languages = .ok targets) :
    r.scope = .error e ↔ ∃ name, r.options.profile = some name ∧
      ∃ cause, Profile.named name = .error cause ∧ e = .bucket cause := by
  have hselect (name : Option String) : CompilerFlags.scope r.options.languages name = .error e ↔
      ∃ cause, Profile.select name = .error cause ∧ e = .bucket cause := by
    unfold CompilerFlags.scope
    rw [h]
    dsimp only
    cases hcause : Profile.select name with
    | error cause => simp [eq_comm]
    | ok profile => simp
  have hdefault (cause : BucketError) : Profile.named Threads.defaultProfile ≠ .error cause := by
    have hok : Profile.named Threads.defaultProfile = .ok ⟨Threads.defaultProfile, by decide⟩ :=
      dif_pos (by decide)
    rw [hok]
    simp
  unfold scope
  rw [hselect]
  cases hprofile : r.options.profile with
  | none =>
    by_cases hr : r.capability = .threads
    · simp [hr, Profile.select, hdefault]
    · simp [hr, Profile.select]
  | some name => simp [Profile.select]

/-- A request without a plan has a reason to be refused. -/
lemma refused_of_plan {e : RequestError} (h : r.plan = .error e) : r.Refused e := by
  by_cases hflags : r.LacksFlags
  · rw [plan, if_pos hflags] at h
    obtain rfl := Except.error.inj h
    exact .missingFlags hflags
  rw [plan_of_flags hflags] at h
  rcases Targets.resolve_cases r.options.languages with
    ⟨targets, hresolve, hlanguages⟩ | ⟨selector, hselected, htokens, hresolve⟩ |
      ⟨selector, before, token, after, hselected, htokens, hknown, hunknown, hresolve⟩
  · obtain ⟨name, hname, cause, hcause, rfl⟩ := (scope_eq_error_iff_of_resolve hresolve).1 h
    obtain ⟨rfl, hbad⟩ := Profile.named_eq_error_iff.1 hcause
    exact .invalidProfile hflags hlanguages hname hbad
  · obtain rfl := Except.error.inj ((scope_of_resolve_error hresolve).symm.trans h)
    exact .noLanguages hflags hselected htokens
  · obtain rfl := Except.error.inj ((scope_of_resolve_error hresolve).symm.trans h)
    exact .unsupportedLanguage hflags hselected htokens hknown hunknown

/-- A reason to refuse a request leaves it without a plan. -/
lemma Refused.plan_eq {e : RequestError} (h : r.Refused e) : r.plan = .error e := by
  cases h with
  | missingFlags flags => exact if_pos flags
  | unsupportedLanguage flags selected tokens known unknown =>
    have hresolve := Targets.resolve_of_unknown tokens known unknown
    rw [← selected] at hresolve
    rw [plan_of_flags flags, scope_of_resolve_error hresolve]
    rfl
  | noLanguages flags selected tokens =>
    have hresolve := Targets.resolve_of_tokens_eq_nil tokens
    rw [← selected] at hresolve
    rw [plan_of_flags flags, scope_of_resolve_error hresolve]
    rfl
  | @invalidProfile name flags languages named character =>
    have hresolve : ∃ targets, Targets.resolve r.options.languages = .ok targets := by
      cases hselected : r.options.languages with
      | none => exact ⟨.both, rfl⟩
      | some selector =>
        obtain ⟨hne, hknown⟩ := languages selector hselected
        exact Targets.resolve_of_tokens hne hknown
    obtain ⟨targets, hresolve⟩ := hresolve
    rw [plan_of_flags flags, scope_eq_error_iff_of_resolve hresolve]
    exact ⟨name, named, _, Profile.named_eq_error_iff.2 ⟨rfl, character⟩, rfl⟩

/-- A request has no plan exactly if there is a reason to refuse it. -/
theorem plan_eq_error_iff {e : RequestError} : r.plan = .error e ↔ r.Refused e :=
  ⟨refused_of_plan, Refused.plan_eq⟩

end Request

end CompilerFlags
