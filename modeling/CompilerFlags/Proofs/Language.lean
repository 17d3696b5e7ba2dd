import CompilerFlags.Language
import CompilerFlags.Proofs.OrderedSet

/-!
# The languages that a selector names

`Language.NamedBy` tells which tokens name a language.  A selector is read token by token: the first
one that names no language is the reason to refuse it, however many good ones stand around it, and
only if there is none it matters whether there are tokens at all (`Targets.resolve_cases`).

Otherwise there is a language for each token (`languages_eq_ok_iff`), and the targets are the first
occurrences in this list.  So they are what the tokens mention, in the order of the first mention
(`Targets.Mentioned`).  Tokens that mention nothing new add no first occurrence, and the names of
targets mention just these targets.
-/

namespace CompilerFlags

namespace Language

/-- Whether a token is the name of a language, written with any capitals and outer blanks. -/
def IsToken (token : String) : Prop :=
  Text.lower (Text.trim token) ∈ ["c", "c++", "cxx"]

instance (token : String) : Decidable (IsToken token) :=
  inferInstanceAs (Decidable (Text.lower (Text.trim token) ∈ ["c", "c++", "cxx"]))

/-- Whether a token is a name of the language, written with any capitals and outer blanks. -/
def NamedBy : Language → String → Prop
  | c, token => Text.lower (Text.trim token) = "c"
  | cpp, token => Text.lower (Text.trim token) ∈ ["c++", "cxx"]

variable {token : String} {l : Language}

lemma ofToken?_eq_some_iff : ofToken? token = some l ↔ l.NamedBy token := by
  unfold ofToken? ofSpelling?
  constructor
  · intro h
    obtain ⟨before, after, htable, _⟩ := List.lookup_eq_some_iff.1 h
    have hmem : (Text.lower (Text.trim token), l) ∈ spellings := by
      rw [htable]
      exact List.mem_append_right _ List.mem_cons_self
    simp only [spellings, List.mem_cons, Prod.mk.injEq, List.not_mem_nil, or_false] at hmem
    rcases hmem with ⟨hs, rfl⟩ | ⟨hs, rfl⟩ | ⟨hs, rfl⟩
    · exact hs
    · exact List.mem_cons.2 (Or.inl hs)
    · exact List.mem_cons_of_mem _ (List.mem_singleton.2 hs)
  · cases l with
    | c =>
      intro h
      rw [show Text.lower (Text.trim token) = "c" from h]
      rfl
    | cpp =>
      intro h
      rcases List.mem_cons.1 h with hs | hs
      · rw [hs]
        rfl
      · rw [List.mem_singleton.1 hs]
        rfl

lemma ofToken?_eq_none_iff : ofToken? token = none ↔ ¬IsToken token := by
  unfold IsToken ofToken? ofSpelling?
  rw [List.lookup_eq_none_iff]
  simp [spellings]

lemma exists_ofToken? (h : IsToken token) : ∃ l, ofToken? token = some l :=
  Option.ne_none_iff_exists'.1 fun hnone => ofToken?_eq_none_iff.1 hnone h

lemma ofToken?_name (l : Language) : ofToken? l.name = some l := by
  cases l <;> rfl

end Language

namespace Targets

/-- Tokens that all name languages stand for as many of them. -/
lemma languages_of_tokens {tokens : List String} (h : ∀ token ∈ tokens, Language.IsToken token) :
    ∃ ls, languages tokens = .ok ls ∧ ls.length = tokens.length := by
  induction tokens with
  | nil => exact ⟨[], rfl, rfl⟩
  | cons token tokens ih =>
    obtain ⟨ls, hls, hlength⟩ := ih fun t ht => h t (List.mem_cons_of_mem token ht)
    obtain ⟨l, hl⟩ := Language.exists_ofToken? (h token List.mem_cons_self)
    refine ⟨l :: ls, ?_, congrArg (· + 1) hlength⟩
    unfold languages
    rw [hl, hls]
    rfl

/-- The first token that names no language is reported, whatever comes after it. -/
lemma languages_of_unknown {before after : List String} {token : String}
    (known : ∀ t ∈ before, Language.IsToken t) (unknown : ¬Language.IsToken token) :
    languages (before ++ token :: after) = .error (.unsupported token) := by
  induction before with
  | nil =>
    have hnone : Language.ofToken? token = none := Language.ofToken?_eq_none_iff.2 unknown
    show languages (token :: after) = _
    unfold languages
    rw [hnone]
  | cons t before ih =>
    obtain ⟨l, hl⟩ := Language.exists_ofToken? (known t List.mem_cons_self)
    have hrest := ih fun t' ht' => known t' (List.mem_cons_of_mem t ht')
    show languages (t :: (before ++ token :: after)) = _
    unfold languages
    rw [hl, hrest]
    rfl

/-- All tokens name languages, or there is a first one that does not. -/
lemma tokens_cases (tokens : List String) :
    (∀ token ∈ tokens, Language.IsToken token) ∨
      ∃ before token after, tokens = before ++ token :: after ∧
        (∀ t ∈ before, Language.IsToken t) ∧ ¬Language.IsToken token := by
  cases hfind : tokens.find? (fun token => !decide (Language.IsToken token)) with
  | none =>
    refine Or.inl fun token htoken => ?_
    simpa using List.find?_eq_none.1 hfind token htoken
  | some token =>
    obtain ⟨hunknown, before, after, htokens, hknown⟩ := List.find?_eq_some_iff_append.1 hfind
    refine Or.inr ⟨before, token, after, htokens, fun t ht => ?_, ?_⟩
    · simpa using hknown t ht
    · simpa using hunknown

/-- A selector without unknown tokens names languages unless it is empty. -/
lemma resolve_of_tokens {selector : Selector} (hne : selector.tokens ≠ [])
    (h : ∀ token ∈ selector.tokens, Language.IsToken token) :
    ∃ targets, resolve (some selector) = .ok targets := by
  obtain ⟨ls, hls, hlength⟩ := languages_of_tokens h
  cases ls with
  | nil => exact absurd (List.length_eq_zero_iff.1 hlength.symm) hne
  | cons l ls =>
    unfold resolve
    dsimp only
    rw [hls]
    exact ⟨_, rfl⟩

lemma resolve_of_unknown {selector : Selector} {before after : List String} {token : String}
    (htokens : selector.tokens = before ++ token :: after)
    (known : ∀ t ∈ before, Language.IsToken t) (unknown : ¬Language.IsToken token) :
    resolve (some selector) = .error (.unsupported token) := by
  unfold resolve
  dsimp only
  rw [htokens, languages_of_unknown known unknown]

lemma resolve_of_tokens_eq_nil {selector : Selector} (h : selector.tokens = []) :
    resolve (some selector) = .error .empty := by
  unfold resolve
  dsimp only
  rw [h]
  rfl

/-- Whether an optional selector makes sense, and if not, why. -/
lemma resolve_cases (selector? : Option Selector) :
    (∃ targets, resolve selector? = .ok targets ∧ ∀ selector, selector? = some selector →
      selector.tokens ≠ [] ∧ ∀ token ∈ selector.tokens, Language.IsToken token) ∨
    (∃ selector, selector? = some selector ∧ selector.tokens = [] ∧
      resolve selector? = .error .empty) ∨
    ∃ selector before token after, selector? = some selector ∧
      selector.tokens = before ++ token :: after ∧ (∀ t ∈ before, Language.IsToken t) ∧
      ¬Language.IsToken token ∧ resolve selector? = .error (.unsupported token) := by
  cases selector? with
  | none => exact Or.inl ⟨.both, rfl, by simp⟩
  | some selector =>
    rcases tokens_cases selector.tokens with
      hknown | ⟨before, token, after, htokens, hknown, hunknown⟩
    · by_cases htokens : selector.tokens = []
      · exact Or.inr (Or.inl ⟨selector, rfl, htokens, resolve_of_tokens_eq_nil htokens⟩)
      · obtain ⟨targets, hresolve⟩ := resolve_of_tokens htokens hknown
        refine Or.inl ⟨targets, hresolve, ?_⟩
        rintro _ ⟨⟩
        exact ⟨htokens, hknown⟩
    · exact Or.inr (Or.inr ⟨selector, before, token, after, rfl, htokens, hknown, hunknown,
        resolve_of_unknown htokens hknown hunknown⟩)

/-! ## What the tokens mention -/

/-- Targets are what a list of tokens mentions: the languages that some token names, each behind those
that were named before it, and first of all the language of the first token. -/
structure Mentioned (tokens : List String) (t : Targets) : Prop where
  named : ∀ l, l ∈ t ↔ ∃ token ∈ tokens, l.NamedBy token
  ordered : t.toList.Pairwise fun l l' => ∃ before token after,
    tokens = before ++ token :: after ∧ l.NamedBy token ∧ ∀ earlier ∈ before, ¬l'.NamedBy earlier
  primary : ∃ token rest l, tokens = token :: rest ∧ l.NamedBy token ∧ t.primary? = some l

lemma languages_eq_ok_iff {tokens : List String} {ls : List Language} :
    languages tokens = .ok ls ↔ tokens.map Language.ofToken? = ls.map some := by
  induction tokens generalizing ls with
  | nil => cases ls <;> simp [languages]
  | cons token tokens ih =>
    unfold languages
    cases htoken : Language.ofToken? token with
    | none => cases ls <;> simp [htoken]
    | some l =>
      cases ls with
      | nil => cases languages tokens <;> simp [Except.map]
      | cons l' ls =>
        rw [List.map_cons, List.map_cons, htoken, List.cons.injEq, Option.some.injEq, ← ih]
        cases languages tokens <;> simp [Except.map]

lemma resolve_eq_ok_iff {selector : Selector} {t : Targets} :
    resolve (some selector) = .ok t ↔
      ∃ l ls, selector.tokens.map Language.ofToken? = (l :: ls).map some ∧
        t = OrderedSet.ofList (l :: ls) := by
  simp only [← languages_eq_ok_iff]
  unfold resolve
  dsimp only
  cases hlanguages : languages selector.tokens with
  | error e => simp
  | ok found =>
    cases found with
    | nil => simp
    | cons l ls => simp [eq_comm]

section

variable {tokens : List String} {ls : List Language}
  (h : tokens.map Language.ofToken? = ls.map some)
include h

lemma mem_iff_of_languages {l : Language} : l ∈ ls ↔ ∃ token ∈ tokens, l.NamedBy token := by
  have hmem : l ∈ ls ↔ some l ∈ tokens.map Language.ofToken? := by
    rw [h]
    simp
  rw [hmem, List.mem_map]
  simp only [Language.ofToken?_eq_some_iff]

/-- Whatever stands somewhere in the list of languages is named by the token in the same place. -/
lemma exists_token_of_languages {before after : List Language} {l : Language}
    (hls : ls = before ++ l :: after) :
    ∃ before' token after', tokens = before' ++ token :: after' ∧ l.NamedBy token ∧
      before'.map Language.ofToken? = before.map some := by
  rw [hls, List.map_append, List.map_cons] at h
  obtain ⟨before', rest, rfl, hbefore, hrest⟩ := List.map_eq_append_iff.1 h
  obtain ⟨token, after', rfl, htoken, _⟩ := List.map_eq_cons_iff.1 hrest
  exact ⟨before', token, after', rfl, Language.ofToken?_eq_some_iff.1 htoken, hbefore⟩

lemma mentioned_ofList (hne : ls ≠ []) : Mentioned tokens (OrderedSet.ofList ls) where
  named _ := by rw [OrderedSet.mem_ofList, mem_iff_of_languages h]
  ordered := by
    rw [OrderedSet.toList_ofList]
    refine (pairwise_eraseDups ls).imp ?_
    rintro l l' ⟨before, after, hls, hnew⟩
    obtain ⟨before', token, after', htokens, hnamed, hbefore⟩ := exists_token_of_languages h hls
    refine ⟨before', token, after', htokens, hnamed, fun earlier hearlier hl' => hnew ?_⟩
    exact (mem_iff_of_languages hbefore).2 ⟨earlier, hearlier, hl'⟩
  primary := by
    obtain ⟨l, rest, rfl⟩ := List.exists_cons_of_ne_nil hne
    obtain ⟨token, tokens', rfl, htoken, _⟩ := List.map_eq_cons_iff.1 h
    refine ⟨token, tokens', l, rfl, Language.ofToken?_eq_some_iff.1 htoken, ?_⟩
    unfold primary?
    rw [OrderedSet.toList_ofList, List.eraseDups_cons, List.head?_cons]

end

/-- Tokens of languages that were mentioned before make no difference. -/
lemma resolve_append_of_mem {selector : Selector} {t : Targets} {more : List String}
    (h : resolve (some selector) = .ok t)
    (hmore : ∀ token ∈ more, ∃ l ∈ t, l.NamedBy token) :
    resolve (some (.many (selector.tokens ++ more))) = .ok t := by
  obtain ⟨l, ls, htokens, rfl⟩ := resolve_eq_ok_iff.1 h
  have hknown : ∀ token ∈ more, Language.IsToken token := by
    intro token htoken
    obtain ⟨l', _, hnamed⟩ := hmore token htoken
    by_contra hunknown
    rw [← Language.ofToken?_eq_none_iff, Language.ofToken?_eq_some_iff.2 hnamed] at hunknown
    cases hunknown
  obtain ⟨added, hadded, _⟩ := languages_of_tokens hknown
  rw [languages_eq_ok_iff] at hadded
  have hold : added ⊆ l :: ls := by
    intro a ha
    obtain ⟨token, htoken, hnamed⟩ := (mem_iff_of_languages hadded).1 ha
    obtain ⟨l', hl', hnamed'⟩ := hmore token htoken
    have hsame : some a = some l' :=
      (Language.ofToken?_eq_some_iff.2 hnamed).symm.trans (Language.ofToken?_eq_some_iff.2 hnamed')
    obtain rfl := Option.some.inj hsame
    exact OrderedSet.mem_ofList.1 hl'
  refine resolve_eq_ok_iff.2 ⟨l, ls ++ added, ?_, OrderedSet.ext ?_⟩
  · show (selector.tokens ++ more).map Language.ofToken? = (l :: ls ++ added).map some
    rw [List.map_append, List.map_append, htokens, hadded]
  · rw [OrderedSet.toList_ofList, OrderedSet.toList_ofList, ← List.cons_append,
      eraseDups_append_of_subset hold]

/-- Targets are resolved from the names of their languages. -/
lemma resolve_names {t : Targets} (hne : t.toList ≠ []) :
    resolve (some (.many (t.toList.map Language.name))) = .ok t := by
  obtain ⟨l, ls, heq⟩ := List.exists_cons_of_ne_nil hne
  refine resolve_eq_ok_iff.2 ⟨l, ls, ?_, ?_⟩
  · show (t.toList.map Language.name).map Language.ofToken? = _
    rw [List.map_map, heq]
    refine List.map_congr_left fun l _ => ?_
    rw [Function.comp_apply, Language.ofToken?_name]
  · rw [← heq, OrderedSet.ofList_toList]

/-- A selector is resolved just if it has tokens and each of them names a language.  The targets are then
what the tokens mention, none of them twice; their names stand for the same targets, and so do the tokens
with others behind them that mention nothing new.  A selector without tokens is refused as empty, and any
other one for the first token that names no language. -/
theorem resolve_reads_tokens (selector : Selector) :
    ((∃ t, resolve (some selector) = .ok t) ↔
      selector.tokens ≠ [] ∧ ∀ token ∈ selector.tokens, Language.IsToken token) ∧
    (∀ t, resolve (some selector) = .ok t →
      t.toList ≠ [] ∧ t.toList.Nodup ∧ Mentioned selector.tokens t ∧
      resolve (some (.many (t.toList.map Language.name))) = .ok t ∧
      ∀ more, (∀ token ∈ more, ∃ l ∈ t, l.NamedBy token) →
        resolve (some (.many (selector.tokens ++ more))) = .ok t) ∧
    ∀ e, resolve (some selector) = .error e ↔
      selector.tokens = [] ∧ e = .empty ∨
      ∃ before token after, selector.tokens = before ++ token :: after ∧
        (∀ t ∈ before, Language.IsToken t) ∧ ¬Language.IsToken token ∧ e = .unsupported token := by
  have hcases := resolve_cases (some selector)
  refine ⟨⟨?_, fun h => resolve_of_tokens h.1 h.2⟩, fun t h => ?_, fun e => ⟨?_, ?_⟩⟩
  · rintro ⟨t, ht⟩
    rcases hcases with ⟨_, _, hgood⟩ | ⟨_, ⟨⟩, _, herror⟩ | ⟨_, _, _, _, ⟨⟩, _, _, _, herror⟩
    · exact hgood selector rfl
    · cases ht.symm.trans herror
    · cases ht.symm.trans herror
  · obtain ⟨l, ls, htokens, rfl⟩ := resolve_eq_ok_iff.1 h
    have hne : (OrderedSet.ofList (l :: ls)).toList ≠ [] := by
      rw [OrderedSet.toList_ofList, List.eraseDups_cons]
      exact List.cons_ne_nil _ _
    exact ⟨hne, OrderedSet.nodup _, mentioned_ofList htokens (List.cons_ne_nil _ _),
      resolve_names hne, fun more => resolve_append_of_mem h⟩
  · intro h
    rcases hcases with ⟨_, hok, _⟩ | ⟨_, ⟨⟩, htokens, herror⟩ |
      ⟨_, before, token, after, ⟨⟩, htokens, hknown, hunknown, herror⟩
    · cases h.symm.trans hok
    · cases h.symm.trans herror
      exact Or.inl ⟨htokens, rfl⟩
    · cases h.symm.trans herror
      exact Or.inr ⟨before, token, after, htokens, hknown, hunknown, rfl⟩
  · rintro (⟨htokens, rfl⟩ | ⟨before, token, after, htokens, hknown, hunknown, rfl⟩)
    · exact resolve_of_tokens_eq_nil htokens
    · exact resolve_of_unknown htokens hknown hunknown

-- two names of one language, mentioned first
example : (resolve (some (.many ["C++", " c ", "cxx"]))).map OrderedSet.toList = .ok [.cpp, .c] :=
  rfl

end Targets

end CompilerFlags
