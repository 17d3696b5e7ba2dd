import CompilerFlags.Proofs.Capability.Dialects
import CompilerFlags.Proofs.Capability.Escalation
import CompilerFlags.Proofs.Words

/-!
# Escalating entries of several arguments

`Warning.escalate` looks at the start of an entry, and the arguments of an entry are taken apart only
when the compiler is called.  So of the arguments of an entry it rewrites the first one at most, and
not even that one if a blank stands before it (`escalate_of_loose`, `escalate_append`).

`Argumentwise` and `Reaches` say for which entries this makes no difference.
-/

namespace CompilerFlags

namespace Text

variable {p s t : String}

/-- Whether a text starts with the characters of a word does not depend on a loose text behind it. -/
lemma starts_append_of_loose (hp : IsWord p) (ht : Loose t) (s : String) :
    starts p (s ++ t) = starts p s := by
  rw [Bool.eq_iff_iff, starts_iff, starts_iff, String.toList_append]
  refine ⟨fun h => ?_, fun h => h.trans (List.prefix_append _ _)⟩
  rcases List.prefix_or_prefix_of_prefix h (List.prefix_append _ _) with hps | ⟨r, hr⟩
  · exact hps
  · cases r with
    | nil => exact ⟨[], by rw [← hr, List.append_nil, List.append_nil]⟩
    | cons c r =>
      -- the start would reach into the loose text, whose first character is blank
      rw [← hr, List.prefix_append_right_inj] at h
      obtain ⟨u, hu⟩ := h
      have hblank : isBlank c = true := ht c (by rw [← hu]; rfl)
      have hletter : isBlank c = false := hp.not_blank c (by rw [← hr]; simp)
      rw [hblank] at hletter
      cases hletter

lemma dropStart?_append_of_loose (hp : IsWord p) (ht : Loose t) (s : String) :
    dropStart? p (s ++ t) = (dropStart? p s).map (· ++ t) := by
  cases hs : starts p s with
  | true =>
    obtain ⟨r, rfl⟩ := exists_of_starts hs
    rw [String.append_assoc, dropStart?_append, dropStart?_append]
    rfl
  | false =>
    have hst : starts p (s ++ t) = false := (starts_append_of_loose hp ht s).trans hs
    rw [dropStart?_eq_none hs, dropStart?_eq_none hst]
    rfl

end Text

namespace Warning

open Text

variable {e t w : String}

/-- An argument that silences a warning. -/
def Silences (a : String) : Prop := ∃ p ∈ ["-Wno-", "/wd", "/wo"], starts p a = true

lemma not_silences_of_settled {a : String} (h : Settled a) : ¬Silences a := by
  rintro ⟨p, hp, ha⟩
  rw [starts_eq_false_of_settled h p hp] at ha
  cases ha

/-! ## What becomes of an entry -/

/-- An entry with a blank at its start stays as it is. -/
lemma escalate_of_loose (h : Loose e) : escalate e = e := by
  refine escalate_of_settled (Or.inr (Or.inr fun p hp => ?_))
  have hstarts : ∀ p ∈ ["-W", "/wd", "/wo"], IsWord p ∧ starts p "" = false := by decide
  rw [← String.empty_append (s := e), starts_append_of_loose (hstarts p hp).1 h]
  exact (hstarts p hp).2

/-- What stands behind a blank stays as it is, and matters only for a bare `-W`. -/
lemma escalate_append (ht : Loose t) (h : w = "-W" → t = "") :
    escalate (w ++ t) = escalate w ++ t := by
  have hdrop {p : String} (hp : p ∈ ["-Wno-", "-W", "/wd", "/wo"]) :
      dropStart? p (w ++ t) = (dropStart? p w).map (· ++ t) := by
    have hstarts : ∀ p ∈ ["-Wno-", "-W", "/wd", "/wo"], IsWord p := by decide
    exact dropStart?_append_of_loose (hstarts p hp) ht w
  unfold escalate
  rw [starts_append_of_loose (by decide) ht, hdrop (p := "-Wno-") (by decide),
    hdrop (p := "-W") (by decide), hdrop (p := "/wd") (by decide), hdrop (p := "/wo") (by decide),
    ← Option.map_or]
  split
  · rfl
  cases dropStart? "-Wno-" w with
  | some name => exact String.append_assoc.symm
  | none =>
    cases hdash : dropStart? "-W" w with
    | some name =>
      dsimp only [Option.map_some, Option.map_none]
      by_cases hname : name = ""
      · have hw : w = "-W" := by rw [dropStart?_eq_some_iff.1 hdash, hname]; rfl
        rw [h hw, hname, hw]
        rfl
      · have hmore : name ++ t ≠ "" := fun hempty => hname (String.append_eq_empty_iff.1 hempty).1
        rw [if_neg (mt String.isEmpty_iff.1 hname), if_neg (mt String.isEmpty_iff.1 hmore),
          String.append_assoc]
    | none =>
      cases (dropStart? "/wd" w).or (dropStart? "/wo" w) with
      | some number => exact String.append_assoc.symm
      | none => rfl

/-- The start of a word may be exchanged for another word. -/
lemma isWord_exchange {p q r : String} (hq : IsWord q) (h : IsWord (p ++ r)) : IsWord (q ++ r) where
  ne_empty := fun hempty => hq.ne_empty (String.append_eq_empty_iff.1 hempty).1
  not_blank := by
    intro c hc
    rcases List.mem_append.1 (String.toList_append ▸ hc) with hc | hc
    · exact hq.not_blank c hc
    · exact h.not_blank c (String.toList_append ▸ List.mem_append_right _ hc)

lemma isWord_escalate (h : IsWord w) : IsWord (escalate w) := by
  have hescalates := escalates_escalate w
  generalize escalate w = g at hescalates
  cases hescalates with
  | settled => exact h
  | silence name => exact isWord_exchange (by decide) h
  | warning => exact isWord_exchange (by decide) h
  | disabled number => exact isWord_exchange (by decide) h
  | once number => exact isWord_exchange (by decide) h

/-- What becomes of the first argument of an entry that starts with one.  A bare `-W` counts as the start
of a warning's name if anything follows it, be it a blank. -/
def firstEscalated (w t : String) : String :=
  if w = "-W" ∧ t ≠ "" then "-Werror=" else escalate w

/-- Of the arguments of an entry that starts with one, this one alone is rewritten. -/
lemma words_escalate_append (hw : IsWord w) (ht : Loose t) :
    words (escalate (w ++ t)) = firstEscalated w t :: words t := by
  unfold firstEscalated
  split
  · next h =>
    obtain ⟨rfl, hne⟩ := h
    have hescalate : escalate ("-W" ++ t) = "-Werror=" ++ t := by
      unfold escalate
      rw [starts_append_of_loose (by decide) ht,
        dropStart?_append_of_loose (p := "-Wno-") (by decide) ht, dropStart?_append]
      show (if t.isEmpty then "-W" ++ t else "-Werror=" ++ t) = _
      rw [if_neg (mt String.isEmpty_iff.1 hne)]
    have hword : IsWord "-Werror=" := by decide
    rw [hescalate, hword.words_append ht]
  · next h =>
    have hbare : w = "-W" → t = "" := fun hw => by_contra fun hne => h ⟨hw, hne⟩
    rw [escalate_append ht hbare, (isWord_escalate hw).words_append ht]

/-! ## Entries that are escalated as their arguments are -/

/-- An entry that is escalated as if each of its arguments were. -/
structure Argumentwise (e : String) : Prop where
  /-- The first argument is settled unless the entry starts with it. -/
  first : ∀ a ∈ (words e).head?, starts a e = false → Settled a
  /-- An entry that starts with a bare `-W` holds nothing else. -/
  bare : (words e).head? = some "-W" → starts "-W" e = true → e = "-W"
  /-- The other arguments are settled. -/
  others : ∀ a ∈ (words e).tail, Settled a

/-- The arguments of an entry that would silence a warning are rewritten. -/
structure Reaches (e : String) : Prop where
  first : ∀ a ∈ (words e).head?, Silences a → starts a e = true
  others : ∀ a ∈ (words e).tail, ¬Silences a

section

variable {P : String → Prop}

lemma forall_mem_of_head_of_tail {l : List String} (hhead : ∀ a ∈ l.head?, P a)
    (htail : ∀ a ∈ l.tail, P a) : ∀ a ∈ l, P a := by
  cases l with
  | nil => exact fun _ h => nomatch h
  | cons b l => exact List.forall_mem_cons.2 ⟨hhead b rfl, htail⟩

end

/-- A loose entry starts with none of its arguments. -/
lemma starts_eq_false_of_loose (h : Loose e) : ∀ a ∈ words e, starts a e = false := by
  intro a ha
  have hword := isWord_of_mem_words ha
  have hempty : starts a "" = false := by
    rw [Bool.eq_false_iff, Ne, starts_iff]
    exact fun hprefix => hword.ne_empty (String.toList_injective (List.prefix_nil.1 hprefix))
  rw [← hempty, ← String.empty_append (s := e)]
  exact starts_append_of_loose hword h ""

lemma argumentwise_iff_of_loose (h : Loose e) : Argumentwise e ↔ ∀ a ∈ words e, Settled a := by
  have hstarts := starts_eq_false_of_loose h
  refine ⟨fun he => ?_, fun hsettled => ⟨?_, ?_, ?_⟩⟩
  · have hfirst : ∀ a ∈ (words e).head?, Settled a := fun a ha =>
      he.first a ha (hstarts a (List.mem_of_mem_head? ha))
    exact forall_mem_of_head_of_tail hfirst he.others
  · exact fun a ha _ => hsettled a (List.mem_of_mem_head? ha)
  · intro hhead hstart
    rw [hstarts "-W" (List.mem_of_mem_head? hhead)] at hstart
    cases hstart
  · exact fun a ha => hsettled a (List.mem_of_mem_tail ha)

lemma argumentwise_append_iff (hw : IsWord w) (ht : Loose t) :
    Argumentwise (w ++ t) ↔ (w = "-W" → t = "") ∧ ∀ a ∈ words t, Settled a := by
  have hwords : words (w ++ t) = w :: words t := hw.words_append ht
  refine ⟨fun he => ⟨?_, ?_⟩, fun ⟨hbare, hothers⟩ => ⟨?_, ?_, ?_⟩⟩
  · rintro rfl
    have heq := he.bare (by rw [hwords]; rfl) (starts_append _ _)
    exact (String.append_right_inj "-W").1 (heq.trans String.append_empty.symm)
  · intro a ha
    exact he.others a (by rwa [hwords])
  · intro a ha hstart
    rw [hwords] at ha
    obtain rfl := Option.some.inj ha
    rw [starts_append] at hstart
    cases hstart
  · intro hhead _
    rw [hwords] at hhead
    obtain rfl := Option.some.inj hhead
    rw [hbare rfl]
    rfl
  · rwa [hwords]

lemma map_escalate_eq_iff (l : List String) : l = l.map escalate ↔ ∀ a ∈ l, Settled a := by
  have hmap : l.map escalate = l.map id ↔ ∀ a ∈ l, escalate a = a := List.map_inj_left
  rw [List.map_id] at hmap
  rw [eq_comm, hmap]
  exact forall₂_congr fun a _ => escalate_eq_self_iff

lemma firstEscalated_eq_iff : firstEscalated w t = escalate w ↔ (w = "-W" → t = "") := by
  unfold firstEscalated
  split
  · next h =>
    obtain ⟨rfl, hne⟩ := h
    have hbare : "-Werror=" ≠ escalate "-W" := by decide
    exact ⟨fun heq => absurd heq hbare, fun hempty => absurd (hempty rfl) hne⟩
  · next h => exact iff_of_true rfl fun hw => by_contra fun hne => h ⟨hw, hne⟩

/-- The arguments of the escalated entry are the escalated arguments exactly for such entries. -/
lemma words_escalate_iff (e : String) :
    words (escalate e) = (words e).map escalate ↔ Argumentwise e := by
  rcases loose_or_isWord_append e with he | ⟨w, t, hw, ht, rfl⟩
  · rw [escalate_of_loose he, argumentwise_iff_of_loose he, map_escalate_eq_iff]
  · rw [words_escalate_append hw ht, hw.words_append ht, argumentwise_append_iff hw ht,
      List.map_cons, List.cons.injEq, firstEscalated_eq_iff, map_escalate_eq_iff]

/-! ## Arguments that silence a warning -/

lemma not_silences_firstEscalated (w t : String) : ¬Silences (firstEscalated w t) := by
  unfold firstEscalated
  split
  · exact not_silences_of_settled (Or.inl (by decide))
  · exact not_silences_of_settled (settled_escalate w)

/-- An escalated entry has no argument that silences a warning exactly if escalating reaches those of
the entry. -/
lemma forall_words_escalate_iff (e : String) :
    (∀ a ∈ words (escalate e), ¬Silences a) ↔ Reaches e := by
  rcases loose_or_isWord_append e with he | ⟨w, t, hw, ht, rfl⟩
  · rw [escalate_of_loose he]
    have hstarts := starts_eq_false_of_loose he
    refine ⟨fun h => ⟨fun a ha hsilences => ?_, fun a ha => h a (List.mem_of_mem_tail ha)⟩,
      fun h => forall_mem_of_head_of_tail (fun a ha hsilences => ?_) h.others⟩
    · exact absurd hsilences (h a (List.mem_of_mem_head? ha))
    · have hstart := h.first a ha hsilences
      rw [hstarts a (List.mem_of_mem_head? ha)] at hstart
      cases hstart
  · have hwords : words (w ++ t) = w :: words t := hw.words_append ht
    rw [words_escalate_append hw ht, List.forall_mem_cons]
    refine ⟨fun ⟨_, h⟩ => ⟨fun a ha _ => ?_, ?_⟩,
      fun h => ⟨not_silences_firstEscalated w t, fun a ha => h.others a (by rwa [hwords])⟩⟩
    · rw [hwords] at ha
      obtain rfl := Option.some.inj ha
      exact starts_append _ _
    · rwa [hwords]

end Warning

/-! ## What a request shows -/

/-- A compile flag of a trial was recorded before, or it is that of the candidate. -/
lemma Search.mem_gather_or_of_mem_trialOf {search : Search} {s : Store} {c : Candidate}
    {l : Language} {flag : String} (h : flag ∈ (search.trialOf s c l).compileFlags) :
    flag ∈ s.gather [.preprocessor, .compile l] search.profile ∨ c.compile = some flag := by
  obtain ⟨kind, hkind, b, hb, hflag⟩ := Store.mem_gather.1 h
  have hlink : b ≠ ⟨.link, search.profile⟩ := by
    rintro rfl
    rw [← Store.kind_of_mem_visible hb] at hkind
    simp at hkind
  have hbefore : flag ∈ s.get b →
      flag ∈ s.gather [.preprocessor, .compile l] search.profile := fun hflag =>
    Store.mem_gather.2 ⟨kind, hkind, b, hb, hflag⟩
  rw [Store.get_record] at hflag
  split at hflag
  · next heq =>
    rw [← heq] at hflag
    rcases OrderedSet.mem_insert?.1 hflag with hflag | hflag
    · rw [Store.get_record_of_ne hlink] at hflag
      exact Or.inl (hbefore hflag)
    · exact Or.inr hflag
  · rw [Store.get_record_of_ne hlink] at hflag
    exact Or.inl (hbefore hflag)

namespace Request

variable {σ : Type} {r : Request} {targets : Targets} {profile : Profile}

/-- A compile flag that a request for a warning shows to the compiler of a language was recorded
before, or it is one that the request tries and the dialect accepts. -/
lemma mem_gather_or_of_mem_calls (hr : r.capability ≠ .threads)
    (hscope : r.scope = .ok (targets, profile)) {ctx : Context σ} {s : Session σ} {call : Call}
    (hcall : call ∈ calls ctx [r] s) {flag : String} (hflag : flag ∈ call.trial.compileFlags) :
    flag ∈ s.bench.store.gather [.preprocessor, .compile call.trial.language] profile ∨
      flag ∈ r.warningFlags ∧ (ctx.ids.dialect call.trial.language).accepts flag = true := by
  let search := Warning.search r.warningFlags targets profile r.options.error
  have hcalls : calls ctx [r] s = search.calls ctx.compiler ctx.ids s.bench :=
    congrArg (fun w => w.memory.2) (bench_check_warning hr hscope ctx.recorded s.unrecorded)
  obtain ⟨winner, hcourse, _, _⟩ := search.exists_course ctx.compiler ctx.ids s.bench
  obtain ⟨c, hc, htrial⟩ := hcourse.trial_mem (hcalls ▸ hcall)
  obtain ⟨l, hl, htrial⟩ := List.mem_map.1 htrial
  obtain rfl : l = call.trial.language := congrArg Trial.language htrial
  rw [← htrial] at hflag
  refine (Search.mem_gather_or_of_mem_trialOf hflag).imp id fun hcompile => ?_
  obtain ⟨flag', hmem, rfl⟩ := List.mem_map.1 hc
  obtain rfl := Option.some.inj hcompile
  exact ⟨hmem, (List.mem_filter.1 hl).2⟩

end Request

namespace Warning

open Text

/-- The arguments of an escalated entry are the escalated arguments of the entry exactly if the entry is
one that is escalated argumentwise.  A request that makes the user's warnings errors shows the compiler
of a target language no new argument that silences a warning, whatever compilers answer and whatever
was recorded before, exactly if escalating reaches all such arguments of the entries that the dialect
of the compiler accepts. -/
theorem escalate_argumentwise_iff (ids : CompilerIds) (options : Options) (targets : Targets)
    (profile : Profile) (l : Language) :
    (∀ e, words (escalate e) = (words e).map escalate ↔ Argumentwise e) ∧
    (options.error = true → scope options.languages options.profile = .ok (targets, profile) →
      l ∈ targets →
      ((∀ (σ : Type) (ctx : Context σ) (s : Session σ), ctx.ids = ids →
          ∀ call ∈ Request.calls ctx [⟨.ignoreWarning, options⟩] s, call.trial.language = l →
            ∀ flag ∈ call.trial.compileFlags,
              flag ∉ s.bench.store.gather [.preprocessor, .compile l] profile →
              ∀ a ∈ words flag, ¬Silences a) ↔
        ∀ e ∈ options.flags, (ids.dialect l).accepts e = true → Reaches e)) := by
  refine ⟨words_escalate_iff, fun herror hscope hl => ?_⟩
  let r : Request := ⟨.ignoreWarning, options⟩
  have hr : r.capability ≠ .threads := nofun
  have hflags : r.warningFlags = options.flags.map escalate := if_pos herror
  constructor
  · intro hquiet e he haccepts
    rw [← forall_words_escalate_iff]
    -- a refusing compiler is shown every entry that its dialect accepts
    let surroundings : Surroundings := ⟨ids, .linux, none, ⟨none, none⟩, fun _ => False⟩
    have hmem : escalate e ∈ r.warningFlags := hflags ▸ List.mem_map_of_mem he
    have hshown : (surroundings.ids.dialect l).accepts (escalate e) = true :=
      (accepts_escalate _ e).trans haccepts
    obtain ⟨call, hcall, hlanguage, hflag⟩ :=
      Request.shown_of_mem_warningFlags (e := surroundings) hr hscope hl hmem hshown
    refine hquiet Bool _ _ rfl call hcall hlanguage _ hflag fun hvisible => ?_
    obtain ⟨kind, _, b, _, hempty⟩ := Store.mem_gather.1 hvisible
    cases hempty
  · rintro hreaches σ ctx s rfl call hcall rfl flag hflag hnew
    rcases Request.mem_gather_or_of_mem_calls hr hscope hcall hflag with hbefore | ⟨hmem, haccepts⟩
    · exact absurd hbefore hnew
    · obtain ⟨e, he, rfl⟩ := List.mem_map.1 (hflags ▸ hmem)
      rw [accepts_escalate] at haccepts
      exact (forall_words_escalate_iff e).2 (hreaches e he haccepts)

/-- Only the first argument is made an error, and the second one goes on to silence its warning. -/
example : words (escalate "-Wno-unused -Wno-shadow") = ["-Werror=unused", "-Wno-shadow"] ∧
    words (escalate " -Wno-unused") = ["-Wno-unused"] := by
  decide

end Warning

end CompilerFlags
