import CompilerFlags.Proofs.Bucket.Naming
import CompilerFlags.Proofs.Capability.Scope
import CompilerFlags.Proofs.Starts

/-!
# Flags that make warnings errors

`Warning.escalate` rewrites a flag by rules that look at how it starts, and the starts overlap:
what starts with `-Wno-` or with `-Werror` starts with `-W` as well.  `Warning.Escalates` says for
each rule which flags it is for and what becomes of them; a flag that no rule is for is settled.

Each rule leads to a settled flag (`settled_escalate`).  So escalating again changes nothing, and
nothing but a settled flag stays as it is.  A flag that a rule is for belongs to one dialect, and
what the rule makes of it belongs to the same one (`accepts_escalate`).
-/

namespace CompilerFlags

namespace Dialect

variable {flag : String}

/-- No start of one dialect goes together with one of the other. -/
lemma starts_dash_of_mem : ∀ p ∈ common.foreignStarts,
    Text.starts "-W" p = false ∧ Text.starts p "-W" = false := by
  decide

/-- A flag that starts like a warning's name is for the common dialect only. -/
lemma accepts_of_starts_dash (h : Text.starts "-W" flag = true) (d : Dialect) :
    d.accepts flag = decide (d = common) := by
  have hslash : ∀ p ∈ common.foreignStarts, Text.starts p flag = false := fun p hp =>
    Text.starts_eq_false h (starts_dash_of_mem p hp).1 (starts_dash_of_mem p hp).2
  cases d with
  | msvc => simp [accepts, foreignStarts, h]
  | common => simpa [accepts] using hslash

/-- A flag that starts like a warning's number is for the other dialect only. -/
lemma accepts_of_starts_slash {p : String} (hp : p ∈ common.foreignStarts)
    (h : Text.starts p flag = true) (d : Dialect) : d.accepts flag = decide (d = msvc) := by
  have hdash : Text.starts "-W" flag = false :=
    Text.starts_eq_false h (starts_dash_of_mem p hp).2 (starts_dash_of_mem p hp).1
  cases d with
  | msvc => simp [accepts, foreignStarts, hdash]
  | common => simpa [accepts] using ⟨p, hp, h⟩

end Dialect

namespace Warning

open Text

variable {f g : String}

/-! ## The rules -/

/-- A flag that no rule is for: it asks for errors already, it names no warning, or it does not
start like a flag that can be escalated. -/
def Settled (f : String) : Prop :=
  starts "-Werror" f = true ∨ f = "-W" ∨ ∀ p ∈ ["-W", "/wd", "/wo"], starts p f = false

/-- What becomes of a flag, with one case for each rule. -/
inductive Escalates : String → String → Prop
  | settled {f : String} (h : Settled f) : Escalates f f
  | silence (name : String) : Escalates ("-Wno-" ++ name) ("-Werror=" ++ name)
  | warning {name : String} (hname : name ≠ "") (herror : starts "-Werror" ("-W" ++ name) = false)
      (hno : starts "-Wno-" ("-W" ++ name) = false) : Escalates ("-W" ++ name) ("-Werror=" ++ name)
  | disabled (number : String) : Escalates ("/wd" ++ number) ("/we" ++ number)
  | once (number : String) : Escalates ("/wo" ++ number) ("/we" ++ number)

lemma escalate_of_settled (h : Settled f) : escalate f = f := by
  unfold escalate
  rcases h with herror | rfl | hother
  · rw [if_pos herror]
  · rfl
  · have hdash : starts "-W" f = false := hother "-W" (by decide)
    have herror : starts "-Werror" f = false := starts_eq_false_of_longer rfl hdash
    have hno : starts "-Wno-" f = false := starts_eq_false_of_longer rfl hdash
    rw [if_neg (Bool.eq_false_iff.1 herror), dropStart?_eq_none hno, dropStart?_eq_none hdash,
      dropStart?_eq_none (hother "/wd" (by decide)), dropStart?_eq_none (hother "/wo" (by decide))]
    rfl

/-- A flag that no rule rewrites is settled, and any other flag starts as some rule says. -/
lemma escalates_escalate (f : String) : Escalates f (escalate f) := by
  by_cases hsettled : Settled f
  · rw [escalate_of_settled hsettled]
    exact .settled hsettled
  · rw [Settled, not_or, not_or, Bool.not_eq_true] at hsettled
    obtain ⟨herror, hne, hstart⟩ := hsettled
    rw [escalate, if_neg (Bool.eq_false_iff.1 herror)]
    cases hno : starts "-Wno-" f with
    | true =>
      obtain ⟨name, rfl⟩ := exists_of_starts hno
      rw [dropStart?_append]
      exact .silence name
    | false =>
      rw [dropStart?_eq_none hno]
      cases hdash : starts "-W" f with
      | true =>
        obtain ⟨name, rfl⟩ := exists_of_starts hdash
        have hname : name ≠ "" := by
          rintro rfl
          exact hne rfl
        rw [dropStart?_append]
        show Escalates _ (if name.isEmpty then _ else _)
        rw [if_neg (mt String.isEmpty_iff.1 hname)]
        exact .warning hname herror hno
      | false =>
        rw [dropStart?_eq_none hdash]
        cases hwd : starts "/wd" f with
        | true =>
          obtain ⟨number, rfl⟩ := exists_of_starts hwd
          rw [dropStart?_append]
          exact .disabled number
        | false =>
          rw [dropStart?_eq_none hwd]
          cases hwo : starts "/wo" f with
          | true =>
            obtain ⟨number, rfl⟩ := exists_of_starts hwo
            rw [dropStart?_append]
            exact .once number
          | false => exact absurd (by simp [hdash, hwd, hwo]) hstart

/-! ## What the rules lead to -/

/-- What the rules make of a flag starts like a request for errors of the same dialect. -/
lemma settled_of_escalates (h : Escalates f g) : Settled g := by
  have herror (name : String) : Settled ("-Werror=" ++ name) :=
    Or.inl (starts_trans rfl (starts_append "-Werror=" name))
  have hnumber (number : String) : Settled ("/we" ++ number) := by
    have hapart : ∀ p ∈ ["-W", "/wd", "/wo"],
        starts "/we" p = false ∧ starts p "/we" = false := by decide
    exact Or.inr (Or.inr fun p hp =>
      starts_eq_false (starts_append "/we" number) (hapart p hp).1 (hapart p hp).2)
  cases h with
  | settled h => exact h
  | silence name => exact herror name
  | warning => exact herror _
  | disabled number => exact hnumber number
  | once number => exact hnumber number

/-- Escalating a flag leads to a settled one. -/
lemma settled_escalate (f : String) : Settled (escalate f) :=
  settled_of_escalates (escalates_escalate f)

/-- A settled flag silences nothing. -/
lemma starts_eq_false_of_settled (h : Settled f) :
    ∀ p ∈ ["-Wno-", "/wd", "/wo"], starts p f = false := by
  rcases h with herror | rfl | hother
  · have hapart : ∀ p ∈ ["-Wno-", "/wd", "/wo"],
        starts "-Werror" p = false ∧ starts p "-Werror" = false := by decide
    exact fun p hp => starts_eq_false herror (hapart p hp).1 (hapart p hp).2
  · decide
  · -- what it does not start with are the shorter starts
    have hshorter : ∀ p ∈ ["-Wno-", "/wd", "/wo"], ∃ q ∈ ["-W", "/wd", "/wo"],
        starts q p = true := by decide
    intro p hp
    obtain ⟨q, hq, hqp⟩ := hshorter p hp
    exact starts_eq_false_of_longer hqp (hother q hq)

lemma accepts_of_escalates (h : Escalates f g) (d : Dialect) : d.accepts g = d.accepts f := by
  have herror (name : String) : d.accepts ("-Werror=" ++ name) = decide (d = .common) :=
    Dialect.accepts_of_starts_dash (starts_trans rfl (starts_append "-Werror=" name)) d
  have hnumber (number : String) : d.accepts ("/we" ++ number) = decide (d = .msvc) :=
    Dialect.accepts_of_starts_slash (by decide) (starts_append "/we" number) d
  cases h with
  | settled => rfl
  | silence name =>
    rw [herror,
      Dialect.accepts_of_starts_dash (starts_trans rfl (starts_append "-Wno-" name)) d]
  | warning => rw [herror, Dialect.accepts_of_starts_dash (starts_append "-W" _) d]
  | disabled number =>
    rw [hnumber, Dialect.accepts_of_starts_slash (by decide) (starts_append "/wd" number) d]
  | once number =>
    rw [hnumber, Dialect.accepts_of_starts_slash (by decide) (starts_append "/wo" number) d]

/-- Escalating a flag keeps which dialects it is for. -/
lemma accepts_escalate (d : Dialect) (f : String) : d.accepts (escalate f) = d.accepts f :=
  accepts_of_escalates (escalates_escalate f) d

/-- What escalating leaves alone is settled. -/
lemma escalate_eq_self_iff : escalate f = f ↔ Settled f :=
  ⟨fun h => h ▸ settled_escalate f, escalate_of_settled⟩

/-- Escalated flags are tried for the same languages as the flags themselves. -/
lemma map_eligibleTargets_escalate (ids : CompilerIds) (flags : List String) (targets : Targets)
    (profile : Profile) :
    (search (flags.map escalate) targets profile true).candidates.map
        ((search (flags.map escalate) targets profile true).eligibleTargets ids) =
      (search flags targets profile false).candidates.map
        ((search flags targets profile false).eligibleTargets ids) := by
  show ((flags.map escalate).map Candidate.ofCompile).map _ = (flags.map Candidate.ofCompile).map _
  rw [List.map_map, List.map_map, List.map_map]
  refine List.map_congr_left fun f _ => List.filter_congr fun l _ => ?_
  exact accepts_escalate (ids.dialect l) f

/-- Escalating an escalated flag changes nothing.  The same dialects accept a flag and its escalated
form, so of two requests about the user's flags that differ in whether they make the warnings
errors, both are refused or both have the same scope, and at each position both try their candidate
for the same languages.  No escalated flag silences a warning, and a flag stays as it is exactly if
it asks for errors already, is the bare `-W`, or starts with none of `-W`, `/wd` and `/wo`. -/
theorem escalate_settles :
    (∀ f, escalate (escalate f) = escalate f) ∧
    (∀ (d : Dialect) f, d.accepts (escalate f) = d.accepts f) ∧
    (∀ (options : Options) (ids : CompilerIds),
      let request (error : Bool) : Request := ⟨.ignoreWarning, { options with error := error }⟩
      (request true).plan = (request false).plan ∧
      ∀ targets profile,
        let tries (r : Request) : Search := search r.warningFlags targets profile r.options.error
        (tries (request true)).candidates.map ((tries (request true)).eligibleTargets ids) =
          (tries (request false)).candidates.map ((tries (request false)).eligibleTargets ids)) ∧
    (∀ f, ∀ p ∈ ["-Wno-", "/wd", "/wo"], starts p (escalate f) = false) ∧
    ∀ f, escalate f = f ↔
      starts "-Werror" f = true ∨ f = "-W" ∨ ∀ p ∈ ["-W", "/wd", "/wo"], starts p f = false := by
  refine ⟨fun f => escalate_of_settled (settled_escalate f), accepts_escalate,
    fun options ids => ⟨rfl, fun targets profile => ?_⟩,
    fun f => starts_eq_false_of_settled (settled_escalate f), fun f => escalate_eq_self_iff⟩
  exact map_eligibleTargets_escalate ids options.flags targets profile

/-- The rules overlap, and a start that is longer goes first. -/
example : ["-Wno-unused", "-Wunused", "-Werror=unused", "-W", "/wo4996", "-O2"].map escalate =
    ["-Werror=unused", "-Werror=unused", "-Werror=unused", "-W", "/we4996", "-O2"] := by
  decide

end Warning

end CompilerFlags
