import CompilerFlags.Console
import CompilerFlags.Proofs.Capability.Scope
import Mathlib.Data.List.Induction

/-!
# The lines that people see

What a console shows of a sequence of events is made of complete lines, one for each event that people
see (`Console.endsLine_renderAll`).

The results of requests and their count (`Event.IsResult`) are shown without a capital S
(`Console.not_mem_renderAll`): their wording is fixed except for the numbers, whatever the colours are.
The line about saved flags has one.  So it stands nowhere among results (`Console.not_showsSaved`),
although it goes on with a path that can be any text.
-/

namespace CompilerFlags

namespace Text

lemma not_mem_append {c : Char} {s t : String} (hs : c ∉ s.toList) (ht : c ∉ t.toList) :
    c ∉ (s ++ t).toList := by
  rw [String.toList_append, List.mem_append]
  exact fun h => h.elim hs ht

lemma not_mem_pad {c d : Char} (hne : c ≠ d) (n : Nat) : c ∉ (Text.pad n d).toList := by
  unfold Text.pad
  rw [String.toList_ofList]
  exact fun h => hne (List.eq_of_mem_replicate h)

end Text

/-! ## Lines for people -/

namespace Console

variable {console : Console} {e : Event} {events : List Event} {path : String}

/-- A text that is empty or whose last line is complete. -/
def EndsLine (s : String) : Prop :=
  ∀ c ∈ s.toList.getLast?, c = '\n'

/-- People see the line that says that flags were saved to a file. -/
def ShowsSaved (console : Console) (path : String) (out : Output) : Prop :=
  ∃ before after, EndsLine before ∧
    out.stderr = before ++ (console.statusLine .saved ("flags to " ++ path) ++ "\n") ++ after

lemma endsLine_append {s t : String} (hs : EndsLine s) (ht : EndsLine t) : EndsLine (s ++ t) := by
  intro c hc
  rw [String.toList_append, List.getLast?_append, Option.mem_def, Option.or_eq_some_iff] at hc
  rcases hc with hlast | ⟨_, hlast⟩
  · exact ht c hlast
  · exact hs c hlast

lemma endsLine_errLine (s : String) : EndsLine (Output.errLine s).stderr := by
  intro c hc
  have hline : (Output.errLine s).stderr.toList = s.toList ++ ['\n'] := String.toList_append
  rw [hline, List.getLast?_concat] at hc
  exact (Option.some.inj hc).symm

lemma endsLine_empty : EndsLine "" := by
  intro c hc
  cases hc

lemma endsLine_render (console : Console) (e : Event) : EndsLine (console.render e).stderr := by
  unfold render
  split
  · exact endsLine_empty
  · exact endsLine_empty
  · exact endsLine_empty
  · exact endsLine_empty
  · exact endsLine_errLine _
  · exact endsLine_errLine _
  · exact endsLine_empty

lemma renderAll_concat (console : Console) (events : List Event) (e : Event) :
    console.renderAll (events ++ [e]) = console.renderAll events ++ console.render e := by
  unfold renderAll
  rw [List.foldl_append]
  rfl

lemma stderr_renderAll_concat (console : Console) (events : List Event) (e : Event) :
    (console.renderAll (events ++ [e])).stderr =
      (console.renderAll events).stderr ++ (console.render e).stderr := by
  rw [renderAll_concat]
  rfl

lemma endsLine_renderAll (console : Console) (events : List Event) :
    EndsLine (console.renderAll events).stderr := by
  induction events using List.reverseRecOn with
  | nil => exact endsLine_empty
  | append_singleton events e ih =>
    rw [stderr_renderAll_concat]
    exact endsLine_append ih (endsLine_render console e)

/-- People see a line for each report and for each status, unless they want quiet. -/
lemma render_of_people (hpeople : console.isJson = false) (hloud : console.isQuiet = false) :
    (∀ r, console.render (.check r) = .errLine (console.checkLine r)) ∧
      ∀ kind message,
        console.render (.status kind message) = .errLine (console.statusLine kind message) := by
  cases console with
  | mk mode colored =>
    cases mode with
    | programs => cases hpeople
    | people verbosity color =>
      cases verbosity with
      | quiet => cases hloud
      | normal => exact ⟨fun _ => rfl, fun _ _ => rfl⟩
      | verbose => exact ⟨fun _ => rfl, fun _ _ => rfl⟩

end Console

/-! ## Letters that a result does not have -/

/-- An event that tells of the result of a request, or how many were available. -/
inductive Event.IsResult : Event → Prop
  | check (r : Request) (status : Status) : IsResult (.check (r.reportOf status))
  | finished (available all : Nat) : IsResult (.status .finished
      (toString available ++ " of " ++ toString all ++ " capabilities available"))

namespace Console

variable {console : Console} {e : Event} {events : List Event} {path : String}

lemma not_mem_paint {c : Char} {code text : String} (hcode : c ∉ code.toList)
    (htext : c ∉ text.toList) (hreset : c ∉ colorReset.toList) :
    c ∉ (console.paint code text).toList := by
  unfold paint
  split
  · exact Text.not_mem_append (Text.not_mem_append hcode htext) hreset
  · exact htext

lemma not_mem_toString (n : Nat) : 'S' ∉ (toString n).toList := by
  intro h
  have hdigits : (toString n).toList = Nat.toDigits 10 n := Nat.toList_repr
  rw [hdigits] at h
  have hdigit : 'S'.isDigit = true := Nat.isDigit_of_mem_toDigits (by decide) (by decide) h
  revert hdigit
  decide

lemma not_mem_checkLine (r : Request) (status : Status) :
    'S' ∉ (console.checkLine (r.reportOf status)).toList := by
  have hquestion : ∀ capability : Capability, 'S' ∉ capability.question.toList := by
    intro capability
    cases capability <;> decide
  have hname : 'S' ∉ status.name.toList := by cases status <;> decide
  have hcode : ∀ color : Color, 'S' ∉ color.code.toList := by
    intro color
    cases color <;> decide
  unfold checkLine Text.alignLeft
  apply Text.not_mem_append
  · apply Text.not_mem_append _ (by decide)
    exact Text.not_mem_append (hquestion r.capability) (Text.not_mem_pad (by decide) _)
  · exact not_mem_paint (hcode _) hname (by decide)

lemma not_mem_statusLine_finished (available all : Nat) :
    'S' ∉ (console.statusLine .finished
      (toString available ++ " of " ++ toString all ++ " capabilities available")).toList := by
  unfold statusLine
  apply Text.not_mem_append
  · exact Text.not_mem_append (not_mem_paint (by decide) (by decide) (by decide)) (by decide)
  · apply Text.not_mem_append _ (by decide)
    apply Text.not_mem_append _ (not_mem_toString all)
    exact Text.not_mem_append (not_mem_toString available) (by decide)

lemma mem_statusLine_saved (console : Console) (message : String) :
    'S' ∈ (console.statusLine .saved message).toList := by
  have hword : 'S' ∈ (Text.alignRight statusWidth StatusKind.saved.word).toList := by decide
  have hpaint : 'S' ∈ (console.paint StatusKind.saved.code
      (Text.alignRight statusWidth StatusKind.saved.word)).toList := by
    unfold paint
    split
    · simp only [String.toList_append, List.mem_append]
      exact Or.inl (Or.inr hword)
    · exact hword
  unfold statusLine
  simp only [String.toList_append, List.mem_append]
  exact Or.inl (Or.inl hpaint)

section

variable (hpeople : console.isJson = false) (hloud : console.isQuiet = false)
include hpeople hloud

lemma not_mem_render (he : e.IsResult) : 'S' ∉ (console.render e).stderr.toList := by
  have hline {s : String} (hs : 'S' ∉ s.toList) : 'S' ∉ (Output.errLine s).stderr.toList :=
    Text.not_mem_append hs (by decide)
  obtain ⟨hcheck, hstatus⟩ := render_of_people hpeople hloud
  cases he with
  | check r status =>
    rw [hcheck]
    exact hline (not_mem_checkLine r status)
  | finished available all =>
    rw [hstatus]
    exact hline (not_mem_statusLine_finished available all)

/-- No result is shown with a capital S. -/
lemma not_mem_renderAll (hevents : ∀ e ∈ events, e.IsResult) :
    'S' ∉ (console.renderAll events).stderr.toList := by
  induction events using List.reverseRecOn with
  | nil => exact List.not_mem_nil
  | append_singleton events e ih =>
    obtain ⟨hevents, he⟩ := List.forall_mem_append.1 hevents
    rw [stderr_renderAll_concat]
    exact Text.not_mem_append (ih hevents) (not_mem_render hpeople hloud (he e List.mem_cons_self))

/-- Results of requests do not look like the line about saved flags. -/
lemma not_showsSaved (hevents : ∀ e ∈ events, e.IsResult) :
    ¬ console.ShowsSaved path (console.renderAll events) := by
  rintro ⟨before, after, -, hstderr⟩
  apply not_mem_renderAll hpeople hloud hevents
  rw [hstderr]
  simp only [String.toList_append, List.mem_append]
  exact Or.inl (Or.inr (Or.inl (mem_statusLine_saved console _)))

/-- The line about saved flags is seen after any other events. -/
lemma showsSaved_concat (events : List Event) :
    console.ShowsSaved path
      (console.renderAll events ++ console.render (.status .saved ("flags to " ++ path))) := by
  obtain ⟨-, hstatus⟩ := render_of_people hpeople hloud
  refine ⟨(console.renderAll events).stderr, "", endsLine_renderAll console events, ?_⟩
  rw [hstatus, String.append_empty]
  rfl

end

end Console

end CompilerFlags
