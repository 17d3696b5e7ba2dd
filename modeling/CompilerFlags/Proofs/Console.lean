import CompilerFlags.Proofs.CommandLine.Lines
import CompilerFlags.Proofs.Json.Document

/-!
# Output for people and output for programs

A run writes for people or for programs, but never for both.  Whoever it writes for, the stream is made
of one line for some of the events, and no event adds anything to the other stream
(`Console.renderAll_eq_ofLines`).

A line for programs is the compact text of a value.  As such a text is a single line and is read back,
the stream can be cut at its line breaks and every piece tells of its event, whatever the texts in
the event are (`Event.parse?_json?`, `Text.splitAt_ofLines`).  Lines for people are not meant to be read
back: a message with a line break takes more than one line.
-/

namespace CompilerFlags

namespace Text

/-- Lines one after another, each with a line break at its end. -/
def ofLines (lines : List String) : String := join "\n" (lines ++ [""])

lemma ofLines_cons (line : String) (lines : List String) :
    ofLines (line :: lines) = line ++ "\n" ++ ofLines lines := by
  cases lines <;> rfl

lemma ofLines_append (lines lines' : List String) :
    ofLines (lines ++ lines') = ofLines lines ++ ofLines lines' := by
  induction lines with
  | nil => exact String.empty_append.symm
  | cons line lines ih =>
    rw [List.cons_append, ofLines_cons, ofLines_cons, ih]
    exact String.append_assoc.symm

lemma ofLines_singleton (line : String) : ofLines [line] = line ++ "\n" :=
  String.append_empty

/-- Lines without line breaks are found again. -/
lemma splitAt_ofLines {lines : List String} (hlines : ∀ line ∈ lines, '\n' ∉ line.toList) :
    splitAt '\n' (ofLines lines) = lines ++ [""] := by
  have hall : ∀ line ∈ lines ++ [""], '\n' ∉ line.toList :=
    List.forall_mem_append.2 ⟨hlines, by decide⟩
  exact splitAt_join (List.append_ne_nil_of_right_ne_nil lines (List.cons_ne_nil _ _)) hall

end Text

/-! ## What programs are told -/

/-- The fields of a report stand in the order of their names. -/
lemma Report.sorted_toValue (r : Report) : r.toValue.sorted = r.toValue := by
  have hnames : (["color", "message", "reason", "result"] : List String).Pairwise
      fun a b => decide (a ≤ b) = true := by decide
  unfold toValue
  rw [Value.sorted_table]
  unfold Value.byName
  rw [List.mergeSort_of_pairwise (List.Pairwise.of_map Prod.fst (fun _ _ h => h) hnames)]
  rfl

lemma Report.isJson_toValue (r : Report) : r.toValue.IsJson := by
  refine .table fun field hmem => ?_
  simp only [List.mem_cons, List.not_mem_nil, or_false] at hmem
  rcases hmem with rfl | rfl | rfl | rfl <;> exact .text _

namespace Event

/-- What programs are told by an event: the colour, the message and the result of a check, and a
value as it is, since the fields of a table have no order of their own. -/
def meant? : Event → Option Value
  | .check r => some (.table [("color", .text r.color.name), ("message", .text r.message),
      ("reason", .text "check"), ("result", .text r.result)])
  | .data v => some v.sorted
  | .status _ _ => none

/-- The line that programs get for an event. -/
def json? : Event → Option String
  | .check r => some (Json.print r.toValue)
  | .data v => some (Json.print v)
  | .status _ _ => none

lemma parse?_json? {e : Event} (hdata : ∀ v, e = .data v → v.IsJson) :
    e.json?.map Json.parse? = e.meant?.map some := by
  cases e with
  | check r =>
    show some (Json.parse? (Json.print r.toValue)) = some (some r.toValue)
    rw [Json.parse?_print r.isJson_toValue, r.sorted_toValue]
  | status kind message => rfl
  | data v => exact congrArg some (Json.parse?_print (hdata v rfl))

lemma not_mem_json? {e : Event} {line : String} (hdata : ∀ v, e = .data v → v.IsJson)
    (h : e.json? = some line) : '\n' ∉ line.toList := by
  cases e with
  | check r =>
    cases h
    exact Json.not_mem_print r.isJson_toValue
  | status kind message => cases h
  | data v =>
    cases h
    exact Json.not_mem_print (hdata v rfl)

end Event

/-! ## What becomes of a sequence of events -/

namespace Console

/-- The line that people get for an event. -/
def line? (console : Console) : Event → Option String
  | .check r => some (console.checkLine r)
  | .status kind message => some (console.statusLine kind message)
  | .data _ => none

variable {console : Console}

/-- If every event adds one line or nothing to each stream, then the streams are made of these lines. -/
lemma renderAll_eq_ofLines (out? err? : Event → Option String)
    (hrender : ∀ e, console.render e =
      ⟨Text.ofLines (out? e).toList, Text.ofLines (err? e).toList⟩)
    (events : List Event) :
    console.renderAll events =
      ⟨Text.ofLines (events.filterMap out?), Text.ofLines (events.filterMap err?)⟩ := by
  induction events using List.reverseRecOn with
  | nil => rfl
  | append_singleton events e ih =>
    have hlast (f : Event → Option String) : [e].filterMap f = (f e).toList := by
      cases hf : f e with
      | none => exact List.filterMap_cons_none hf
      | some line => exact List.filterMap_cons_some hf
    rw [renderAll_concat, ih, hrender, List.filterMap_append, List.filterMap_append,
      Text.ofLines_append, Text.ofLines_append, hlast, hlast]
    rfl

/-- Programs get a line for each event that has a value. -/
lemma renderAll_of_programs (hprograms : console.isJson = true) (events : List Event) :
    console.renderAll events = ⟨Text.ofLines (events.filterMap Event.json?), ""⟩ := by
  have hrender (e : Event) :
      console.render e = ⟨Text.ofLines e.json?.toList, Text.ofLines []⟩ := by
    have hline (line : String) : Output.outLine line = ⟨Text.ofLines [line], Text.ofLines []⟩ :=
      congrArg (Output.mk · "") (Text.ofLines_singleton line).symm
    cases console with
    | mk mode colored =>
      cases mode with
      | people verbosity color => cases hprograms
      | programs =>
        cases e with
        | check r => exact hline _
        | status kind message => rfl
        | data v => exact hline _
  rw [renderAll_eq_ofLines Event.json? (fun _ => none) hrender, List.filterMap_none]
  rfl

/-- People who do not want quiet get a line for each event except values. -/
lemma renderAll_of_people (hpeople : console.isJson = false) (hloud : console.isQuiet = false)
    (events : List Event) :
    console.renderAll events = ⟨"", Text.ofLines (events.filterMap console.line?)⟩ := by
  obtain ⟨hcheck, hstatus⟩ := render_of_people hpeople hloud
  have hrender (e : Event) :
      console.render e = ⟨Text.ofLines [], Text.ofLines (console.line? e).toList⟩ := by
    have hline (line : String) : Output.errLine line = ⟨Text.ofLines [], Text.ofLines [line]⟩ :=
      congrArg (Output.mk "" ·) (Text.ofLines_singleton line).symm
    cases e with
    | check r => exact (hcheck r).trans (hline _)
    | status kind message => exact (hstatus kind message).trans (hline _)
    | data v =>
      cases console with
      | mk mode colored =>
        cases mode with
        | programs => cases hpeople
        | people verbosity color => cases verbosity <;> rfl
  rw [renderAll_eq_ofLines (fun _ => none) console.line? hrender, List.filterMap_none]
  rfl

/-- People who want quiet get nothing. -/
lemma renderAll_of_quiet (hquiet : console.isQuiet = true) (events : List Event) :
    console.renderAll events = .empty := by
  have hrender (e : Event) : console.render e = ⟨Text.ofLines [], Text.ofLines []⟩ := by
    cases console with
    | mk mode colored =>
      cases mode with
      | programs => cases hquiet
      | people verbosity color =>
        cases verbosity with
        | quiet => cases e <;> rfl
        | normal => cases hquiet
        | verbose => cases hquiet
  rw [renderAll_eq_ofLines (fun _ => none) (fun _ => none) hrender, List.filterMap_none]
  rfl

/-- With JSON, whatever the other flags are, nothing goes to the error stream, and the output stream is
one line for each check and each value, in their order, which is read back as what the event tells.
Without JSON nothing goes to the output stream, and the error stream is a line for each check and each
status, or nothing at all in quiet mode. -/
theorem output_for_people_or_programs (terminal quiet verbose : Bool) (color : ColorChoice)
    (events : List Event) :
    ((ofFlags terminal quiet verbose color true).renderAll events).stderr = "" ∧
    ((∀ v, .data v ∈ events → v.IsJson) → ∃ lines,
      Text.splitAt '\n' ((ofFlags terminal quiet verbose color true).renderAll events).stdout =
        lines ++ [""] ∧
      lines.map Json.parse? = (events.filterMap Event.meant?).map some) ∧
    (ofFlags terminal quiet verbose color false).renderAll events =
      ⟨"", if quiet then ""
        else Text.ofLines (events.filterMap (ofFlags terminal quiet verbose color false).line?)⟩ := by
  have hprograms : (ofFlags terminal quiet verbose color true).isJson = true := rfl
  have hpeople : (ofFlags terminal quiet verbose color false).isJson = false := rfl
  have hquiet : (ofFlags terminal quiet verbose color false).isQuiet = quiet := by
    cases quiet <;> cases verbose <;> rfl
  rw [renderAll_of_programs hprograms]
  refine ⟨rfl, fun hevents => ⟨events.filterMap Event.json?, ?_, ?_⟩, ?_⟩
  · refine Text.splitAt_ofLines fun line hline => ?_
    obtain ⟨e, he, hjson⟩ := List.mem_filterMap.1 hline
    exact Event.not_mem_json? (fun v hv => hevents v (hv ▸ he)) hjson
  · rw [List.map_filterMap, List.map_filterMap]
    exact List.filterMap_congr fun e he => Event.parse?_json? fun v hv => hevents v (hv ▸ he)
  · cases quiet with
    | true => exact renderAll_of_quiet hquiet events
    | false => exact renderAll_of_people hpeople hquiet events

/-- A check whose message has quotes and a line break, a remark, and a value. -/
def mixedEvents : List Event :=
  [.check ⟨"say \"hi\"\nand go", "yes", .green⟩, .note "for people",
    .data (.table [("b", .list [.int (-7), .real "0.5"]), ("a", .null)])]

set_option maxRecDepth 1024 in
/-- Neither the quotes nor the line break disturb the lines for programs. -/
theorem lines_of_mixedEvents :
    (∀ v, .data v ∈ mixedEvents → v.IsJson) ∧ ∃ lines,
      Text.splitAt '\n' ((ofFlags true true true .always true).renderAll mixedEvents).stdout =
        lines ++ [""] ∧
      lines.map Json.parse? =
        [some (.table [("color", .text "green"), ("message", .text "say \"hi\"\nand go"),
          ("reason", .text "check"), ("result", .text "yes")]),
        some (.table [("a", .null), ("b", .list [.int (-7), .real "0.5"])])] := by
  have hevents : ∀ v, .data v ∈ mixedEvents → v.IsJson := by
    intro v hmem
    simp only [mixedEvents, Event.note, List.mem_cons, List.not_mem_nil, reduceCtorEq, or_false,
      false_or, Event.data.injEq] at hmem
    subst hmem
    have hreal : Json.number? "0.5".toList = some (.real "0.5") := rfl
    have hitems : ∀ item ∈ [Value.int (-7), .real "0.5"], item.IsJson :=
      List.forall_mem_cons.2 ⟨.int (by decide) (by decide),
        List.forall_mem_singleton.2 (.real hreal)⟩
    exact .table (List.forall_mem_cons.2 ⟨.list hitems, List.forall_mem_singleton.2 .null⟩)
  have hsorted : (Value.table [("b", .list [.int (-7), .real "0.5"]), ("a", .null)]).sorted =
      .table [("a", .null), ("b", .list [.int (-7), .real "0.5"])] := by
    have hnames : Value.byName [("b", .list [.int (-7), .real "0.5"]), ("a", .null)] =
        [("a", .null), ("b", .list [.int (-7), .real "0.5"])] := by simp [Value.byName, List.mergeSort]
    rw [Value.sorted_table, hnames]
    rfl
  obtain ⟨lines, hsplit, hread⟩ :=
    (output_for_people_or_programs true true true .always mixedEvents).2.1 hevents
  refine ⟨hevents, lines, hsplit, hread.trans ?_⟩
  show [some _, some (Value.sorted _)] = _
  rw [hsorted]
  rfl

end Console

end CompilerFlags
