import CompilerFlags.Proofs.Trimming
import CompilerFlags.Triple

/-!
# Triples are read as they are written

Cutting a text at a character and joining the pieces with it undo each other, as long as the
character is in none of the pieces (`Text.splitAt_join`, `Text.join_splitAt`).  A triple is read from
the pieces of a trimmed text between its dashes, and it keeps the first four of them
(`Triple.parse?_eq_some_iff`).  So only the pieces after the fourth are lost on the way to the
triple, and a triple is read back from its own text just if its parts can be told apart there:
none of them is empty or has a dash, and no blank stands at the two ends (`Triple.IsPlain`).
Blanks inside, next to a dash for example, belong to their part.
-/

namespace CompilerFlags

namespace Text

variable {c : Char} {p s sep : String} {ps : List String}

/-! ## The pieces of a text -/

lemma join_eq_intercalate (sep : String) (ps : List String) :
    join sep ps = sep.intercalate ps := by
  induction ps with
  | nil => exact String.intercalate_nil.symm
  | cons p ps ih =>
    cases ps with
    | nil => exact String.intercalate_singleton.symm
    | cons q qs =>
      rw [String.intercalate_cons_cons, ← ih]
      rfl

lemma toList_join (sep : String) (ps : List String) :
    (join sep ps).toList = sep.toList.intercalate (ps.map String.toList) := by
  rw [join_eq_intercalate, String.toList_intercalate]

/-- What is joined starts with what its first pieces join to. -/
lemma exists_join_append (sep : String) (hne : ps ≠ []) (qs : List String) :
    ∃ rest, join sep (ps ++ qs) = join sep ps ++ rest := by
  rcases eq_or_ne qs [] with rfl | hqs
  · exact ⟨"", by rw [List.append_nil, String.append_empty]⟩
  · refine ⟨sep ++ join sep qs, ?_⟩
    simp only [join_eq_intercalate, String.intercalate_append_of_ne_nil hne hqs,
      String.append_assoc]

/-- What is joined ends with its last piece. -/
lemma exists_join_concat (sep : String) (ps : List String) (p : String) :
    ∃ front, join sep (ps ++ [p]) = front ++ p := by
  rcases eq_or_ne ps [] with rfl | hps
  · exact ⟨"", String.empty_append.symm⟩
  · refine ⟨join sep ps ++ sep, ?_⟩
    rw [join_eq_intercalate, String.intercalate_append_of_ne_nil hps (List.cons_ne_nil p []),
      String.intercalate_singleton, join_eq_intercalate]

/-- A text is what its pieces join to. -/
lemma join_splitAt (c : Char) (s : String) : join (String.singleton c) (splitAt c s) = s := by
  apply String.toList_injective
  have hpieces : (splitAt c s).map String.toList = s.toList.splitOn c := by
    unfold splitAt
    rw [List.map_map]
    exact List.map_id'' (fun _ => String.toList_ofList) _
  rw [toList_join, hpieces, String.toList_singleton, List.intercalate_splitOn]

/-- Pieces without the character are found again in what they join to. -/
lemma splitAt_join (hne : ps ≠ []) (hfree : ∀ p ∈ ps, c ∉ p.toList) :
    splitAt c (join (String.singleton c) ps) = ps := by
  have hfree' : ∀ l ∈ ps.map String.toList, c ∉ l := List.forall_mem_map.2 hfree
  unfold splitAt
  rw [toList_join, String.toList_singleton,
    List.splitOn_intercalate c hfree' (mt List.map_eq_nil_iff.1 hne), List.map_map]
  exact List.map_id'' (fun _ => String.ofList_toList) _

lemma not_mem_of_mem_splitOn {cs piece : List Char} (h : piece ∈ cs.splitOn c) : c ∉ piece := by
  induction cs generalizing piece with
  | nil =>
    rw [List.splitOn_nil, List.mem_singleton] at h
    rw [h]
    exact List.not_mem_nil
  | cons a cs ih =>
    rw [List.splitOn_cons_eq_if_modifyHead] at h
    split_ifs at h with ha
    · rcases List.mem_cons.1 h with rfl | h
      · exact List.not_mem_nil
      · exact ih h
    · -- the letter goes to the front of the first piece
      obtain ⟨first, rest, hsplit⟩ := List.exists_cons_of_ne_nil (List.splitOn_ne_nil c cs)
      rw [hsplit, List.modifyHead_cons] at h
      rcases List.mem_cons.1 h with rfl | h
      · have hfirst : c ∉ first := ih (by rw [hsplit]; exact List.mem_cons_self)
        have hne : c ≠ a := fun hca => ha (beq_iff_eq.2 hca.symm)
        exact List.not_mem_cons_of_ne_of_not_mem hne hfirst
      · exact ih (by rw [hsplit]; exact List.mem_cons_of_mem _ h)

/-- No piece of a text has the character at which the text is cut. -/
lemma not_mem_of_mem_splitAt (h : p ∈ splitAt c s) : c ∉ p.toList := by
  obtain ⟨piece, hpiece, rfl⟩ := List.mem_map.1 h
  rw [String.toList_ofList]
  exact not_mem_of_mem_splitOn hpiece

end Text

namespace Triple

variable {s : String} {ps : List String} {t : Triple}

/-! ## Reading the parts -/

lemma parts_ne_nil (t : Triple) : t.parts ≠ [] :=
  List.cons_ne_nil _ _

lemma parts_eq_iff {arch vendor os : String} {environment : Option String} :
    t.parts = arch :: vendor :: os :: environment.toList ↔ t = ⟨arch, vendor, os, environment⟩ := by
  refine ⟨fun h => ?_, fun h => by rw [h]; rfl⟩
  cases t with
  | mk arch' vendor' os' environment' =>
    simp only [parts, List.cons.injEq] at h
    obtain ⟨rfl, rfl, rfl, h⟩ := h
    have henvironment : environment' = environment :=
      calc environment' = environment'.toList.head? := Option.head?_toList.symm
        _ = environment.toList.head? := by rw [h]
        _ = environment := Option.head?_toList
    rw [henvironment]

lemma ofParts?_eq_some_iff :
    ofParts? ps = some t ↔ (∀ p ∈ ps, p ≠ "") ∧ ps.take 4 = t.parts := by
  have hempty : ps.any (·.isEmpty) = true ↔ ¬ ∀ p ∈ ps, p ≠ "" := by
    simp only [List.any_eq_true, String.isEmpty_iff, not_forall, not_not, exists_prop]
  unfold ofParts?
  by_cases hne : ∀ p ∈ ps, p ≠ ""
  · rw [if_neg (mt hempty.1 (not_not_intro hne)), and_iff_right hne]
    match ps with
    | [] | [_] | [_, _] => simp [parts]
    | arch :: vendor :: os :: rest =>
      have htake : (arch :: vendor :: os :: rest).take 4 =
          arch :: vendor :: os :: rest.head?.toList := by
        cases rest <;> rfl
      rw [htake, Option.some_inj, eq_comm, ← parts_eq_iff, eq_comm]
  · rw [if_pos (hempty.2 hne)]
    exact ⟨fun h => absurd h (Option.some_ne_none t).symm, fun h => absurd h.1 hne⟩

/-- A triple is read from the pieces of the trimmed text if none of them is empty, and it keeps the
first four. -/
lemma parse?_eq_some_iff :
    parse? s = some t ↔ (∀ p ∈ Text.splitAt '-' (Text.trim s), p ≠ "") ∧
      (Text.splitAt '-' (Text.trim s)).take 4 = t.parts :=
  ofParts?_eq_some_iff

/-- There is a triple with given parts if these are three or four. -/
lemma exists_parts_eq_iff : (∃ t : Triple, ps.take 4 = t.parts) ↔ 3 ≤ ps.length := by
  constructor
  · rintro ⟨t, ht⟩
    have hlength : 3 ≤ (ps.take 4).length := by
      rw [ht]
      exact Nat.le_add_left 3 t.environment.toList.length
    exact hlength.trans (List.length_take_le' 4 ps)
  · intro hlength
    match ps, hlength with
    | arch :: vendor :: os :: [], _ => exact ⟨⟨arch, vendor, os, none⟩, rfl⟩
    | arch :: vendor :: os :: e :: _, _ => exact ⟨⟨arch, vendor, os, some e⟩, rfl⟩

/-! ## The text of a triple -/

/-- The part at the end of the text of a triple. -/
def lastPart (t : Triple) : String :=
  t.environment.getD t.os

/-- The parts of a triple can be told apart in its text, also by a reader who does not look at outer
blanks. -/
structure IsPlain (t : Triple) : Prop where
  ne_empty : ∀ p ∈ t.parts, p ≠ ""
  no_dash : ∀ p ∈ t.parts, '-' ∉ p.toList
  first : ∀ c ∈ t.arch.toList.head?, Text.isBlank c = false
  last : ∀ c ∈ t.lastPart.toList.getLast?, Text.isBlank c = false

lemma lastPart_mem (t : Triple) : t.lastPart ∈ t.parts := by
  cases t with
  | mk arch vendor os environment => cases environment <;> simp [lastPart, parts]

lemma exists_display_eq_arch_append (t : Triple) : ∃ rest, t.display = t.arch ++ rest :=
  Text.exists_join_append "-" (List.cons_ne_nil t.arch []) (t.vendor :: t.os :: t.environment.toList)

lemma exists_display_eq_append_lastPart (t : Triple) : ∃ front, t.display = front ++ t.lastPart := by
  cases t with
  | mk arch vendor os environment =>
    cases environment with
    | none => exact Text.exists_join_concat "-" [arch, vendor] os
    | some e => exact Text.exists_join_concat "-" [arch, vendor, os] e

/-- Outer blanks of the text of a triple are blanks of its outer parts. -/
lemma isTrimmed_display_iff (hne : ∀ p ∈ t.parts, p ≠ "") :
    Text.IsTrimmed t.display ↔ (∀ c ∈ t.arch.toList.head?, Text.isBlank c = false) ∧
      ∀ c ∈ t.lastPart.toList.getLast?, Text.isBlank c = false := by
  have hhead : t.display.toList.head? = t.arch.toList.head? := by
    obtain ⟨rest, hrest⟩ := t.exists_display_eq_arch_append
    have harch : t.arch.toList ≠ [] := mt String.toList_eq_nil_iff.1 (hne _ List.mem_cons_self)
    rw [hrest, String.toList_append, List.head?_append_of_ne_nil _ harch]
  have hlast : t.display.toList.getLast? = t.lastPart.toList.getLast? := by
    obtain ⟨front, hfront⟩ := t.exists_display_eq_append_lastPart
    have hpart : t.lastPart.toList ≠ [] := mt String.toList_eq_nil_iff.1 (hne _ t.lastPart_mem)
    rw [hfront, String.toList_append, List.getLast?_append_of_ne_nil _ hpart]
  rw [← hhead, ← hlast]
  exact ⟨fun h => ⟨h.first, h.last⟩, fun h => ⟨h.1, h.2⟩⟩

lemma splitAt_display (hdash : ∀ p ∈ t.parts, '-' ∉ p.toList) :
    Text.splitAt '-' t.display = t.parts :=
  Text.splitAt_join t.parts_ne_nil hdash

/-- The trimmed text starts with the text of the triple that is read from it. -/
lemma exists_trim_eq_display_append (h : parse? s = some t) :
    ∃ rest, Text.trim s = t.display ++ rest := by
  obtain ⟨-, htake⟩ := parse?_eq_some_iff.1 h
  let more := (Text.splitAt '-' (Text.trim s)).drop 4
  obtain ⟨rest, hrest⟩ := Text.exists_join_append "-" t.parts_ne_nil more
  have hpieces : t.parts ++ more = Text.splitAt '-' (Text.trim s) := by
    rw [← htake, List.take_append_drop]
  refine ⟨rest, ?_⟩
  calc Text.trim s = Text.join "-" (t.parts ++ more) := by
        rw [hpieces]
        exact (Text.join_splitAt '-' (Text.trim s)).symm
    _ = t.display ++ rest := hrest

/-- Nothing is lost of a text with no more than four pieces. -/
lemma display_of_parse? (h : parse? s = some t)
    (hlength : (Text.splitAt '-' (Text.trim s)).length ≤ 4) : t.display = Text.trim s := by
  obtain ⟨-, htake⟩ := parse?_eq_some_iff.1 h
  rw [List.take_of_length_le hlength] at htake
  calc t.display = Text.join "-" (Text.splitAt '-' (Text.trim s)) := by rw [htake, display]
    _ = Text.trim s := Text.join_splitAt '-' (Text.trim s)

/-- A plain triple is read back from its text. -/
lemma IsPlain.parse?_display (h : IsPlain t) : parse? t.display = some t := by
  have htrim : Text.trim t.display = t.display :=
    ((isTrimmed_display_iff h.ne_empty).2 ⟨h.first, h.last⟩).trim_eq
  rw [parse?_eq_some_iff, htrim, splitAt_display h.no_dash]
  refine ⟨h.ne_empty, List.take_of_length_le ?_⟩
  cases t with
  | mk arch vendor os environment => cases environment <;> simp [parts]

/-- The text of a triple that is read back from it has no outer blanks: else it would be longer
than what is read from it. -/
lemma isTrimmed_display_of_parse? (h : parse? t.display = some t) : Text.IsTrimmed t.display := by
  obtain ⟨rest, hrest⟩ := exists_trim_eq_display_append h
  obtain ⟨before, after, -, -, heq⟩ := Text.exists_eq_trim t.display
  have hlength : before.length + after.length + rest.length = 0 := by
    have h := congrArg String.length heq
    rw [hrest, String.length_append, String.length_append, String.length_append] at h
    omega
  have hnone : rest = "" := String.length_eq_zero_iff.1 (by omega)
  rw [Text.isTrimmed_iff, hrest, hnone, String.append_empty]

lemma isPlain_of_parse?_display (h : parse? t.display = some t) : IsPlain t := by
  have htrimmed := isTrimmed_display_of_parse? h
  obtain ⟨hne, htake⟩ := parse?_eq_some_iff.1 h
  have hmem : ∀ p ∈ t.parts, p ∈ Text.splitAt '-' (Text.trim t.display) := by
    intro p hp
    rw [← htake] at hp
    exact List.mem_of_mem_take hp
  have hparts : ∀ p ∈ t.parts, p ≠ "" := fun p hp => hne p (hmem p hp)
  obtain ⟨hfirst, hlast⟩ := (isTrimmed_display_iff hparts).1 htrimmed
  exact ⟨hparts, fun p hp => Text.not_mem_of_mem_splitAt (hmem p hp), hfirst, hlast⟩

/-- A triple is read from a text just if the text has three or more pieces between its dashes, outer
blanks aside, and none of them is empty.  If they are no more than four, the triple is written as the
trimmed text and read back from it.  The triples that are read back from what they are written as are
the plain ones. -/
theorem display_is_read_back :
    (∀ s : String, (∃ t, parse? s = some t) ↔
      3 ≤ (Text.splitAt '-' (Text.trim s)).length ∧
        ∀ p ∈ Text.splitAt '-' (Text.trim s), p ≠ "") ∧
    (∀ (s : String) (t : Triple), parse? s = some t →
      (Text.splitAt '-' (Text.trim s)).length ≤ 4 →
        t.display = Text.trim s ∧ parse? t.display = some t) ∧
    ∀ t : Triple, parse? t.display = some t ↔ IsPlain t := by
  refine ⟨fun s => ?_, fun s t h hlength => ?_, fun t => ?_⟩
  · simp only [parse?_eq_some_iff, exists_and_left, exists_parts_eq_iff]
    exact and_comm
  · have hdisplay : t.display = Text.trim s := display_of_parse? h hlength
    have hread : parse? (Text.trim s) = parse? s := by
      unfold parse?
      rw [Text.trim_trim]
    exact ⟨hdisplay, by rw [hdisplay, hread, h]⟩
  · exact ⟨isPlain_of_parse?_display, IsPlain.parse?_display⟩

-- a blank next to a dash belongs to its part; pieces after the fourth are not kept
example : parse? " x86_64-unknown -linux-gnu-eabi" =
    some ⟨"x86_64", "unknown ", "linux", some "gnu"⟩ := by decide

end Triple

end CompilerFlags
