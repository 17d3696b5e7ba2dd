import CompilerFlags.Data.Toml.Printer
import CompilerFlags.Data.Toml.Reader
import CompilerFlags.Proofs.Toml.Quoted
import Mathlib.Data.List.TakeDrop

/-!
# Documents of named lists are read as they were written

`parse?_printLists`: a document of named lists is read back, if the names need no quotes and no name
occurs twice.

The reader goes over blanks, comments and line breaks between any two tokens.  What is written has
blanks and line breaks in few places only; everywhere else the next character is `Visible`, and the
reader stays where it is.
-/

namespace CompilerFlags.Toml

/-! ## Blanks -/

/-- A character that is no blank, starts no comment and ends no line. -/
def Visible (c : Char) : Prop :=
  isSpace c = false ∧ c ≠ '#' ∧ c ≠ '\n' ∧ c ≠ '\r'

lemma skipSpaces_of_not_isSpace {c : Char} (h : isSpace c = false) (s : List Char) :
    skipSpaces (c :: s) = c :: s :=
  List.dropWhile_cons_of_neg (by simp [h])

lemma skipComment_of_ne {c : Char} (h : c ≠ '#') (s : List Char) :
    skipComment (c :: s) = c :: s := by
  unfold skipComment
  split
  · next heq => exact absurd (List.cons.inj heq).1 h
  · rfl

/-- Nothing is dropped before a visible character. -/
lemma skipLines_visible {c : Char} (h : Visible c) (steps : Nat) (s : List Char) :
    skipLines steps (c :: s) = c :: s := by
  obtain ⟨hspace, hcomment, hbreak, hreturn⟩ := h
  cases steps with
  | zero => rfl
  | succ steps =>
    unfold skipLines
    dsimp only
    rw [skipSpaces_of_not_isSpace hspace, skipComment_of_ne hcomment,
      afterBreak?_eq_none hbreak hreturn]

/-- A line break is dropped. -/
lemma skipLines_break (steps : Nat) (s : List Char) :
    skipLines (steps + 1) ('\n' :: s) = skipLines steps s := rfl

/-- The blanks at the beginning of a line are dropped. -/
lemma skipLines_indent {c : Char} (h : Visible c) (steps : Nat) (s : List Char) :
    skipLines (steps + 1) (' ' :: ' ' :: ' ' :: ' ' :: c :: s) = c :: s := by
  have hskip : skipSpaces (' ' :: ' ' :: ' ' :: ' ' :: c :: s) = skipSpaces (c :: s) := rfl
  have hline := skipLines_visible h (steps + 1) s
  unfold skipLines at hline ⊢
  rw [hskip]
  exact hline

/-- The characters of keys are visible. -/
lemma visible_of_isKeyChar {c : Char} (h : isKeyChar c = true) : Visible c := by
  refine ⟨?_, ?_, ?_, ?_⟩
  · rw [isSpace, Bool.or_eq_false_iff, decide_eq_false_iff_not, decide_eq_false_iff_not]
    constructor
    · rintro rfl
      exact absurd h (by decide)
    · rintro rfl
      exact absurd h (by decide)
  all_goals
    rintro rfl
    exact absurd h (by decide)

/-! ## Strings and lists -/

/-- A written string starts with a quote. -/
lemma quote_eq_cons (s : String) :
    ∃ q t, (quote s).toList = q :: t ∧ (q = '"' ∨ q = '\'') := by
  rw [quote, String.toList_ofList]
  cases Form.choose s.toList with
  | basic => exact ⟨_, _, rfl, Or.inl rfl⟩
  | literal => exact ⟨_, _, rfl, Or.inr rfl⟩
  | longBasic => exact ⟨_, _, rfl, Or.inl rfl⟩
  | longLiteral => exact ⟨_, _, rfl, Or.inr rfl⟩

lemma visible_quote {q : Char} (h : q = '"' ∨ q = '\'') : Visible q := by
  rcases h with rfl | rfl <;> exact ⟨rfl, by decide, by decide, by decide⟩

lemma noQuoteAhead_cons {c : Char} (h : c ≠ '"') (h' : c ≠ '\'') (s : List Char) :
    NoQuoteAhead (c :: s) := by
  intro d t heq
  rw [← (List.cons.inj heq).1]
  exact ⟨h, h'⟩

/-- A written string is read as a value. -/
lemma value?_quote (depth : Nat) (s : String) {r : List Char} (hr : NoQuoteAhead r) :
    value? depth ((quote s).toList ++ r) = some (.text s, r) := by
  have hread := string?_quote s hr
  obtain ⟨q, t, heq, hq⟩ := quote_eq_cons s
  rw [heq, List.cons_append] at hread ⊢
  have hvalue : value? depth (q :: (t ++ r)) =
      (string? (q :: (t ++ r))).map fun read => (.text (String.ofList read.1), read.2) := by
    rcases hq with rfl | rfl <;> cases depth <;> rfl
  rw [hvalue, hread]
  show some (Value.text (String.ofList s.toList), r) = _
  rw [String.ofList_toList]

/-- Reading the items of a list ends at the closing bracket. -/
lemma listItems?_close (value : List Char → Option (Value × List Char)) (steps : Nat)
    (r : List Char) : listItems? value (steps + 1) (']' :: r) = some ([], r) := by
  have hskip := skipLines_visible (c := ']') ⟨rfl, by decide, by decide, by decide⟩
    ((']' :: r).length + 1) r
  unfold listItems?
  rw [hskip]
  rfl

/-- Reading an item of a list, if something other than the closing bracket follows. -/
lemma listItems?_quote (depth steps : Nat) {s₀ r : List Char} {item : String}
    (hskip : skipLines (s₀.length + 1) s₀ = (quote item).toList ++ r) (hr : NoQuoteAhead r) :
    listItems? (value? depth) (steps + 1) s₀ =
      match skipLines (r.length + 1) r with
      | ',' :: rest => (listItems? (value? depth) steps rest).map fun (vs, rest) =>
          (.text item :: vs, rest)
      | ']' :: rest => some ([.text item], rest)
      | _ => none := by
  have hread := value?_quote depth item hr
  obtain ⟨q, t, heq, hq⟩ := quote_eq_cons item
  have hne : q ≠ ']' := by rcases hq with rfl | rfl <;> decide
  rw [heq, List.cons_append] at hskip hread
  conv_lhs => unfold listItems?
  rw [hskip]
  split
  · next heq => exact absurd (List.cons.inj heq).1 hne
  · show Option.bind (value? depth (q :: (t ++ r))) _ = _
    rw [hread]
    rfl

/-- A line of a list with several items. -/
def itemLine (item : String) : List Char :=
  ' ' :: ' ' :: ' ' :: ' ' :: ((quote item).toList ++ [',', '\n'])

/-- The lines of a list are read one after another. -/
lemma listItems?_itemLines (depth : Nat) {steps : Nat} {items : List String}
    (hsteps : items.length < steps) (r : List Char) :
    listItems? (value? depth) steps ('\n' :: (items.flatMap itemLine ++ ']' :: r)) =
      some (items.map .text, r) := by
  induction items generalizing steps with
  | nil =>
    obtain ⟨n, rfl⟩ := Nat.exists_eq_add_one_of_ne_zero (Nat.ne_of_gt hsteps)
    exact listItems?_close (value? depth) n r
  | cons item items ih =>
    obtain ⟨n, rfl⟩ := Nat.exists_eq_add_one_of_ne_zero (Nat.ne_of_gt (Nat.zero_lt_of_lt hsteps))
    have hrest := ih (Nat.lt_of_succ_lt_succ hsteps)
    set rest := '\n' :: (items.flatMap itemLine ++ ']' :: r) with hrestText
    have htext : '\n' :: ((item :: items).flatMap itemLine ++ ']' :: r) =
        '\n' :: ' ' :: ' ' :: ' ' :: ' ' :: ((quote item).toList ++ ',' :: rest) := by
      simp [itemLine, hrestText]
    have hskip : skipLines (('\n' :: ' ' :: ' ' :: ' ' :: ' ' ::
        ((quote item).toList ++ ',' :: rest)).length + 1)
        ('\n' :: ' ' :: ' ' :: ' ' :: ' ' :: ((quote item).toList ++ ',' :: rest)) =
        (quote item).toList ++ ',' :: rest := by
      obtain ⟨q, t, heq, hq⟩ := quote_eq_cons item
      rw [skipLines_break, heq, List.cons_append]
      exact skipLines_indent (visible_quote hq) _ _
    have hcomma : skipLines ((',' :: rest).length + 1) (',' :: rest) = ',' :: rest :=
      skipLines_visible ⟨rfl, by decide, by decide, by decide⟩ _ _
    have hahead : NoQuoteAhead (',' :: rest) := noQuoteAhead_cons (by decide) (by decide) rest
    rw [htext, listItems?_quote depth n hskip hahead, hcomma]
    show (listItems? (value? depth) n rest).map _ = _
    rw [hrest]
    rfl

/-- The letters of texts one after another. -/
lemma toList_join (texts : List String) :
    (Text.join "" texts).toList = texts.flatMap String.toList := by
  fun_induction Text.join "" texts with
  | case1 => rfl
  | case2 s => simp
  | case3 s rest _ ih => simp [ih]

/-- The letters of a list that has neither no item nor just one. -/
lemma toList_printList {items : List String} (hnone : items ≠ []) (hone : ∀ s, items ≠ [s]) :
    (printList items).toList = '[' :: '\n' :: (items.flatMap itemLine ++ [']']) := by
  unfold printList
  split
  · exact absurd rfl hnone
  · exact absurd rfl (hone _)
  · have hline : itemLine = fun s => ("    " ++ quote s ++ ",\n").toList := by
      funext s
      simp [itemLine]
    rw [String.toList_append, String.toList_append, toList_join, List.flatMap_map, hline]
    rfl

/-- A written list is read as a value. -/
lemma value?_printList (depth : Nat) (items : List String) (r : List Char) :
    value? (depth + 1) ((printList items).toList ++ r) = some (.list (items.map .text), r) := by
  have hvalue (s : List Char) : value? (depth + 1) ('[' :: s) =
      (listItems? (value? depth) (s.length + 1) s).map fun (vs, rest) => (.list vs, rest) := rfl
  by_cases hnone : items = []
  · rw [hnone]
    show value? (depth + 1) ('[' :: ']' :: r) = _
    rw [hvalue, listItems?_close]
    rfl
  by_cases hone : ∃ item, items = [item]
  · obtain ⟨item, rfl⟩ := hone
    have htext : (printList [item]).toList ++ r = '[' :: ((quote item).toList ++ ']' :: r) := by
      simp [printList]
    have hskip : skipLines (((quote item).toList ++ ']' :: r).length + 1)
        ((quote item).toList ++ ']' :: r) = (quote item).toList ++ ']' :: r := by
      obtain ⟨q, t, heq, hq⟩ := quote_eq_cons item
      rw [heq]
      exact skipLines_visible (visible_quote hq) _ _
    have hahead : NoQuoteAhead (']' :: r) := noQuoteAhead_cons (by decide) (by decide) r
    have hclose : skipLines ((']' :: r).length + 1) (']' :: r) = ']' :: r :=
      skipLines_visible ⟨rfl, by decide, by decide, by decide⟩ _ _
    rw [htext, hvalue, listItems?_quote depth _ hskip hahead, hclose]
    rfl
  · have htext : (printList items).toList ++ r =
        '[' :: ('\n' :: (items.flatMap itemLine ++ ']' :: r)) := by
      rw [toList_printList hnone fun s hs => hone ⟨s, hs⟩]
      simp
    have hsteps : items.length < ('\n' :: (items.flatMap itemLine ++ ']' :: r)).length + 1 := by
      have hle : items.length ≤ (items.flatMap itemLine).length :=
        length_le_flatMap fun _ _ => by simp [itemLine]
      simp only [List.length_cons, List.length_append]
      omega
    rw [htext, hvalue, listItems?_itemLines depth hsteps]
    rfl

/-! ## Lines -/

/-- A name that is written without quotes. -/
def IsPlainName (name : String) : Prop :=
  name ≠ "" ∧ ∀ c ∈ name.toList, isKeyChar c = true

/-- A plain name starts with a character of keys. -/
lemma IsPlainName.eq_cons {name : String} (h : IsPlainName name) :
    ∃ c t, name.toList = c :: t ∧ isKeyChar c = true := by
  cases heq : name.toList with
  | nil => exact absurd (String.toList_eq_nil_iff.1 heq) h.1
  | cons c t => exact ⟨c, t, rfl, h.2 c (heq ▸ List.mem_cons_self)⟩

/-- A plain name is read as the part of a key. -/
lemma keyPart?_name {name : String} (h : IsPlainName name) (r : List Char) :
    keyPart? (name.toList ++ ' ' :: r) = some (name, ' ' :: r) := by
  have hspan : (name.toList ++ ' ' :: r).span isKeyChar = (name.toList, ' ' :: r) := by
    rw [List.span_eq_takeWhile_dropWhile, List.takeWhile_append_of_pos h.2,
      List.dropWhile_append_of_pos h.2, List.takeWhile_cons_of_neg (by decide),
      List.dropWhile_cons_of_neg (by decide), List.append_nil]
  obtain ⟨c, t, heq, hc⟩ := h.eq_cons
  unfold keyPart?
  split
  · next hquote =>
    rw [heq] at hquote
    exact absurd ((List.cons.inj hquote).1 ▸ hc) (by decide)
  · next hquote =>
    rw [heq] at hquote
    exact absurd ((List.cons.inj hquote).1 ▸ hc) (by decide)
  · rw [hspan]
    show (if name.toList.isEmpty then none else some (String.ofList name.toList, ' ' :: r)) = _
    rw [if_neg (by simp [heq]), String.ofList_toList]

/-- A plain name before an equals sign is read as a key. -/
lemma key?_name {name : String} (h : IsPlainName name) (r : List Char) :
    key? (name.toList ++ ' ' :: '=' :: r) = some (([], name), '=' :: r) := by
  obtain ⟨c, t, heq, hc⟩ := h.eq_cons
  have hskip : skipSpaces (name.toList ++ ' ' :: '=' :: r) = name.toList ++ ' ' :: '=' :: r := by
    rw [heq]
    exact skipSpaces_of_not_isSpace (visible_of_isKeyChar hc).1 _
  have hparts (steps : Nat) : keyParts? (steps + 1) (name.toList ++ ' ' :: '=' :: r) =
      some ([name], '=' :: r) := by
    unfold keyParts?
    rw [hskip, keyPart?_name h]
    rfl
  unfold key?
  rw [hparts]
  rfl

/-- A plain name with a list is read as an assignment. -/
lemma assignment?_printList {name : String} (h : IsPlainName name) (items : List String)
    (r : List Char) :
    assignment? (value? (depthLimit - 1))
        (name.toList ++ ' ' :: '=' :: ' ' :: ((printList items).toList ++ r)) =
      some (([], name, .list (items.map .text)), r) := by
  obtain ⟨t, heq⟩ : ∃ t, (printList items).toList = '[' :: t := by
    unfold printList
    split
    · exact ⟨_, rfl⟩
    · exact ⟨_, by rw [String.toList_append, String.toList_append]; rfl⟩
    · exact ⟨_, by rw [String.toList_append, String.toList_append]; rfl⟩
  have hskip : skipSpaces (' ' :: ((printList items).toList ++ r)) =
      (printList items).toList ++ r := by
    rw [heq]
    rfl
  unfold assignment?
  rw [key?_name h]
  show (value? (78 + 1) (skipSpaces (' ' :: ((printList items).toList ++ r)))).map _ = _
  rw [hskip, value?_printList]
  rfl

/-- A line of a document. -/
def listLine (l : String × List String) : List Char :=
  l.1.toList ++ ' ' :: '=' :: ' ' :: ((printList l.2).toList ++ ['\n'])

/-- The field that a line of a document stands for. -/
def listField (l : String × List String) : String × Node :=
  (l.1, .leaf (.list (l.2.map .text)))

/-- A line of a document adds its field, if no other line before it has the name. -/
lemma lines?_listLine {l : String × List String} (h : IsPlainName l.1) {fields : Fields}
    (hnew : fields.lookup l.1 = none) (steps : Nat) (r : List Char) :
    lines? (steps + 1) ⟨fields, []⟩ (listLine l ++ r) =
      lines? steps ⟨fields ++ [listField l], []⟩ r := by
  have htext : listLine l ++ r =
      l.1.toList ++ ' ' :: '=' :: ' ' :: ((printList l.2).toList ++ '\n' :: r) := by
    simp [listLine]
  have hread := assignment?_printList h l.2 ('\n' :: r)
  have hassign : Draft.assign ⟨fields, []⟩ [] l.1 (.list (l.2.map .text)) =
      some ⟨fields ++ [listField l], []⟩ := by
    show (Fields.insertNew l.1 _ fields).map _ = _
    rw [Fields.insertNew, hnew]
    rfl
  obtain ⟨c, t, heq, hc⟩ := h.eq_cons
  rw [htext]
  rw [heq, List.cons_append] at hread ⊢
  set rest := t ++ ' ' :: '=' :: ' ' :: ((printList l.2).toList ++ '\n' :: r)
  have hexpr : expression? ⟨fields, []⟩ (c :: rest) =
      some (⟨fields ++ [listField l], []⟩, '\n' :: r) := by
    unfold expression?
    split
    · next hbracket => exact absurd ((List.cons.inj hbracket).1 ▸ hc) (by decide)
    · next hbracket => exact absurd ((List.cons.inj hbracket).1 ▸ hc) (by decide)
    · rw [hread]
      show (Draft.assign ⟨fields, []⟩ [] l.1 (.list (l.2.map .text))).map _ = _
      rw [hassign]
      rfl
  conv_lhs => unfold lines?
  rw [skipLines_visible (visible_of_isKeyChar hc)]
  show (expression? ⟨fields, []⟩ (c :: rest)).bind _ = _
  rw [hexpr]
  rfl

/-- The lines of a document add their fields one after another. -/
lemma lines?_listLines {lists : List (String × List String)} (hplain : ∀ l ∈ lists, IsPlainName l.1)
    (hnodup : (lists.map (·.1)).Nodup) {fields : Fields}
    (hnew : ∀ l ∈ lists, fields.lookup l.1 = none) {steps : Nat} (hsteps : lists.length < steps) :
    lines? steps ⟨fields, []⟩ (lists.flatMap listLine) =
      some ⟨fields ++ lists.map listField, []⟩ := by
  induction lists generalizing fields steps with
  | nil =>
    obtain ⟨n, rfl⟩ := Nat.exists_eq_add_one_of_ne_zero (Nat.ne_of_gt hsteps)
    rw [List.map_nil, List.append_nil]
    rfl
  | cons l lists ih =>
    obtain ⟨n, rfl⟩ := Nat.exists_eq_add_one_of_ne_zero (Nat.ne_of_gt (Nat.zero_lt_of_lt hsteps))
    rw [List.map_cons, List.nodup_cons] at hnodup
    have hnew' : ∀ l' ∈ lists, (fields ++ [listField l]).lookup l'.1 = none := by
      intro l' hl'
      have hne : l'.1 ≠ l.1 := fun heq => hnodup.1 (heq ▸ List.mem_map_of_mem hl')
      have hbeq : (l'.1 == l.1) = false := by simp [hne]
      rw [List.lookup_append, hnew l' (List.mem_cons_of_mem l hl')]
      simp [listField, List.lookup_cons, hbeq]
    rw [List.flatMap_cons, lines?_listLine (hplain l List.mem_cons_self) (hnew l List.mem_cons_self),
      ih (fun l' hl' => hplain l' (List.mem_cons_of_mem l hl')) hnodup.2 hnew'
        (Nat.lt_of_succ_lt_succ hsteps)]
    simp

/-! ## Documents -/

lemma fieldValues_listField (lists : List (String × List String)) :
    fieldValues (lists.map listField) = lists.map fun l => (l.1, .list (l.2.map .text)) := by
  induction lists with
  | nil => rfl
  | cons l lists ih =>
    rw [List.map_cons, List.map_cons, ← ih]
    rfl

lemma toList_printLists (lists : List (String × List String)) :
    (printLists lists).toList = lists.flatMap listLine := by
  have hline : listLine = fun l => (l.1 ++ " = " ++ printList l.2 ++ "\n").toList := by
    funext l
    simp [listLine]
  rw [printLists, toList_join, List.flatMap_map, hline]

/-- A document of lists under different plain names is read back. -/
theorem parse?_printLists {lists : List (String × List String)}
    (hplain : ∀ l ∈ lists, IsPlainName l.1) (hnodup : (lists.map (·.1)).Nodup) :
    parse? (printLists lists) = some (lists.map fun l => (l.1, .list (l.2.map .text))) := by
  have hmark : skipMark (lists.flatMap listLine) = lists.flatMap listLine := by
    cases lists with
    | nil => rfl
    | cons l lists =>
      obtain ⟨c, t, heq, hc⟩ := (hplain l List.mem_cons_self).eq_cons
      rw [List.flatMap_cons, listLine, heq]
      unfold skipMark
      split
      · next hmark => exact absurd ((List.cons.inj hmark).1 ▸ hc) (by decide)
      · rfl
  have hle : lists.length ≤ (lists.flatMap listLine).length :=
    length_le_flatMap fun _ _ => by simp [listLine]
  have hsteps : lists.length < (printLists lists).length + 1 := by
    rw [← String.length_toList, toList_printLists]
    omega
  unfold parse?
  rw [toList_printLists, hmark, lines?_listLines hplain hnodup (fun _ _ => rfl) hsteps]
  exact congrArg some (fieldValues_listField lists)

end CompilerFlags.Toml
