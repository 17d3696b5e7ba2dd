import CompilerFlags.Data.Json.Printer
import CompilerFlags.Proofs.Json.Number
import CompilerFlags.Proofs.Json.Quoted
import CompilerFlags.Proofs.Triple

/-!
# JSON is read as it was written

A value of JSON is read back from its compact text, with the fields of its tables in the order in which
they were written (`Json.parse?_print`), and this text is a single line (`Json.not_mem_print`).

What makes texts of items into the text of a list is that each of them can be read whatever follows, as
long as no number could go on there (`Json.Reads`), and that none of them starts with a blank or with
a closing bracket (`Json.Opens`).  Both and the absence of control characters are what
`Json.Represents` says of a text.  There is one lemma for each kind of value, and lists and tables share
the reading of items (`Json.itemsOrNone_join`).
-/

namespace CompilerFlags

namespace Value

/-- The values that JSON has: no dates, integers of 64 bits, and of the other numbers those that are
read back from their letters. -/
inductive IsJson : Value → Prop
  | null : IsJson .null
  | bool (b : Bool) : IsJson (.bool b)
  | int {n : Int} (hlow : -(Nat.pow 2 63 : Int) ≤ n) (hhigh : n < Json.wordBound) : IsJson (.int n)
  | real {written : String} (hread : Json.number? written.toList = some (.real written)) :
    IsJson (.real written)
  | text (s : String) : IsJson (.text s)
  | list {items : List Value} (hitems : ∀ v ∈ items, IsJson v) : IsJson (.list items)
  | table {fields : List (String × Value)} (hfields : ∀ field ∈ fields, IsJson field.2) :
    IsJson (.table fields)

/-- The fields of a table in the order of their names. -/
def byName (fields : List (String × Value)) : List (String × Value) :=
  fields.mergeSort fun a b => decide (a.1 ≤ b.1)

mutual

/-- The value with the fields of all its tables in the order of their names. -/
def sorted : Value → Value
  | .list items => .list (sortedItems items)
  | .table fields => .table (byName (sortedFields fields))
  | v => v
termination_by structural v => v

/-- The items with the fields of all their tables in the order of their names. -/
def sortedItems : List Value → List Value
  | [] => []
  | v :: vs => sorted v :: sortedItems vs
termination_by structural vs => vs

/-- The fields with the fields of all tables in their values in the order of their names. -/
def sortedFields : List (String × Value) → List (String × Value)
  | [] => []
  | field :: fields => sortedField field :: sortedFields fields
termination_by structural fields => fields

/-- The field with the fields of all tables in its value in the order of their names. -/
def sortedField : String × Value → String × Value
  | (name, v) => (name, sorted v)
termination_by structural field => field

end

lemma sorted_list (items : List Value) : (list items).sorted = list (items.map sorted) := by
  have hitems : sortedItems items = items.map sorted := by
    induction items with
    | nil => rfl
    | cons v vs ih => exact congrArg (sorted v :: ·) ih
  exact congrArg list hitems

/-- Fields are put in order by their names alone. -/
lemma map_byName {β : Type} (f : Value → β) (fields : List (String × Value)) :
    (byName fields).map (fun field => (field.1, f field.2)) =
      (fields.map fun field => (field.1, f field.2)).mergeSort fun a b => decide (a.1 ≤ b.1) :=
  List.map_mergeSort fun _ _ _ _ => rfl

lemma sorted_table (fields : List (String × Value)) :
    (table fields).sorted = table ((byName fields).map fun field => (field.1, field.2.sorted)) := by
  have hfields : sortedFields fields = fields.map fun field => (field.1, field.2.sorted) := by
    induction fields with
    | nil => rfl
    | cons field fields ih =>
      obtain ⟨name, v⟩ := field
      exact congrArg ((name, v.sorted) :: ·) ih
  rw [map_byName, ← hfields]
  rfl

end Value

namespace Json

lemma print_list (items : List Value) :
    print (.list items) = bracketed "[" "]" (items.map print) := by
  have hitems : printItems items = items.map print := by
    induction items with
    | nil => rfl
    | cons v vs ih => exact congrArg (print v :: ·) ih
  exact congrArg (bracketed "[" "]") hitems

lemma print_table (fields : List (String × Value)) :
    print (.table fields) = bracketed "\x7b" "\x7d"
      ((Value.byName fields).map fun field => quote field.1 ++ ":" ++ print field.2) := by
  have hfields : printFields fields = fields.map fun field => (field.1, print field.2) := by
    induction fields with
    | nil => rfl
    | cons field fields ih =>
      obtain ⟨name, v⟩ := field
      exact congrArg ((name, print v) :: ·) ih
  have hsorted : sortFields (printFields fields) =
      (Value.byName fields).map fun field => (field.1, print field.2) := by
    rw [Value.map_byName, hfields]
    rfl
  show bracketed "\x7b" "\x7d"
    ((sortFields (printFields fields)).map fun field => quote field.1 ++ ":" ++ field.2) = _
  rw [hsorted, List.map_map]
  rfl

/-! ## Texts that stand for a value -/

/-- A reader takes a text, whatever follows in which no number goes on. -/
def Reads {α : Type} (read : List Char → Option (α × List Char)) (s : List Char) (x : α) : Prop :=
  ∀ rest : List Char, (∀ c ∈ rest.head?, isNumberChar c = false) → read (s ++ rest) = some (x, rest)

/-- The blanks and the closing brackets, with which no value starts. -/
def nonOpening : List Char := [' ', '\n', '\t', '\r', ']', '\x7d']

/-- The first letter is neither a blank nor a closing bracket. -/
def Opens (s : List Char) : Prop :=
  ∃ c t, s = c :: t ∧ c ∉ nonOpening

/-- A text stands for a value. -/
structure Represents (s : String) (v : Value) : Prop where
  opens : Opens s.toList
  /-- Nothing in it ends a line. -/
  printable : IsPrintable s
  /-- As many levels as there are letters suffice to read what is inside. -/
  reads : ∀ depth, s.length ≤ depth → Reads (value? (depth + 1)) s.toList v

variable {s : String} {v : Value} {rest : List Char}

lemma Represents.reads_of_lt (hs : Represents s v) {depth : Nat} (hdepth : s.length < depth) :
    Reads (value? depth) s.toList v := by
  obtain ⟨depth, rfl⟩ := Nat.exists_eq_add_one_of_ne_zero (Nat.ne_zero_of_lt hdepth)
  exact hs.reads depth (Nat.le_of_lt_succ hdepth)

lemma skipBlanks_append {s : List Char} (hs : Opens s) (t : List Char) :
    skipBlanks (s ++ t) = s ++ t := by
  obtain ⟨c, u, rfl, hc⟩ := hs
  simp only [nonOpening, List.mem_cons, List.not_mem_nil, not_or, or_false] at hc
  obtain ⟨hspace, hline, htab, hreturn, -⟩ := hc
  apply List.dropWhile_cons_of_neg
  simp only [hspace, hline, htab, hreturn, decide_false, Bool.or_false, Bool.false_eq_true,
    not_false_iff]

/-! ## Values without parts -/

lemma represents_quote (s : String) : Represents (quote s) (.text s) where
  opens := by
    obtain ⟨t, htext, -⟩ := unquote_quote s []
    exact ⟨'"', t, (List.append_nil _).symm.trans htext, by decide⟩
  printable := isPrintable_quote s
  reads depth _ rest _ := by
    obtain ⟨t, htext, hread⟩ := unquote_quote s rest
    rw [htext]
    show (unquote (t.length + 1) t).map (fun p => (Value.text (String.ofList p.1), p.2)) = _
    rw [hread, Option.map_some, String.ofList_toList]

lemma represents_null : Represents "null" .null where
  opens := ⟨'n', _, rfl, by decide⟩
  printable := by decide
  reads _ _ _ _ := rfl

lemma represents_bool (b : Bool) : Represents (print (.bool b)) (.bool b) := by
  cases b with
  | true => exact ⟨⟨'t', _, rfl, by decide⟩, by decide, fun _ _ _ _ => rfl⟩
  | false => exact ⟨⟨'f', _, rfl, by decide⟩, by decide, fun _ _ _ _ => rfl⟩

/-- The characters of numbers are no blanks, no brackets and no control characters. -/
lemma not_mem_and_le_toNat_of_isNumberChar {c : Char} (h : isNumberChar c = true) :
    c ∉ nonOpening ∧ 0x20 ≤ c.toNat := by
  constructor
  · intro hmem
    have hother : (nonOpening.all (!isNumberChar ·)) = true := by decide
    have hc := List.all_eq_true.1 hother c hmem
    rw [h] at hc
    cases hc
  · by_contra hlow
    have hcontrol : ∀ n : Fin 0x20, isNumberChar (Char.ofNat n.val) = false := by decide
    have hc := hcontrol ⟨c.toNat, Nat.lt_of_not_le hlow⟩
    rw [Char.ofNat_toNat, h] at hc
    cases hc

lemma span_isNumberChar {s : List Char} (hs : ∀ c ∈ s, isNumberChar c = true)
    (hrest : ∀ c ∈ rest.head?, isNumberChar c = false) :
    (s ++ rest).span isNumberChar = (s, rest) := by
  have hstop : rest.takeWhile isNumberChar = [] ∧ rest.dropWhile isNumberChar = rest := by
    cases rest with
    | nil => exact ⟨rfl, rfl⟩
    | cons c t =>
      have hc : ¬ isNumberChar c = true := Bool.not_eq_true _ ▸ hrest c rfl
      exact ⟨List.takeWhile_cons_of_neg hc, List.dropWhile_cons_of_neg hc⟩
  rw [List.span_eq_takeWhile_dropWhile, List.takeWhile_append_of_pos hs,
    List.dropWhile_append_of_pos hs, hstop.1, hstop.2, List.append_nil]

lemma represents_number (h : number? s.toList = some v) : Represents s v := by
  obtain ⟨hne, hs⟩ := isNumberChar_of_number? h
  obtain ⟨c, t, hct⟩ := List.exists_cons_of_ne_nil hne
  have hc : isNumberChar c = true := hs c (hct ▸ List.mem_cons_self)
  have hopens : Opens s.toList := ⟨c, t, hct, (not_mem_and_le_toNat_of_isNumberChar hc).1⟩
  have hprintable : IsPrintable s :=
    fun d hd => (not_mem_and_le_toNat_of_isNumberChar (hs d hd)).2
  refine ⟨hopens, hprintable, fun depth _ rest hrest => ?_⟩
  -- no other kind of value starts with a character of numbers
  have hother (d : Char) (u : List Char) (hd : isNumberChar d = false) :
      s.toList ++ rest ≠ d :: u := by
    intro heq
    rw [hct] at heq
    rw [(List.cons.inj heq).1, hd] at hc
    cases hc
  unfold value?
  rw [skipBlanks_append hopens]
  split
  · next heq => exact absurd (List.append_eq_nil_iff.1 heq).1 hne
  · next heq => exact absurd heq (hother _ _ (by decide))
  · next heq => exact absurd heq (hother _ _ (by decide))
  · next heq => exact absurd heq (hother _ _ (by decide))
  · next heq => exact absurd heq (hother _ _ (by decide))
  · next heq => exact absurd heq (hother _ _ (by decide))
  · next heq => exact absurd heq (hother _ _ (by decide))
  · next heq =>
    rw [← heq, span_isNumberChar hs hrest]
    show (number? s.toList).map _ = _
    rw [h]
    rfl

/-! ## Lists and tables -/

section

variable {α β : Type} {item : List Char → Option (α × List Char)} {closing : Char}
  {xs : List β} {text : β → String} {value : β → α}

/-- A closing bracket is no comma, no part of a number and no blank. -/
lemma closing_cases (hclosing : closing ∈ [']', '\x7d']) :
    ',' ≠ closing ∧ isNumberChar closing = false ∧
      ∀ t, skipBlanks (closing :: t) = closing :: t := by
  rcases List.mem_pair.1 hclosing with rfl | rfl
  · exact ⟨by decide, by decide, fun _ => rfl⟩
  · exact ⟨by decide, by decide, fun _ => rfl⟩

/-- The items are read one after another, each up to the comma or the bracket that follows it. -/
lemma items_join (hclosing : closing ∈ [']', '\x7d']) (hne : xs ≠ [])
    (hitem : ∀ x ∈ xs, Reads item (text x).toList (value x)) {steps : Nat}
    (hsteps : xs.length ≤ steps) (rest : List Char) :
    items item closing steps ((Text.join "," (xs.map text)).toList ++ closing :: rest) =
      some (xs.map value, rest) := by
  obtain ⟨hcomma, hnumber, hskip⟩ := closing_cases hclosing
  induction xs generalizing steps with
  | nil => exact absurd rfl hne
  | cons x xs ih =>
    obtain ⟨steps, rfl⟩ := Nat.exists_eq_add_one_of_ne_zero (Nat.ne_zero_of_lt hsteps)
    obtain ⟨hx, hitem⟩ := List.forall_mem_cons.1 hitem
    cases xs with
    | nil =>
      unfold items
      rw [List.map_singleton, Text.join, hx _ (by rintro c ⟨⟩; exact hnumber),
        Option.bind_eq_bind, Option.bind_some]
      dsimp only
      rw [hskip]
      exact if_pos rfl
    | cons y ys =>
      have hjoin : (Text.join "," ((x :: y :: ys).map text)).toList ++ closing :: rest =
          (text x).toList ++
            ',' :: ((Text.join "," ((y :: ys).map text)).toList ++ closing :: rest) := by
        show (text x ++ "," ++ Text.join "," ((y :: ys).map text)).toList ++ closing :: rest = _
        simp only [String.toList_append, List.append_assoc]
        rfl
      unfold items
      rw [hjoin, hx _ (by rintro c ⟨⟩; decide)]
      show (if ',' = closing then _ else
        (items item closing steps ((Text.join "," ((y :: ys).map text)).toList ++
          closing :: rest)).map fun p => (value x :: p.1, p.2)) = _
      rw [if_neg hcomma, ih (List.cons_ne_nil y ys) hitem (Nat.le_of_succ_le_succ hsteps)]
      rfl

lemma length_le_length_join (ps : List String) : ps.length ≤ (Text.join "," ps).length + 1 := by
  induction ps with
  | nil => exact Nat.zero_le _
  | cons p ps ih =>
    cases ps with
    | nil => exact Nat.le_add_left 1 _
    | cons q qs =>
      have hjoin : (Text.join "," (p :: q :: qs)).length =
          p.length + 1 + (Text.join "," (q :: qs)).length := by
        show (p ++ "," ++ Text.join "," (q :: qs)).length = _
        rw [String.length_append, String.length_append]
        rfl
      rw [hjoin, List.length_cons]
      omega

lemma opens_append {s : List Char} (hs : Opens s) (t : List Char) : Opens (s ++ t) := by
  obtain ⟨c, u, rfl, hc⟩ := hs
  exact ⟨c, u ++ t, rfl, hc⟩

/-- What stands between two brackets is read as the items. -/
lemma itemsOrNone_join (hclosing : closing ∈ [']', '\x7d'])
    (hopens : ∀ x ∈ xs, Opens (text x).toList)
    (hitem : ∀ x ∈ xs, Reads item (text x).toList (value x)) (rest : List Char) :
    itemsOrNone item closing ((Text.join "," (xs.map text)).toList ++ closing :: rest) =
      some (xs.map value, rest) := by
  obtain ⟨-, -, hskip⟩ := closing_cases hclosing
  unfold itemsOrNone
  cases xs with
  | nil =>
    show _ = some ([], rest)
    rw [List.map_nil, Text.join, String.toList_empty, List.nil_append, hskip]
    exact if_pos rfl
  | cons x xs =>
    have hfirst : Opens (Text.join "," ((x :: xs).map text)).toList := by
      obtain ⟨t, hjoin⟩ :=
        Text.exists_join_append "," (List.cons_ne_nil (text x) []) (xs.map text)
      rw [List.map_cons, ← List.singleton_append, hjoin, String.toList_append]
      exact opens_append (hopens x List.mem_cons_self) _
    rw [skipBlanks_append hfirst]
    obtain ⟨c, t, hjoin, hc⟩ := hfirst
    have hclosed : c ≠ closing := by
      rintro rfl
      exact hc (List.mem_append_right [' ', '\n', '\t', '\r'] hclosing)
    have hsteps : (x :: xs).length ≤ (t ++ closing :: rest).length + 1 := by
      have hlength := length_le_length_join ((x :: xs).map text)
      rw [← String.length_toList, hjoin] at hlength
      simp only [List.length_map, List.length_append, List.length_cons] at hlength ⊢
      omega
    have hread := items_join hclosing (List.cons_ne_nil x xs) hitem hsteps rest
    rw [hjoin] at hread ⊢
    show (if c = closing then _ else
      items item closing ((t ++ closing :: rest).length + 1) (c :: t ++ closing :: rest)) = _
    rw [if_neg hclosed, hread]

lemma length_le_length_join_of_mem {ps : List String} (h : s ∈ ps) :
    s.length ≤ (Text.join "," ps).length := by
  obtain ⟨before, after, rfl⟩ := List.append_of_mem h
  obtain ⟨front, hfront⟩ := Text.exists_join_concat "," before s
  obtain ⟨rest, hrest⟩ :=
    Text.exists_join_append "," (List.append_ne_nil_of_right_ne_nil before (List.cons_ne_nil s [])) after
  rw [← List.append_cons] at hrest
  rw [hrest, hfront, String.length_append, String.length_append]
  omega

lemma isPrintable_join {ps : List String} (hps : ∀ p ∈ ps, IsPrintable p) :
    IsPrintable (Text.join "," ps) := by
  induction ps with
  | nil => decide
  | cons p ps ih =>
    obtain ⟨hp, hps⟩ := List.forall_mem_cons.1 hps
    cases ps with
    | nil => exact hp
    | cons q qs =>
      have hcomma : IsPrintable "," := by decide
      exact (hp.append hcomma).append (ih hps)

/-- Items between brackets stand for the value that is made of the values of the items, if the first
bracket makes the reader read such items. -/
lemma represents_bracketed {opening : Char} {item : Nat → List Char → Option (α × List Char)}
    {make : List α → Value} {before after : String} (hbefore : before.toList = [opening])
    (hafter : after.toList = [closing]) (hopening : opening ∈ ['[', '\x7b'])
    (hclosing : closing ∈ [']', '\x7d'])
    (hread : ∀ depth t, value? (depth + 1) (opening :: t) =
      (itemsOrNone (item depth) closing t).map fun p => (make p.1, p.2))
    (hopens : ∀ x ∈ xs, Opens (text x).toList) (hprintable : ∀ x ∈ xs, IsPrintable (text x))
    (hitem : ∀ depth, ∀ x ∈ xs, (text x).length < depth →
      Reads (item depth) (text x).toList (value x)) :
    Represents (bracketed before after (xs.map text)) (make (xs.map value)) := by
  have htext : (bracketed before after (xs.map text)).toList =
      opening :: ((Text.join "," (xs.map text)).toList ++ [closing]) := by
    unfold bracketed
    rw [String.toList_append, String.toList_append, hbefore, hafter]
    rfl
  have hopening' : opening ∉ nonOpening ∧ 0x20 ≤ opening.toNat := by
    rcases List.mem_pair.1 hopening with rfl | rfl <;> decide
  have hbefore' : IsPrintable before := by
    unfold IsPrintable
    rw [hbefore]
    exact List.forall_mem_singleton.2 hopening'.2
  have hafter' : IsPrintable after := by
    unfold IsPrintable
    rw [hafter]
    refine List.forall_mem_singleton.2 ?_
    rcases List.mem_pair.1 hclosing with rfl | rfl <;> decide
  refine ⟨⟨opening, _, htext, hopening'.1⟩, ?_, fun depth hdepth rest _ => ?_⟩
  · exact (hbefore'.append (isPrintable_join (List.forall_mem_map.2 hprintable))).append hafter'
  · rw [← String.length_toList, htext, List.length_cons, List.length_append,
      String.length_toList] at hdepth
    have hitem' : ∀ x ∈ xs, Reads (item depth) (text x).toList (value x) := by
      intro x hx
      have hlength := length_le_length_join_of_mem (List.mem_map_of_mem (f := text) hx)
      exact hitem depth x hx (by omega)
    rw [htext, List.cons_append, List.append_assoc, hread]
    show (itemsOrNone (item depth) closing (_ ++ closing :: rest)).map _ = _
    rw [itemsOrNone_join hclosing hopens hitem']
    rfl

end

lemma represents_list {items : List Value} (hitems : ∀ v ∈ items, Represents (print v) v.sorted) :
    Represents (print (.list items)) (Value.sorted (.list items)) := by
  have hread (depth : Nat) (t : List Char) : value? (depth + 1) ('[' :: t) =
      (itemsOrNone (value? depth) ']' t).map fun p => (Value.list p.1, p.2) := rfl
  rw [print_list, Value.sorted_list]
  exact represents_bracketed rfl rfl (by decide) (by decide) hread
    (fun v hv => (hitems v hv).opens) (fun v hv => (hitems v hv).printable)
    fun _ v hv => (hitems v hv).reads_of_lt

/-- A field is read as its name and its value. -/
lemma reads_field {name : String} (hs : Represents s v) {depth : Nat} (hdepth : s.length < depth) :
    Reads (field? (value? depth)) (quote name ++ ":" ++ s).toList (name, v) := by
  intro rest hrest
  obtain ⟨t, htext, hname⟩ := unquote_quote name (':' :: (s.toList ++ rest))
  have hfield : (quote name ++ ":" ++ s).toList ++ rest = '"' :: t := by
    rw [← htext]
    simp only [String.toList_append, List.append_assoc]
    rfl
  have hread : text? ('"' :: t) = some (name, ':' :: (s.toList ++ rest)) := by
    show (unquote (t.length + 1) t).map (fun p => (String.ofList p.1, p.2)) = _
    rw [hname, Option.map_some, String.ofList_toList]
  unfold field?
  rw [hfield, hread]
  show (value? depth (s.toList ++ rest)).map (fun p => ((name, p.1), p.2)) = _
  rw [hs.reads_of_lt hdepth rest hrest]
  rfl

lemma represents_table {fields : List (String × Value)}
    (hfields : ∀ field ∈ fields, Represents (print field.2) field.2.sorted) :
    Represents (print (.table fields)) (Value.sorted (.table fields)) := by
  have hsorted : ∀ field ∈ Value.byName fields, Represents (print field.2) field.2.sorted :=
    fun field hmem => hfields field (List.mem_mergeSort.1 hmem)
  have hread (depth : Nat) (t : List Char) : value? (depth + 1) ('\x7b' :: t) =
      (itemsOrNone (field? (value? depth)) '\x7d' t).map fun p => (Value.table p.1, p.2) := rfl
  rw [print_table, Value.sorted_table]
  refine represents_bracketed rfl rfl (by decide) (by decide) hread ?_ ?_ ?_
  · intro field _
    rw [String.append_assoc, String.toList_append]
    exact opens_append (represents_quote field.1).opens _
  · intro field hmem
    have hcolon : IsPrintable ":" := by decide
    exact ((isPrintable_quote field.1).append hcolon).append (hsorted field hmem).printable
  · intro depth field hmem hdepth
    apply reads_field (hsorted field hmem)
    rw [String.length_append] at hdepth
    omega

/-! ## Documents -/

/-- The compact text of a value stands for the value with sorted tables. -/
lemma represents_print (hv : v.IsJson) : Represents (print v) v.sorted := by
  induction hv with
  | null => exact represents_null
  | bool b => exact represents_bool b
  | int hlow hhigh => exact represents_number (number?_toString hlow hhigh)
  | real hread => exact represents_number hread
  | text s => exact represents_quote s
  | list hitems ih => exact represents_list ih
  | table hfields ih => exact represents_table ih

lemma Represents.parse? (hs : Represents s v) : parse? s = some v := by
  have hread : value? (s.length + 1) s.toList = some (v, []) := by
    have hall := hs.reads s.length (Nat.le_refl _) [] (by rintro c ⟨⟩)
    rwa [List.append_nil] at hall
  unfold Json.parse?
  rw [hread]
  rfl

/-- A value is read back from its compact text, with sorted tables. -/
theorem parse?_print (hv : v.IsJson) : parse? (print v) = some v.sorted :=
  (represents_print hv).parse?

/-- The compact text of a value is a single line. -/
theorem not_mem_print (hv : v.IsJson) : '\n' ∉ (print v).toList := by
  intro hline
  have hcontrol : 0x20 ≤ '\n'.toNat := (represents_print hv).printable _ hline
  revert hcontrol
  decide

end Json

end CompilerFlags
