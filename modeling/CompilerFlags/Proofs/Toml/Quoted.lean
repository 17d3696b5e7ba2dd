import CompilerFlags.Data.Toml.Quoted
import Mathlib.Data.List.Basic

/-!
# Strings in TOML are read as they were written

`string?_quote`: whatever its characters, a string in the form chosen for it is read back, and what
follows is left for the next reader.

A written string is taken as a list of `Piece`s, each the written form of one character.  In the
forms between single quotes one step of the reader takes one piece.  Between triple quotes a quote of
the string may stand for itself, and the reader has to tell it from a closing one; there the pieces
must be `Tame`: never more than two quotes that stand for themselves in a row.
-/

namespace CompilerFlags.Toml

/-- A character together with the letters that it is written in. -/
abbrev Piece := Char × List Char

/-- The letters of written pieces. -/
def written (ps : List Piece) : List Char := ps.flatMap (·.2)

/-- The characters of written pieces. -/
def spelled (ps : List Piece) : List Char := ps.map (·.1)

@[simp]
theorem written_cons (p : Piece) (ps : List Piece) : written (p :: ps) = p.2 ++ written ps := rfl

@[simp]
theorem spelled_cons (p : Piece) (ps : List Piece) : spelled (p :: ps) = p.1 :: spelled ps := rfl

/-- A text goes on with something that is no quote. -/
def NoQuoteAhead (r : List Char) : Prop :=
  ∀ c t, r = c :: t → c ≠ '"' ∧ c ≠ '\''

/-! ## Escapes -/

/-- The two hexadecimal digits of a small number stand for it. -/
lemma hexNumber?_capitalHexDigit : ∀ n : Fin 128,
    hexNumber? ['0', '0', capitalHexDigit (n.val / 16), capitalHexDigit (n.val % 16)] =
      some n.val := by
  decide

/-- Control characters are small. -/
lemma toNat_lt_of_isControl {c : Char} (h : isControl c = true) : c.toNat < 128 := by
  simp only [isControl, Bool.or_eq_true, Bool.and_eq_true, decide_eq_true_eq] at h
  omega

/-- The letters of an escape: a backslash and something that stands for the character and starts
with neither a blank nor a line break. -/
lemma escape?_eq_some {c : Char} {w : List Char} (h : escape? c = some w) :
    ∃ x w', w = '\\' :: x :: w' ∧ (∀ t, unescape? (x :: w' ++ t) = some (c, t)) ∧
      isSpace x = false ∧ x ≠ '\n' ∧ x ≠ '\r' := by
  unfold escape? at h
  split at h
  · next letter hlookup =>
    obtain rfl := Option.some.inj h
    have hmem : (c, letter) ∈ writtenEscapes := List.lookup_eq_some_iff.1 hlookup |> fun
      ⟨l₁, l₂, heq, _⟩ => heq ▸ by simp
    simp only [writtenEscapes, List.mem_cons, Prod.mk.injEq, List.not_mem_nil, or_false] at hmem
    rcases hmem with ⟨rfl, rfl⟩ | ⟨rfl, rfl⟩ | ⟨rfl, rfl⟩ | ⟨rfl, rfl⟩ | ⟨rfl, rfl⟩ <;>
      exact ⟨_, [], rfl, fun t => rfl, rfl, by decide, by decide⟩
  · split at h
    · next hcontrol =>
      obtain rfl := Option.some.inj h
      refine ⟨'u', _, rfl, fun t => ?_, rfl, by decide, by decide⟩
      have hlt := toNat_lt_of_isControl hcontrol
      have hnumber := hexNumber?_capitalHexDigit ⟨c.toNat, hlt⟩
      have hchar : charOfNumber? c.toNat = some c := by
        rw [charOfNumber?, if_pos (Or.inl (by omega)), Char.ofNat_toNat]
      simp only [List.cons_append, List.nil_append, unescape?, numbered?, List.length_cons,
        List.take_succ_cons, List.take_zero, List.drop_succ_cons, List.drop_zero]
      rw [if_neg (by omega), hnumber]
      show (charOfNumber? c.toNat).bind _ = _
      rw [hchar]
      rfl
    · cases h

/-- Characters that are neither controls nor line breaks may stand for themselves. -/
lemma isPlain_of_not_isControl {c : Char} (hcontrol : isControl c = false) (hbreak : c ≠ '\n') :
    isPlain c = true := by
  simp only [isControl, Bool.or_eq_false_iff, Bool.and_eq_false_iff, decide_eq_false_iff_not,
    Nat.not_lt, not_not] at hcontrol
  simp only [isPlain, Bool.and_eq_true, Bool.or_eq_true, decide_eq_true_eq]
  obtain ⟨(hlow | rfl) | rfl, hhigh⟩ := hcontrol
  · exact ⟨Or.inl hlow, hhigh⟩
  · exact ⟨Or.inr rfl, by decide⟩
  · exact absurd rfl hbreak

/-- A character without an escape is no backslash and may stand for itself, unless it is a line
break. -/
lemma isPlain_of_escape?_eq_none {c : Char} (h : escape? c = none) :
    c ≠ '\\' ∧ c ≠ '\r' ∧ (c ≠ '\n' → isPlain c = true) := by
  have hcontrol : isControl c = false := by
    by_contra hc
    rw [Bool.not_eq_false] at hc
    unfold escape? at h
    split at h
    · cases h
    · rw [if_pos hc] at h
      cases h
  refine ⟨?_, ?_, fun hne => ?_⟩
  · rintro rfl
    cases h
  · rintro rfl
    cases h
  · exact isPlain_of_not_isControl hcontrol hne

/-! ## Single quotes -/

section

variable {step? : List Char → Option (Step × List Char)} {q : Char}

/-- A reader that takes the pieces one by one and stops at the quote reads them all. -/
lemma readSteps_written {ps : List Piece} {r : List Char}
    (hread : ∀ p ∈ ps, ∀ t, step? (p.2 ++ t) = some (.char p.1, t))
    (hstop : step? (q :: r) = some (.stop 0, r)) {steps : Nat} (hsteps : ps.length < steps) :
    readSteps step? q steps (written ps ++ q :: r) = some (spelled ps, r) := by
  induction ps generalizing steps with
  | nil =>
    obtain ⟨n, rfl⟩ := Nat.exists_eq_add_one_of_ne_zero (Nat.ne_of_gt hsteps)
    show readSteps step? q (n + 1) (q :: r) = _
    unfold readSteps
    rw [hstop]
    rfl
  | cons p ps ih =>
    obtain ⟨n, rfl⟩ := Nat.exists_eq_add_one_of_ne_zero (Nat.ne_of_gt (Nat.zero_lt_of_lt hsteps))
    have hrest := ih (fun p' hp' => hread p' (List.mem_cons_of_mem p hp'))
      (Nat.lt_of_succ_lt_succ hsteps)
    rw [written_cons, List.append_assoc]
    unfold readSteps
    rw [hread p List.mem_cons_self]
    show (readSteps step? q n (written ps ++ q :: r)).map _ = _
    rw [hrest]
    rfl

end

/-- The piece of a character between single double quotes. -/
def basicPiece (c : Char) : Piece :=
  (c, if c = '"' then ['\\', '"'] else if c = '\n' then ['\\', 'n'] else (escape? c).getD [c])

lemma written_basicPiece (cs : List Char) : written (cs.map basicPiece) = encodeBasic cs := by
  rw [written, List.flatMap_map]
  rfl

lemma spelled_basicPiece (cs : List Char) : spelled (cs.map basicPiece) = cs := by
  rw [spelled, List.map_map]
  exact List.map_id _

/-- A backslash announces an escape. -/
lemma stepBasic?_backslash {s t : List Char} {c : Char} (h : unescape? s = some (c, t)) :
    stepBasic? ('\\' :: s) = some (.char c, t) := by
  show (unescape? s).map _ = _
  rw [h]
  rfl

lemma stepBasic?_basicPiece (c : Char) (t : List Char) :
    stepBasic? ((basicPiece c).2 ++ t) = some (.char c, t) := by
  unfold basicPiece
  dsimp only
  split
  · next h => exact stepBasic?_backslash (by rw [h]; rfl)
  · next hquote =>
    split
    · next h => exact stepBasic?_backslash (by rw [h]; rfl)
    · next hbreak =>
      cases hescape : escape? c with
      | some w =>
        obtain ⟨x, w', rfl, hread, _⟩ := escape?_eq_some hescape
        exact stepBasic?_backslash (hread t)
      | none =>
        obtain ⟨hbackslash, _, hplain⟩ := isPlain_of_escape?_eq_none hescape
        show stepBasic? (c :: t) = _
        unfold stepBasic?
        split
        · next heq => exact absurd (List.cons.inj heq).1 hquote
        · next heq => exact absurd (List.cons.inj heq).1 hbackslash
        · next heq =>
          obtain ⟨rfl, rfl⟩ := List.cons.inj heq
          rw [if_pos (hplain hbreak)]
        · next heq => cases heq

/-- No piece starts with the double quote that closes the string. -/
lemma basicPiece_ne_quote (c : Char) : ∃ x w, (basicPiece c).2 = x :: w ∧ x ≠ '"' := by
  unfold basicPiece
  dsimp only
  split
  · exact ⟨_, _, rfl, by decide⟩
  · next hquote =>
    split
    · exact ⟨_, _, rfl, by decide⟩
    · cases hescape : escape? c with
      | some w =>
        obtain ⟨x, w', rfl, _⟩ := escape?_eq_some hescape
        exact ⟨_, _, rfl, by decide⟩
      | none => exact ⟨c, [], rfl, hquote⟩

/-- The piece of a character that stands for itself. -/
def plainPiece (c : Char) : Piece := (c, [c])

lemma written_plainPiece (cs : List Char) : written (cs.map plainPiece) = cs := by
  rw [written, List.flatMap_map]
  exact List.flatMap_singleton' cs

lemma spelled_plainPiece (cs : List Char) : spelled (cs.map plainPiece) = cs := by
  rw [spelled, List.map_map]
  exact List.map_id _

lemma stepLiteral?_plainPiece {c : Char} (hquote : c ≠ '\'') (hplain : isPlain c = true)
    (t : List Char) : stepLiteral? ((plainPiece c).2 ++ t) = some (.char c, t) := by
  show stepLiteral? (c :: t) = _
  unfold stepLiteral?
  split
  · next heq => exact absurd (List.cons.inj heq).1 hquote
  · next heq =>
    obtain ⟨rfl, rfl⟩ := List.cons.inj heq
    rw [if_pos hplain]
  · next heq => cases heq

/-! ## Triple quotes -/

section

variable {q : Char}

/-- Two quotes at most, and then three more: the string ends with the first ones. -/
lemma stopLong?_replicate {j : Nat} (hj : j ≤ 2) {r : List Char} (hr : ∀ t, r ≠ q :: t) :
    stopLong? q (List.replicate j q ++ q :: q :: q :: r) = some (.stop j, r) := by
  have hcases : j = 0 ∨ j = 1 ∨ j = 2 := by omega
  rcases hcases with rfl | rfl | rfl
  · cases r with
    | nil => simp [stopLong?]
    | cons d r =>
      have hd : d ≠ q := fun h => hr r (h ▸ rfl)
      cases r <;> simp [stopLong?, hd]
  · cases r with
    | nil => simp [stopLong?, List.replicate]
    | cons d r =>
      have hd : d ≠ q := fun h => hr r (h ▸ rfl)
      simp [stopLong?, List.replicate, hd]
  · simp [stopLong?, List.replicate]

/-- Two quotes at most, and then something else: the string does not end here. -/
lemma stopLong?_eq_none {i : Nat} (hi : i ≤ 2) {x : Char} (hx : x ≠ q) (t : List Char) :
    stopLong? q (List.replicate i q ++ x :: t) = none := by
  have hcases : i = 0 ∨ i = 1 ∨ i = 2 := by omega
  rcases hcases with rfl | rfl | rfl
  · match t with
    | [] => rfl
    | [_] => rfl
    | _ :: _ :: _ => simp [stopLong?, hx]
  · match t with
    | [] => rfl
    | _ :: _ => simp [stopLong?, List.replicate, hx]
  · simp [stopLong?, List.replicate, hx]

/-- The number of quotes at the beginning that stand for themselves. -/
def leadingQuotes (q : Char) : List Piece → Nat
  | [] => 0
  | p :: ps => if p = plainPiece q then leadingQuotes q ps + 1 else 0

/-- Pieces that can be read between triple quotes: at most two quotes in a row stand for themselves,
and each other piece starts with something that is no quote and is read in one step. -/
inductive Tame (step? : List Char → Option (Step × List Char)) (q : Char) : List Piece → Prop
  | nil : Tame step? q []
  | quote {ps : List Piece} : leadingQuotes q ps + 1 ≤ 2 → Tame step? q ps →
      Tame step? q (plainPiece q :: ps)
  | other {p : Piece} {ps : List Piece} : (∃ x w, p.2 = x :: w ∧ x ≠ q) →
      (∀ t, step? (p.2 ++ t) = some (.char p.1, t)) → Tame step? q ps → Tame step? q (p :: ps)

variable {step? : List Char → Option (Step × List Char)}

/-- Tame pieces are quotes only, at most two, or have at most two quotes before something else. -/
lemma Tame.written_eq {ps : List Piece} (h : Tame step? q ps) :
    (∃ j, j = leadingQuotes q ps ∧ j ≤ 2 ∧ written ps = List.replicate j q ∧
      spelled ps = List.replicate j q) ∨
    ∃ i x t, i = leadingQuotes q ps ∧ i ≤ 2 ∧ x ≠ q ∧ written ps = List.replicate i q ++ x :: t := by
  induction h with
  | nil => exact Or.inl ⟨0, rfl, by omega, rfl, rfl⟩
  | quote hle _ ih =>
    rcases ih with ⟨j, rfl, _, hwritten, hspelled⟩ | ⟨i, x, t, rfl, _, hx, hwritten⟩
    · refine Or.inl ⟨_, by simp [leadingQuotes], hle, ?_, ?_⟩
      · rw [written_cons, hwritten]; rfl
      · rw [spelled_cons, hspelled]; rfl
    · refine Or.inr ⟨_, x, t, by simp [leadingQuotes], hle, hx, ?_⟩
      rw [written_cons, hwritten]; rfl
  | @other p ps hhead _ _ _ =>
    obtain ⟨x, w, hp, hx⟩ := hhead
    have hne : p ≠ plainPiece q := by
      rintro rfl
      exact hx (List.cons.inj hp).1.symm
    refine Or.inr ⟨0, x, w ++ written ps, by simp [leadingQuotes, hne], by omega, hx, ?_⟩
    rw [written_cons, hp]; rfl

/-- Tame pieces between triple quotes are read up to the closing quotes. -/
lemma readSteps_tame {ps : List Piece} (h : Tame step? q ps) {r : List Char}
    (hstop : ∀ j ≤ 2, step? (List.replicate j q ++ q :: q :: q :: r) = some (.stop j, r))
    (hquote : ∀ i ≤ 1, ∀ x t, x ≠ q → step? (q :: (List.replicate i q ++ x :: t)) =
      some (.char q, List.replicate i q ++ x :: t))
    {steps : Nat} (hsteps : ps.length < steps) :
    readSteps step? q steps (written ps ++ q :: q :: q :: r) = some (spelled ps, r) := by
  induction h generalizing steps with
  | nil =>
    obtain ⟨n, rfl⟩ := Nat.exists_eq_add_one_of_ne_zero (Nat.ne_of_gt hsteps)
    show readSteps step? q (n + 1) (q :: q :: q :: r) = _
    unfold readSteps
    rw [show step? (q :: q :: q :: r) = _ from hstop 0 (by omega)]
    rfl
  | @quote ps hle htame ih =>
    obtain ⟨n, rfl⟩ := Nat.exists_eq_add_one_of_ne_zero (Nat.ne_of_gt (Nat.zero_lt_of_lt hsteps))
    rcases htame.written_eq with ⟨j, rfl, _, hwritten, hspelled⟩ | ⟨i, x, t, rfl, _, hx, hwritten⟩
    · -- only quotes are left, so the reader sees the end of the string already
      have hall := hstop (leadingQuotes q ps + 1) hle
      rw [written_cons, spelled_cons, hwritten, hspelled]
      show readSteps step? q (n + 1) (List.replicate (leadingQuotes q ps + 1) q ++ _) = _
      unfold readSteps
      rw [hall]
      rfl
    · have hstep := hquote (leadingQuotes q ps) (by omega) x (t ++ q :: q :: q :: r) hx
      have hrest := ih (Nat.lt_of_succ_lt_succ hsteps)
      have htext : written (plainPiece q :: ps) ++ q :: q :: q :: r =
          q :: (written ps ++ q :: q :: q :: r) := rfl
      have htext' : written ps ++ q :: q :: q :: r =
          List.replicate (leadingQuotes q ps) q ++ x :: (t ++ q :: q :: q :: r) := by
        rw [hwritten, List.append_assoc, List.cons_append]
      rw [htext]
      unfold readSteps
      rw [htext', hstep, ← htext']
      show (readSteps step? q n (written ps ++ q :: q :: q :: r)).map _ = _
      rw [hrest]
      rfl
  | @other p ps _ hread _ ih =>
    obtain ⟨n, rfl⟩ := Nat.exists_eq_add_one_of_ne_zero (Nat.ne_of_gt (Nat.zero_lt_of_lt hsteps))
    rw [written_cons, List.append_assoc]
    unfold readSteps
    rw [hread]
    show (readSteps step? q n (written ps ++ q :: q :: q :: r)).map _ = _
    rw [ih (Nat.lt_of_succ_lt_succ hsteps)]
    rfl

variable {other : List Char → Option (Step × List Char)}

lemma stepLong?_stop {j : Nat} (hj : j ≤ 2) {r : List Char} (hr : ∀ t, r ≠ q :: t) :
    stepLong? q other (List.replicate j q ++ q :: q :: q :: r) = some (.stop j, r) := by
  rw [stepLong?, stopLong?_replicate hj hr]

/-- What is neither a break nor a carriage return does not start a line break. -/
lemma afterBreak?_eq_none {x : Char} (hbreak : x ≠ '\n') (hreturn : x ≠ '\r') (t : List Char) :
    afterBreak? (x :: t) = none := by
  unfold afterBreak?
  split
  · next heq => exact absurd (List.cons.inj heq).1 hbreak
  · next heq => exact absurd (List.cons.inj heq).1 hreturn
  · rfl

/-- A quote that stands for itself is read like any other character. -/
lemma stepLong?_quote (hbreak : q ≠ '\n') (hreturn : q ≠ '\r')
    (hother : ∀ t, other (q :: t) = some (.char q, t)) {i : Nat} (hi : i ≤ 1) {x : Char} (hx : x ≠ q)
    (t : List Char) :
    stepLong? q other (q :: (List.replicate i q ++ x :: t)) =
      some (.char q, List.replicate i q ++ x :: t) := by
  have hstop : stopLong? q (q :: (List.replicate i q ++ x :: t)) = none :=
    stopLong?_eq_none (i := i + 1) (by omega) hx t
  rw [stepLong?, hstop, afterBreak?_eq_none hbreak hreturn, hother]

/-- A line break stands for itself. -/
lemma stepLong?_break (hbreak : '\n' ≠ q) (t : List Char) :
    stepLong? q other ('\n' :: t) = some (.char '\n', t) := by
  have hstop : stopLong? q ('\n' :: t) = none := stopLong?_eq_none (i := 0) (by omega) hbreak t
  rw [stepLong?, hstop]
  rfl

/-- Everything else is left to the other reader. -/
lemma stepLong?_other {x : Char} (hx : x ≠ q) (hbreak : x ≠ '\n') (hreturn : x ≠ '\r')
    (t : List Char) : stepLong? q other (x :: t) = other (x :: t) := by
  have hstop : stopLong? q (x :: t) = none := stopLong?_eq_none (i := 0) (by omega) hx t
  rw [stepLong?, hstop, afterBreak?_eq_none hbreak hreturn]

end

/-- The pieces of a string between triple double quotes; `quotes` is the number of double quotes
written just before. -/
def longBasicPieces : Nat → List Char → List Piece
  | _, [] => []
  | quotes, c :: cs =>
    if c = '"' then
      if quotes = 2 then (c, ['\\', '"']) :: longBasicPieces 0 cs
      else plainPiece c :: longBasicPieces (quotes + 1) cs
    else (c, (escape? c).getD [c]) :: longBasicPieces 0 cs

lemma written_longBasicPieces (quotes : Nat) (cs : List Char) :
    written (longBasicPieces quotes cs) = encodeLongBasic quotes cs := by
  fun_induction longBasicPieces quotes cs with
  | case1 => rfl
  | case2 cs ih => simp [encodeLongBasic, ih]
  | case3 quotes cs hquotes ih => simp [encodeLongBasic, hquotes, plainPiece, ih]
  | case4 quotes c cs hc ih => simp [encodeLongBasic, hc, ih]

lemma spelled_longBasicPieces (quotes : Nat) (cs : List Char) :
    spelled (longBasicPieces quotes cs) = cs := by
  fun_induction longBasicPieces quotes cs with
  | case1 => rfl
  | case2 cs ih => rw [spelled_cons, ih]
  | case3 quotes cs _ ih => rw [spelled_cons, ih]; rfl
  | case4 quotes c cs _ ih => rw [spelled_cons, ih]

/-- A backslash that joins no lines announces an escape. -/
lemma stepLongBasic?_escape {c x : Char} {w t : List Char}
    (hread : unescape? (x :: w ++ t) = some (c, t)) (hspace : isSpace x = false) (hbreak : x ≠ '\n')
    (hreturn : x ≠ '\r') : stepLongBasic? ('\\' :: x :: w ++ t) = some (.char c, t) := by
  have hjoint : afterJoint? (x :: w ++ t) = none := by
    rw [afterJoint?, List.cons_append, List.dropWhile_cons_of_neg (by simp [hspace]),
      afterBreak?_eq_none hbreak hreturn]
    rfl
  show stepLongBasic? ('\\' :: (x :: w ++ t)) = _
  rw [stepLongBasic?, hjoint, hread]
  rfl

lemma stepLongBasic?_plain {c : Char} (hbackslash : c ≠ '\\') (hplain : isPlain c = true)
    (t : List Char) : stepLongBasic? (c :: t) = some (.char c, t) := by
  unfold stepLongBasic?
  split
  · next heq => exact absurd (List.cons.inj heq).1 hbackslash
  · next heq =>
    obtain ⟨rfl, rfl⟩ := List.cons.inj heq
    rw [if_pos hplain]
  · next heq => cases heq

/-- The reader for triple double quotes takes the piece of a character that is no quote. -/
lemma stepLong?_longBasic {c : Char} (hquote : c ≠ '"') (t : List Char) :
    stepLong? '"' stepLongBasic? ((escape? c).getD [c] ++ t) = some (.char c, t) := by
  cases hescape : escape? c with
  | some w =>
    obtain ⟨x, w', rfl, hread, hspace, hbreak, hreturn⟩ := escape?_eq_some hescape
    show stepLong? '"' stepLongBasic? ('\\' :: (x :: w' ++ t)) = _
    rw [stepLong?_other (by decide) (by decide) (by decide)]
    exact stepLongBasic?_escape (hread t) hspace hbreak hreturn
  | none =>
    obtain ⟨hbackslash, hreturn, hplain⟩ := isPlain_of_escape?_eq_none hescape
    show stepLong? '"' stepLongBasic? (c :: t) = _
    by_cases hbreak : c = '\n'
    · rw [hbreak]
      exact stepLong?_break (by decide) t
    · rw [stepLong?_other hquote hbreak hreturn]
      exact stepLongBasic?_plain hbackslash (hplain hbreak) t

/-- Every string is written in tame pieces between triple double quotes. -/
lemma tame_longBasicPieces {quotes : Nat} (hquotes : quotes ≤ 2) (cs : List Char) :
    quotes + leadingQuotes '"' (longBasicPieces quotes cs) ≤ 2 ∧
      Tame (stepLong? '"' stepLongBasic?) '"' (longBasicPieces quotes cs) := by
  fun_induction longBasicPieces quotes cs with
  | case1 => exact ⟨by simpa [leadingQuotes] using hquotes, .nil⟩
  | case2 cs ih =>
    refine ⟨by simp [leadingQuotes, plainPiece], .other ⟨'\\', ['"'], rfl, by decide⟩ (fun t => ?_)
      (ih (by omega)).2⟩
    show stepLong? '"' stepLongBasic? ('\\' :: '"' :: t) = _
    rw [stepLong?_other (by decide) (by decide) (by decide)]
    exact stepLongBasic?_escape (w := []) rfl rfl (by decide) (by decide)
  | case3 quotes cs hne ih =>
    obtain ⟨hle, htame⟩ := ih (by omega)
    exact ⟨by simp only [leadingQuotes, if_true]; omega, .quote (by omega) htame⟩
  | case4 quotes c cs hc ih =>
    have hne : (c, (escape? c).getD [c]) ≠ plainPiece '"' := by
      intro heq
      exact hc (Prod.mk.inj heq).1
    refine ⟨by simpa [leadingQuotes, hne] using hquotes, .other ?_ (stepLong?_longBasic hc)
      (ih (by omega)).2⟩
    cases hescape : escape? c with
    | some w =>
      obtain ⟨x, w', rfl, _⟩ := escape?_eq_some hescape
      exact ⟨'\\', x :: w', rfl, by decide⟩
    | none => exact ⟨c, [], rfl, hc⟩

/-- A string without controls and without three single quotes in a row is written in tame pieces
between triple single quotes. -/
lemma tame_plainPieces {quotes : Nat} {cs : List Char}
    (hcontrol : ∀ c ∈ cs, isControl c = false) (hrun : longestRun '\'' quotes cs ≤ 2) :
    quotes + leadingQuotes '\'' (cs.map plainPiece) ≤ 2 ∧
      Tame (stepLong? '\'' stepLongLiteral?) '\'' (cs.map plainPiece) := by
  induction cs generalizing quotes with
  | nil => exact ⟨by simpa [leadingQuotes, longestRun] using hrun, .nil⟩
  | cons c cs ih =>
    have hcontrol' := fun c' hc' => hcontrol c' (List.mem_cons_of_mem c hc')
    rw [longestRun] at hrun
    split at hrun
    · next hc =>
      obtain ⟨hle, htame⟩ := ih hcontrol' hrun
      rw [List.map_cons, hc]
      exact ⟨by simp only [leadingQuotes, if_true]; omega, .quote (by omega) htame⟩
    · next hc =>
      obtain ⟨_, htame⟩ := ih hcontrol' (Nat.le_trans (Nat.le_max_right _ _) hrun)
      have hne : plainPiece c ≠ plainPiece '\'' := fun heq => hc (Prod.mk.inj heq).1
      have hle : quotes ≤ 2 := Nat.le_trans (Nat.le_max_left _ _) hrun
      refine ⟨by simpa [leadingQuotes, hne] using hle, .other ⟨c, [], rfl, hc⟩ (fun t => ?_) htame⟩
      show stepLong? '\'' stepLongLiteral? (c :: t) = _
      by_cases hbreak : c = '\n'
      · rw [hbreak]
        exact stepLong?_break (by decide) t
      · have hplain := isPlain_of_not_isControl (hcontrol c List.mem_cons_self) hbreak
        have hreturn : c ≠ '\r' := by
          rintro rfl
          exact absurd (hcontrol '\r' List.mem_cons_self) (by decide)
        rw [stepLong?_other hc hbreak hreturn]
        simp [stepLongLiteral?, hplain, plainPiece]

/-! ## The four forms -/

/-- There are at least as many letters as there are things written, if each takes a letter. -/
lemma length_le_flatMap {α : Type} {f : α → List Char} {l : List α} (h : ∀ a ∈ l, f a ≠ []) :
    l.length ≤ (l.flatMap f).length := by
  induction l with
  | nil => exact Nat.zero_le _
  | cons a l ih =>
    have ha := List.length_pos_iff.2 (h a List.mem_cons_self)
    have hl := ih fun a' ha' => h a' (List.mem_cons_of_mem a ha')
    rw [List.flatMap_cons, List.length_append, List.length_cons]
    omega

lemma Tame.ne_nil {step? : List Char → Option (Step × List Char)} {q : Char} {ps : List Piece}
    (h : Tame step? q ps) : ∀ p ∈ ps, p.2 ≠ [] := by
  induction h with
  | nil => simp
  | quote _ _ ih => exact List.forall_mem_cons.2 ⟨by simp [plainPiece], ih⟩
  | other hhead _ _ ih =>
    obtain ⟨x, w, hp, _⟩ := hhead
    exact List.forall_mem_cons.2 ⟨by simp [hp], ih⟩

lemma NoQuoteAhead.ne_double {r : List Char} (h : NoQuoteAhead r) (t : List Char) : r ≠ '"' :: t :=
  fun heq => (h _ _ heq).1 rfl

lemma NoQuoteAhead.ne_single {r : List Char} (h : NoQuoteAhead r) (t : List Char) : r ≠ '\'' :: t :=
  fun heq => (h _ _ heq).2 rfl

/-- A double quote that no other two follow announces the first form. -/
lemma opening?_basic {s : List Char} (h : ∀ t, s ≠ '"' :: '"' :: t) :
    opening? ('"' :: s) = some (.basic, s) := by
  unfold opening?
  split
  · next heq => exact absurd (List.cons.inj heq).2 (h _)
  · next heq => rw [(List.cons.inj heq).2]
  · next heq => cases heq
  · next heq => cases heq
  · next hne _ _ => exact absurd rfl (hne _)

/-- A single quote that no other two follow announces the second form. -/
lemma opening?_literal {s : List Char} (h : ∀ t, s ≠ '\'' :: '\'' :: t) :
    opening? ('\'' :: s) = some (.literal, s) := by
  unfold opening?
  split
  · next heq => cases heq
  · next heq => cases heq
  · next heq => exact absurd (List.cons.inj heq).2 (h _)
  · next heq => rw [(List.cons.inj heq).2]
  · next hne => exact absurd rfl (hne _)

/-- The line break that starts a long form is dropped again. -/
lemma afterBreak?_openingBreak {cs body : List Char}
    (h : '\n' ∉ cs → ∃ x w, body = x :: w ∧ x ≠ '\n' ∧ x ≠ '\r') :
    (afterBreak? (openingBreak cs ++ body)).getD (openingBreak cs ++ body) = body := by
  unfold openingBreak
  split
  · rfl
  · next hbreak =>
    obtain ⟨x, w, rfl, hx, hx'⟩ := h hbreak
    show (afterBreak? (x :: w)).getD (x :: w) = _
    rw [afterBreak?_eq_none hx hx']
    rfl

lemma length_lt_of_written {ps : List Piece} (h : ∀ p ∈ ps, p.2 ≠ []) (before after : List Char) :
    ps.length < (before ++ (written ps ++ after)).length + 1 := by
  have hle : ps.length ≤ (written ps).length := length_le_flatMap h
  rw [List.length_append, List.length_append]
  omega

/-- A form reads back what was written in it, and leaves the rest of the text. -/
def Form.ReadsBack (form : Form) (cs : List Char) : Prop :=
  ∀ r, NoQuoteAhead r → string? (form.write cs ++ r) = some (cs, r)

/-- Every string can be read back from the form between double quotes. -/
lemma readsBack_basic (cs : List Char) : Form.basic.ReadsBack cs := by
  intro r hr
  have hpieces : ∀ p ∈ cs.map basicPiece, (∃ x w, p.2 = x :: w ∧ x ≠ '"') ∧
      ∀ t, stepBasic? (p.2 ++ t) = some (.char p.1, t) := by
    intro p hp
    obtain ⟨c, _, rfl⟩ := List.mem_map.1 hp
    exact ⟨basicPiece_ne_quote c, stepBasic?_basicPiece c⟩
  have hne : ∀ p ∈ cs.map basicPiece, p.2 ≠ [] := by
    intro p hp
    obtain ⟨⟨x, w, hx, _⟩, _⟩ := hpieces p hp
    rw [hx]
    exact List.cons_ne_nil x w
  have hsteps := length_lt_of_written hne [] ('"' :: r)
  have hread := readSteps_written (q := '"') (r := r) (fun p hp => (hpieces p hp).2) rfl hsteps
  have htext : Form.basic.write cs ++ r = '"' :: (written (cs.map basicPiece) ++ '"' :: r) := by
    simp [Form.write, written_basicPiece]
  have hopening : ∀ t, written (cs.map basicPiece) ++ '"' :: r ≠ '"' :: '"' :: t := by
    intro t
    cases cs with
    | nil => exact fun heq => hr.ne_double t (List.cons.inj heq).2
    | cons c cs =>
      obtain ⟨⟨x, w, hx, hne⟩, _⟩ := hpieces (basicPiece c) List.mem_cons_self
      rw [List.map_cons, written_cons, hx]
      exact fun heq => hne (List.cons.inj heq).1
  unfold string?
  rw [htext, opening?_basic hopening]
  rw [spelled_basicPiece] at hread
  exact hread

/-- Strings without controls, line breaks and single quotes can be read back from the form between
single quotes. -/
lemma readsBack_literal {cs : List Char} (hcontrol : ∀ c ∈ cs, isControl c = false)
    (hbreak : '\n' ∉ cs) (hquote : '\'' ∉ cs) : Form.literal.ReadsBack cs := by
  intro r hr
  have hpieces : ∀ p ∈ cs.map plainPiece, p.2 ≠ [] ∧
      ∀ t, stepLiteral? (p.2 ++ t) = some (.char p.1, t) := by
    intro p hp
    obtain ⟨c, hc, rfl⟩ := List.mem_map.1 hp
    have hplain := isPlain_of_not_isControl (hcontrol c hc) (ne_of_mem_of_not_mem hc hbreak)
    exact ⟨by simp [plainPiece], stepLiteral?_plainPiece (ne_of_mem_of_not_mem hc hquote) hplain⟩
  have hsteps := length_lt_of_written (fun p hp => (hpieces p hp).1) [] ('\'' :: r)
  have hread := readSteps_written (q := '\'') (r := r) (fun p hp => (hpieces p hp).2) rfl hsteps
  have htext : Form.literal.write cs ++ r = '\'' :: (cs ++ '\'' :: r) := by
    simp [Form.write]
  have hopening : ∀ t, cs ++ '\'' :: r ≠ '\'' :: '\'' :: t := by
    intro t
    cases cs with
    | nil => exact fun heq => hr.ne_single t (List.cons.inj heq).2
    | cons c cs => exact fun heq => hquote ((List.cons.inj heq).1 ▸ List.mem_cons_self)
  unfold string?
  rw [htext, opening?_literal hopening]
  rw [spelled_plainPiece, written_plainPiece] at hread
  exact hread

/-- Every string can be read back from the form between triple double quotes. -/
lemma readsBack_longBasic (cs : List Char) : Form.longBasic.ReadsBack cs := by
  intro r hr
  obtain ⟨_, htame⟩ := tame_longBasicPieces (Nat.zero_le 2) cs
  have hsteps := length_lt_of_written htame.ne_nil (openingBreak cs) ('"' :: '"' :: '"' :: r)
  have hread := readSteps_tame htame (fun j hj => stepLong?_stop hj hr.ne_double)
    (fun i hi x t hx => stepLong?_quote (by decide) (by decide) (fun _ => rfl) hi hx t) hsteps
  have htext : Form.longBasic.write cs ++ r = '"' :: '"' :: '"' ::
      (openingBreak cs ++ (written (longBasicPieces 0 cs) ++ '"' :: '"' :: '"' :: r)) := by
    simp [Form.write, written_longBasicPieces]
  have hbody : '\n' ∉ cs → ∃ x w, written (longBasicPieces 0 cs) ++ '"' :: '"' :: '"' :: r = x :: w ∧
      x ≠ '\n' ∧ x ≠ '\r' := by
    intro hbreak
    cases cs with
    | nil => exact ⟨_, _, rfl, by decide, by decide⟩
    | cons c cs =>
      have hc : '\n' ≠ c := fun heq => hbreak (heq ▸ List.mem_cons_self)
      rw [longBasicPieces]
      split
      · next hquote => exact ⟨c, _, rfl, hc.symm, by rw [hquote]; decide⟩
      · rw [written_cons]
        cases hescape : escape? c with
        | some w =>
          obtain ⟨x, w', rfl, _⟩ := escape?_eq_some hescape
          exact ⟨'\\', _, rfl, by decide, by decide⟩
        | none => exact ⟨c, _, rfl, hc.symm, (isPlain_of_escape?_eq_none hescape).2.1⟩
  unfold string?
  rw [htext]
  show Form.read? .longBasic _ = _
  unfold Form.read?
  dsimp only
  rw [afterBreak?_openingBreak hbody, hread, spelled_longBasicPieces]

/-- Strings without controls and without three single quotes in a row can be read back from the form
between triple single quotes. -/
lemma readsBack_longLiteral {cs : List Char} (hcontrol : ∀ c ∈ cs, isControl c = false)
    (hrun : longestRun '\'' 0 cs ≤ 2) : Form.longLiteral.ReadsBack cs := by
  intro r hr
  obtain ⟨_, htame⟩ := tame_plainPieces hcontrol hrun
  have hsteps := length_lt_of_written htame.ne_nil (openingBreak cs) ('\'' :: '\'' :: '\'' :: r)
  have hread := readSteps_tame htame (fun j hj => stepLong?_stop hj hr.ne_single)
    (fun i hi x t hx => stepLong?_quote (by decide) (by decide) (fun _ => rfl) hi hx t) hsteps
  have htext : Form.longLiteral.write cs ++ r = '\'' :: '\'' :: '\'' ::
      (openingBreak cs ++ (written (cs.map plainPiece) ++ '\'' :: '\'' :: '\'' :: r)) := by
    simp [Form.write, written_plainPiece]
  have hbody : '\n' ∉ cs → ∃ x w, written (cs.map plainPiece) ++ '\'' :: '\'' :: '\'' :: r = x :: w ∧
      x ≠ '\n' ∧ x ≠ '\r' := by
    intro hbreak
    cases cs with
    | nil => exact ⟨_, _, rfl, by decide, by decide⟩
    | cons c cs =>
      refine ⟨c, _, rfl, fun heq => hbreak (heq ▸ List.mem_cons_self), ?_⟩
      rintro rfl
      exact absurd (hcontrol '\r' List.mem_cons_self) (by decide)
  unfold string?
  rw [htext]
  show Form.read? .longLiteral _ = _
  unfold Form.read?
  dsimp only
  rw [afterBreak?_openingBreak hbody, hread, spelled_plainPiece]

/-- A string is read back in the form that it is written in. -/
theorem string?_quote (s : String) {r : List Char} (hr : NoQuoteAhead r) :
    string? ((quote s).toList ++ r) = some (s.toList, r) := by
  have hform : (Form.choose s.toList).ReadsBack s.toList := by
    unfold Form.choose
    dsimp only
    split
    · exact readsBack_basic _
    split
    · next h =>
      simp only [Bool.and_eq_true, Bool.not_eq_true', List.any_eq_false, Bool.not_eq_true,
        decide_eq_false_iff_not, decide_eq_true_eq] at h
      exact readsBack_literal h.1.1 h.1.2 h.2
    split
    · exact readsBack_longBasic _
    split
    · next h =>
      simp only [Bool.and_eq_true, Bool.not_eq_true', List.any_eq_false, Bool.not_eq_true,
        decide_eq_true_eq] at h
      exact readsBack_longLiteral h.1 h.2
    split
    · exact readsBack_longBasic _
    · exact readsBack_basic _
  rw [quote, String.toList_ofList]
  exact hform r hr

end CompilerFlags.Toml
