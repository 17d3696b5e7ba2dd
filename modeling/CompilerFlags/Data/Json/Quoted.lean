/-!
# Quoted text in JSON

Between its quotes a text is written character by character.  A quote, a backslash and the
characters below U+0020 are escaped; everything else stands for itself.  The reader also accepts
the escapes that the writer does not need, and joins two escaped surrogates to the character that
they stand for.
-/

namespace CompilerFlags.Json

/-- The digit for a number below sixteen, with small letters. -/
def hexDigit (n : Nat) : Char :=
  if n < 10 then Char.ofNat (48 + n) else Char.ofNat (87 + n)

/-- The escapes of one letter, with the characters that they stand for. -/
def shortEscapes : List (Char × Char) :=
  [('"', '"'), ('\\', '\\'), ('\x08', 'b'), ('\t', 't'), ('\n', 'n'), ('\x0c', 'f'), ('\r', 'r')]

/-- How a character is written between quotes. -/
def encodeChar (c : Char) : List Char :=
  match shortEscapes.lookup c with
  | some letter => ['\\', letter]
  | none =>
    if c.toNat < 0x20 then
      ['\\', 'u', '0', '0', hexDigit (c.toNat / 16), hexDigit (c.toNat % 16)]
    else [c]

/-- A text in quotes. -/
def quote (s : String) : String :=
  "\"" ++ String.ofList (s.toList.flatMap encodeChar) ++ "\""

/-- The value of a hexadecimal digit. -/
def hexValue? (c : Char) : Option Nat :=
  if '0' ≤ c ∧ c ≤ '9' then some (c.toNat - 48)
  else if 'a' ≤ c ∧ c ≤ 'f' then some (c.toNat - 87)
  else if 'A' ≤ c ∧ c ≤ 'F' then some (c.toNat - 55)
  else none

/-- The number that four hexadecimal digits stand for, and what follows them. -/
def hexFour? : List Char → Option (Nat × List Char)
  | a :: b :: c :: d :: rest => do
    let a ← hexValue? a
    let b ← hexValue? b
    let c ← hexValue? c
    let d ← hexValue? d
    some (((a * 16 + b) * 16 + c) * 16 + d, rest)
  | _ => none

/-- Reads what follows the letter of a numeric escape: one code unit, or two that make up one
character. -/
def numericEscape? (s : List Char) : Option (Char × List Char) := do
  let (high, rest) ← hexFour? s
  if 0xD800 ≤ high ∧ high < 0xDC00 then
    match rest with
    | '\\' :: 'u' :: rest => do
      let (low, rest) ← hexFour? rest
      if 0xDC00 ≤ low ∧ low < 0xE000 then
        some (Char.ofNat (0x10000 + (high - 0xD800) * 0x400 + (low - 0xDC00)), rest)
      else none
    | _ => none
  else if 0xDC00 ≤ high ∧ high < 0xE000 then none
  else some (Char.ofNat high, rest)

/-- Reads what follows a backslash. -/
def escape? : List Char → Option (Char × List Char)
  | 'u' :: rest => numericEscape? rest
  | '/' :: rest => some ('/', rest)
  | letter :: rest =>
    (shortEscapes.find? fun e => e.2 = letter).map fun e => (e.1, rest)
  | [] => none

/-- Reads the next character of a quoted text; no character is the end of the text. -/
def next? : List Char → Option (Option Char × List Char)
  | '"' :: rest => some (none, rest)
  | '\\' :: rest => (escape? rest).map fun (c, rest) => (some c, rest)
  | c :: rest => if c.toNat < 0x20 then none else some (some c, rest)
  | [] => none

/-- Reads a text up to its closing quote.  Each character takes at least one letter, so that as
many steps as there are letters suffice. -/
def unquote : Nat → List Char → Option (List Char × List Char)
  | 0, _ => none
  | steps + 1, s => do
    let (c, rest) ← next? s
    match c with
    | none => some ([], rest)
    | some c => (unquote steps rest).map fun (cs, rest) => (c :: cs, rest)

end CompilerFlags.Json
