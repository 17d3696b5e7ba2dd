/-!
# Strings in TOML

TOML has four forms of strings: between single or triple quotes, with or without escapes.  A
string is written in the first form that suits it.

1. `"…"` if nothing but tabs needs an escape;
2. `'…'` if it has neither a control character nor a line break nor a single quote;
3. `"""…"""` if it has neither a control character nor a backslash, and never three double quotes
   in a row;
4. `'''…'''` if it has no control character and never three single quotes in a row;
5. `"""…"""` with escapes if it has a line break, else `"…"` with escapes.

A form with triple quotes starts on a new line if the string has a line break.  The reader accepts
all four forms, however they are written.
-/

namespace CompilerFlags.Toml

/-- The characters that need an escape wherever escapes are possible; tabs and line breaks are no
control characters in this sense. -/
def isControl (c : Char) : Bool :=
  (c.toNat < 0x20 && c ≠ '\t' && c ≠ '\n') || c.toNat = 0x7F

/-- The length of the longest run of a character. -/
def longestRun (q : Char) : Nat → List Char → Nat
  | run, [] => run
  | run, c :: cs => if c = q then longestRun q (run + 1) cs else max run (longestRun q 0 cs)

/-- A way to write a string. -/
inductive Form
  /-- One quote on each side, with escapes. -/
  | basic
  /-- One quote on each side, without escapes. -/
  | literal
  /-- Three quotes on each side, with escapes. -/
  | longBasic
  /-- Three quotes on each side, without escapes. -/
  | longLiteral
deriving DecidableEq, Repr

/-- The form that a string is written in. -/
def Form.choose (cs : List Char) : Form :=
  let control := cs.any isControl
  let newline := decide ('\n' ∈ cs)
  if !control && !newline && decide ('\\' ∉ cs) && decide ('"' ∉ cs) then basic
  else if !control && !newline && decide ('\'' ∉ cs) then literal
  else if !control && decide ('\\' ∉ cs) && longestRun '"' 0 cs ≤ 2 then longBasic
  else if !control && longestRun '\'' 0 cs ≤ 2 then longLiteral
  else if newline then longBasic
  else basic

/-- The digit for a number below sixteen, with capital letters. -/
def capitalHexDigit (n : Nat) : Char :=
  if n < 10 then Char.ofNat (48 + n) else Char.ofNat (55 + n)

/-- The escapes of one letter that are written, with the characters that they stand for. -/
def writtenEscapes : List (Char × Char) :=
  [('\x08', 'b'), ('\t', 't'), ('\x0c', 'f'), ('\r', 'r'), ('\\', '\\')]

/-- The escape that a character needs in both basic forms. -/
def escape? (c : Char) : Option (List Char) :=
  match writtenEscapes.lookup c with
  | some letter => some ['\\', letter]
  | none =>
    if isControl c then
      some ['\\', 'u', '0', '0', capitalHexDigit (c.toNat / 16), capitalHexDigit (c.toNat % 16)]
    else none

/-- The characters of a string between single double quotes. -/
def encodeBasic (cs : List Char) : List Char :=
  cs.flatMap fun c =>
    if c = '"' then ['\\', '"'] else if c = '\n' then ['\\', 'n'] else (escape? c).getD [c]

/-- The characters of a string between triple double quotes; `quotes` is the number of double
quotes written just before.  Of three quotes in a row the third is escaped. -/
def encodeLongBasic : Nat → List Char → List Char
  | _, [] => []
  | quotes, c :: cs =>
    if c = '"' then
      if quotes = 2 then '\\' :: '"' :: encodeLongBasic 0 cs
      else '"' :: encodeLongBasic (quotes + 1) cs
    else (escape? c).getD [c] ++ encodeLongBasic 0 cs

/-- The line break that starts a string with line breaks between triple quotes. -/
def openingBreak (cs : List Char) : List Char := if '\n' ∈ cs then ['\n'] else []

/-- A string in one of the forms. -/
def Form.write (cs : List Char) : Form → List Char
  | basic => '"' :: encodeBasic cs ++ ['"']
  | literal => '\'' :: cs ++ ['\'']
  | longBasic =>
    ['"', '"', '"'] ++ openingBreak cs ++ encodeLongBasic 0 cs ++ ['"', '"', '"']
  | longLiteral => ['\'', '\'', '\''] ++ openingBreak cs ++ cs ++ ['\'', '\'', '\'']

/-- A string as it is written in a document. -/
def quote (s : String) : String :=
  String.ofList ((Form.choose s.toList).write s.toList)

/-- The characters that may stand for themselves in strings and comments. -/
def isPlain (c : Char) : Bool :=
  (0x20 ≤ c.toNat || c = '\t') && c.toNat ≠ 0x7F

/-- What follows a line break. -/
def afterBreak? : List Char → Option (List Char)
  | '\n' :: rest => some rest
  | '\r' :: '\n' :: rest => some rest
  | _ => none

/-- Whether a character is a blank inside a line. -/
def isSpace (c : Char) : Bool := c = ' ' || c = '\t'

/-- The value of a hexadecimal digit. -/
def hexDigitValue? (c : Char) : Option Nat :=
  if '0' ≤ c ∧ c ≤ '9' then some (c.toNat - 48)
  else if 'a' ≤ c ∧ c ≤ 'f' then some (c.toNat - 87)
  else if 'A' ≤ c ∧ c ≤ 'F' then some (c.toNat - 55)
  else none

/-- The number that some hexadecimal digits stand for. -/
def hexNumber? (cs : List Char) : Option Nat :=
  cs.foldlM (fun n c => (hexDigitValue? c).map (n * 16 + ·)) 0

/-- The character with a number, if there is one. -/
def charOfNumber? (n : Nat) : Option Char :=
  if n < 0xD800 ∨ (0xDFFF < n ∧ n < 0x110000) then some (Char.ofNat n) else none

/-- Reads a character that is given by `digits` hexadecimal digits. -/
def numbered? (digits : Nat) (s : List Char) : Option (Char × List Char) := do
  if s.length < digits then none
  else
    let n ← hexNumber? (s.take digits)
    let c ← charOfNumber? n
    some (c, s.drop digits)

/-- The escapes of one letter that are read. -/
def readEscapes : List (Char × Char) :=
  [('b', '\x08'), ('t', '\t'), ('n', '\n'), ('f', '\x0c'), ('r', '\r'), ('"', '"'), ('\\', '\\')]

/-- Reads what follows a backslash. -/
def unescape? : List Char → Option (Char × List Char)
  | 'u' :: rest => numbered? 4 rest
  | 'U' :: rest => numbered? 8 rest
  | letter :: rest => (readEscapes.lookup letter).map fun c => (c, rest)
  | [] => none

/-- Drops blanks and line breaks. -/
def skipBreaks : List Char → List Char
  | [] => []
  | '\r' :: '\n' :: rest => skipBreaks rest
  | c :: rest => if isSpace c || c = '\n' then skipBreaks rest else c :: rest

/-- What follows a backslash at the end of a line: it joins the line with the next text. -/
def afterJoint? (s : List Char) : Option (List Char) :=
  (afterBreak? (s.dropWhile isSpace)).map skipBreaks

/-- A step in reading a string: a character, nothing, or the end with the quotes that belong to
the string. -/
inductive Step
  | char (c : Char)
  | skip
  | stop (quotes : Nat)

/-- Reads the next character of `"…"`. -/
def stepBasic? : List Char → Option (Step × List Char)
  | '"' :: rest => some (.stop 0, rest)
  | '\\' :: rest => (unescape? rest).map fun (c, rest) => (.char c, rest)
  | c :: rest => if isPlain c then some (.char c, rest) else none
  | [] => none

/-- Reads the next character of `'…'`. -/
def stepLiteral? : List Char → Option (Step × List Char)
  | '\'' :: rest => some (.stop 0, rest)
  | c :: rest => if isPlain c then some (.char c, rest) else none
  | [] => none

/-- Reads the closing quotes of a string between triple quotes.  Up to two quotes before them
belong to the string. -/
def stopLong? (q : Char) : List Char → Option (Step × List Char)
  | a :: b :: c :: rest =>
    if a = q ∧ b = q ∧ c = q then
      match rest with
      | d :: e :: rest' =>
        if d = q then if e = q then some (.stop 2, rest') else some (.stop 1, e :: rest')
        else some (.stop 0, rest)
      | [d] => if d = q then some (.stop 1, []) else some (.stop 0, rest)
      | [] => some (.stop 0, [])
    else none
  | _ => none

/-- Reads the next character of a string between triple quotes `q`, where `other` reads what is
neither a closing quote nor a line break. -/
def stepLong? (q : Char) (other : List Char → Option (Step × List Char)) (s : List Char) :
    Option (Step × List Char) :=
  match stopLong? q s with
  | some answer => some answer
  | none =>
    match afterBreak? s with
    | some rest => some (.char '\n', rest)
    | none => other s

/-- Reads a character or an escape of `"""…"""`. -/
def stepLongBasic? : List Char → Option (Step × List Char)
  | '\\' :: rest =>
    match afterJoint? rest with
    | some rest => some (.skip, rest)
    | none => (unescape? rest).map fun (c, rest) => (.char c, rest)
  | c :: rest => if isPlain c then some (.char c, rest) else none
  | [] => none

/-- Reads a character of `'''…'''`. -/
def stepLongLiteral? : List Char → Option (Step × List Char)
  | c :: rest => if isPlain c then some (.char c, rest) else none
  | [] => none

/-- Reads a string step by step up to its closing quotes `q`.  Each step takes at least one
letter, so that as many steps as there are letters suffice. -/
def readSteps (step? : List Char → Option (Step × List Char)) (q : Char) :
    Nat → List Char → Option (List Char × List Char)
  | 0, _ => none
  | steps + 1, s => do
    let (step, rest) ← step? s
    match step with
    | .stop quotes => some (List.replicate quotes q, rest)
    | .skip => readSteps step? q steps rest
    | .char c => (readSteps step? q steps rest).map fun (cs, rest) => (c :: cs, rest)

/-- Reads the string whose opening quotes were read. -/
def Form.read? (form : Form) (s : List Char) : Option (List Char × List Char) :=
  match form with
  | basic => readSteps stepBasic? '"' (s.length + 1) s
  | literal => readSteps stepLiteral? '\'' (s.length + 1) s
  | longBasic =>
    readSteps (stepLong? '"' stepLongBasic?) '"' (s.length + 1) ((afterBreak? s).getD s)
  | longLiteral =>
    readSteps (stepLong? '\'' stepLongLiteral?) '\'' (s.length + 1) ((afterBreak? s).getD s)

/-- The form that the opening quotes of a string announce, and what follows them. -/
def opening? : List Char → Option (Form × List Char)
  | '"' :: '"' :: '"' :: rest => some (.longBasic, rest)
  | '"' :: rest => some (.basic, rest)
  | '\'' :: '\'' :: '\'' :: rest => some (.longLiteral, rest)
  | '\'' :: rest => some (.literal, rest)
  | _ => none

/-- Reads a string in any form. -/
def string? (s : List Char) : Option (List Char × List Char) := do
  let (form, rest) ← opening? s
  form.read? rest

/-- Reads a string in one of the forms on a single line, which keys are written in. -/
def shortString? : List Char → Option (List Char × List Char)
  | '"' :: rest => Form.basic.read? rest
  | '\'' :: rest => Form.literal.read? rest
  | _ => none

end CompilerFlags.Toml
