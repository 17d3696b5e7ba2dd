import CompilerFlags.Data.Json.Number
import CompilerFlags.Data.Json.Quoted

/-!
# Reading JSON

`Json.parse?` reads a JSON text: one value with blanks around it.  Every reader here takes the
remaining characters and returns what it read together with what is left, or nothing if the text
is not JSON.
-/

namespace CompilerFlags.Json

/-- The text without the blanks that JSON allows between its tokens. -/
def skipBlanks (s : List Char) : List Char :=
  s.dropWhile fun c => c = ' ' || c = '\n' || c = '\t' || c = '\r'

/-- What follows a word. -/
def afterWord? (word : String) (s : List Char) : Option (List Char) :=
  if word.toList.isPrefixOf s then some (s.drop word.length) else none

/-- The characters that numbers are written with. -/
def isNumberChar (c : Char) : Bool :=
  c.isDigit || c = '-' || c = '+' || c = '.' || c = 'e' || c = 'E'

/-- Reads items separated by commas up to a closing character. -/
def items {α : Type} (item : List Char → Option (α × List Char)) (closing : Char) :
    Nat → List Char → Option (List α × List Char)
  | 0, _ => none
  | steps + 1, s => do
    let (x, rest) ← item s
    match skipBlanks rest with
    | [] => none
    | c :: rest =>
      if c = closing then some ([x], rest)
      else if c = ',' then
        (items item closing steps rest).map fun (xs, rest) => (x :: xs, rest)
      else none

/-- Reads items separated by commas, or none at all, up to a closing character. -/
def itemsOrNone {α : Type} (item : List Char → Option (α × List Char)) (closing : Char)
    (s : List Char) : Option (List α × List Char) :=
  match skipBlanks s with
  | [] => none
  | c :: rest =>
    if c = closing then some ([], rest) else items item closing (rest.length + 1) (c :: rest)

/-- Reads a text in quotes. -/
def text? (s : List Char) : Option (String × List Char) :=
  match skipBlanks s with
  | '"' :: rest =>
    (unquote (rest.length + 1) rest).map fun (cs, rest) => (String.ofList cs, rest)
  | _ => none

/-- Reads a name, a colon and a value. -/
def field? (value : List Char → Option (Value × List Char)) (s : List Char) :
    Option ((String × Value) × List Char) := do
  let (name, rest) ← text? s
  match skipBlanks rest with
  | ':' :: rest => (value rest).map fun (v, rest) => ((name, v), rest)
  | _ => none

/-- Reads a value that is nested less than `depth` deep. -/
def value? : Nat → List Char → Option (Value × List Char)
  | 0, _ => none
  | depth + 1, s =>
    match skipBlanks s with
    | [] => none
    | '"' :: rest =>
      (unquote (rest.length + 1) rest).map fun (cs, rest) => (.text (String.ofList cs), rest)
    | '[' :: rest =>
      (itemsOrNone (value? depth) ']' rest).map fun (vs, rest) => (.list vs, rest)
    | '\x7b' :: rest =>
      (itemsOrNone (field? (value? depth)) '\x7d' rest).map fun (fs, rest) => (.table fs, rest)
    | 'n' :: rest => (afterWord? "ull" rest).map fun rest => (.null, rest)
    | 't' :: rest => (afterWord? "rue" rest).map fun rest => (.bool true, rest)
    | 'f' :: rest => (afterWord? "alse" rest).map fun rest => (.bool false, rest)
    | c :: rest =>
      let (digits, rest) := (c :: rest).span isNumberChar
      (number? digits).map fun v => (v, rest)

/-- The value that a JSON text stands for. -/
def parse? (s : String) : Option Value :=
  match value? (s.length + 1) s.toList with
  | some (v, rest) => if (skipBlanks rest).isEmpty then some v else none
  | none => none

end CompilerFlags.Json
