import CompilerFlags.Data.Toml.Number
import CompilerFlags.Data.Toml.Quoted
import CompilerFlags.Data.Toml.Table

/-!
# Reading TOML

`Toml.parse?` reads a TOML document: the fields of its root table, or nothing if the text is no
document.  Each reader takes the remaining characters and returns what it read together with what
is left.

Lists and inline tables may be nested less than eighty deep, and so many parts may a key have.
-/

namespace CompilerFlags.Toml

/-- Lists, inline tables and dotted keys are less deep than this. -/
def depthLimit : Nat := 80

/-- Drops the blanks inside a line. -/
def skipSpaces (s : List Char) : List Char := s.dropWhile isSpace

/-- Drops a comment up to the end of its line. -/
def skipComment : List Char → List Char
  | '#' :: rest => rest.dropWhile isPlain
  | s => s

/-- What follows the end of a line, before which blanks and a comment may stand.  The end of the
text ends a line too. -/
def endLine? (s : List Char) : Option (List Char) :=
  match skipComment (skipSpaces s) with
  | [] => some []
  | rest => afterBreak? rest

/-- Drops blanks, comments and line breaks, in at most so many steps as there are letters. -/
def skipLines : Nat → List Char → List Char
  | 0, s => s
  | steps + 1, s =>
    let rest := skipComment (skipSpaces s)
    match afterBreak? rest with
    | some rest => skipLines steps rest
    | none => rest

/-- The characters of keys without quotes. -/
def isKeyChar (c : Char) : Bool := c.isAlphanum || c = '_' || c = '-'

/-- Reads one part of a key. -/
def keyPart? (s : List Char) : Option (String × List Char) :=
  match s with
  | '"' :: _ => (shortString? s).map fun (cs, rest) => (String.ofList cs, rest)
  | '\'' :: _ => (shortString? s).map fun (cs, rest) => (String.ofList cs, rest)
  | _ =>
    let (cs, rest) := s.span isKeyChar
    if cs.isEmpty then none else some (String.ofList cs, rest)

/-- Reads the parts of a key, between which dots stand. -/
def keyParts? : Nat → List Char → Option (List String × List Char)
  | 0, _ => none
  | steps + 1, s => do
    let (part, rest) ← keyPart? (skipSpaces s)
    match skipSpaces rest with
    | '.' :: rest => (keyParts? steps rest).map fun (parts, rest) => (part :: parts, rest)
    | rest => some ([part], rest)

/-- Reads a key: the path to a table and the name of a field in it. -/
def key? (s : List Char) : Option ((List String × String) × List Char) := do
  let (parts, rest) ← keyParts? (s.length + 1) s
  let name ← parts.getLast?
  if parts.length < depthLimit then some ((parts.dropLast, name), rest) else none

/-- Reads a key, an equals sign and a value. -/
def assignment? (value : List Char → Option (Value × List Char)) (s : List Char) :
    Option ((List String × String × Value) × List Char) := do
  let ((path, name), rest) ← key? s
  match rest with
  | '=' :: rest => (value (skipSpaces rest)).map fun (v, rest) => ((path, name, v), rest)
  | _ => none

/-- Reads the items of a list after the opening bracket.  A comma may follow the last item. -/
def listItems? (value : List Char → Option (Value × List Char)) :
    Nat → List Char → Option (List Value × List Char)
  | 0, _ => none
  | steps + 1, s =>
    match skipLines (s.length + 1) s with
    | ']' :: rest => some ([], rest)
    | s => do
      let (v, rest) ← value s
      match skipLines (rest.length + 1) rest with
      | ',' :: rest => (listItems? value steps rest).map fun (vs, rest) => (v :: vs, rest)
      | ']' :: rest => some ([v], rest)
      | _ => none

/-- Reads the assignments of an inline table, at least one, up to the closing brace. -/
def inlineFields? (value : List Char → Option (Value × List Char)) :
    Nat → Fields → List Char → Option (Fields × List Char)
  | 0, _, _ => none
  | steps + 1, fields, s => do
    let ((path, name, v), rest) ← assignment? value s
    let fields ← fields.assign name v path
    match skipSpaces rest with
    | ',' :: rest => inlineFields? value steps fields rest
    | '\x7d' :: rest => some (fields, rest)
    | _ => none

/-- Reads an inline table after the opening brace. -/
def inlineTable? (value : List Char → Option (Value × List Char)) (s : List Char) :
    Option (Value × List Char) :=
  match skipSpaces s with
  | '\x7d' :: rest => some (.table [], rest)
  | s =>
    (inlineFields? value (s.length + 1) [] s).map fun (fields, rest) =>
      (.table (fieldValues fields), rest)

/-- Reads a value in which lists and inline tables are nested at most `depth` deep. -/
def value? : Nat → List Char → Option (Value × List Char)
  | 0, s =>
    match s with
    | '"' :: _ => (string? s).map fun (cs, rest) => (.text (String.ofList cs), rest)
    | '\'' :: _ => (string? s).map fun (cs, rest) => (.text (String.ofList cs), rest)
    | _ => readWord? s
  | depth + 1, s =>
    match s with
    | '"' :: _ => (string? s).map fun (cs, rest) => (.text (String.ofList cs), rest)
    | '\'' :: _ => (string? s).map fun (cs, rest) => (.text (String.ofList cs), rest)
    | '[' :: rest =>
      (listItems? (value? depth) (rest.length + 1) rest).map fun (vs, rest) => (.list vs, rest)
    | '\x7b' :: rest => inlineTable? (value? depth) rest
    | _ => readWord? s

/-- A document under construction: the root table and the path of the last header. -/
structure Draft where
  root : Fields
  header : List String

/-- Adds an assignment to the table of the last header. -/
def Draft.assign (d : Draft) (path : List String) (name : String) (v : Value) : Option Draft :=
  (d.root.update (Fields.assign name v path) d.header).map fun root => { d with root := root }

/-- Starts a table with a header. -/
def Draft.openTable (d : Draft) (path : List String) (name : String) : Option Draft :=
  (d.root.update (Fields.openTable name) path).map fun root => ⟨root, path ++ [name]⟩

/-- Starts a table under a header in double brackets. -/
def Draft.openRow (d : Draft) (path : List String) (name : String) : Option Draft :=
  (d.root.update (Fields.openRow name) path).map fun root => ⟨root, path ++ [name]⟩

/-- Reads a header or an assignment, without the end of its line. -/
def expression? (d : Draft) (s : List Char) : Option (Draft × List Char) :=
  match s with
  | '[' :: '[' :: rest => do
    let ((path, name), rest) ← key? rest
    match rest with
    | ']' :: ']' :: rest => (d.openRow path name).map fun d => (d, rest)
    | _ => none
  | '[' :: rest => do
    let ((path, name), rest) ← key? rest
    match rest with
    | ']' :: rest => (d.openTable path name).map fun d => (d, rest)
    | _ => none
  | _ => do
    let ((path, name, v), rest) ← assignment? (value? (depthLimit - 1)) s
    (d.assign path name v).map fun d => (d, rest)

/-- Reads the lines of a document, at most so many as there are letters. -/
def lines? : Nat → Draft → List Char → Option Draft
  | 0, d, s => if s.isEmpty then some d else none
  | steps + 1, d, s =>
    match skipLines (s.length + 1) s with
    | [] => some d
    | s => do
      let (d, rest) ← expression? d s
      lines? steps d (← endLine? rest)

/-- Drops the byte order mark that a text may start with. -/
def skipMark : List Char → List Char
  | '\ufeff' :: rest => rest
  | s => s

/-- The fields of the document that a text stands for. -/
def parse? (s : String) : Option (List (String × Value)) :=
  (lines? (s.length + 1) ⟨[], []⟩ (skipMark s.toList)).map fun d => fieldValues d.root

end CompilerFlags.Toml
