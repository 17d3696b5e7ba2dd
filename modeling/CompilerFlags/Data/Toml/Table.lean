import CompilerFlags.Data.Value

/-!
# Building the tables of a TOML document

A document writes its tables piece by piece: by headers such as `[a.b]` and `[[rows]]`, and by
dotted keys such as `a.b = 1`.  A `Node` is a value under construction.  It remembers how each
table came about, because that decides what may still be added to it:

* a table is given a header at most once, and none if it came about by dotted keys;
* a dotted key puts its value only into a table that came about by dotted keys, and leads there
  only through tables without a header and through rows;
* a name is given a value only once.

`Node.value` forgets all this when the document is read.
-/

namespace CompilerFlags.Toml

/-- How a table came about. -/
inductive Origin
  /-- By the header of a table inside it. -/
  | implied
  /-- By a dotted key. -/
  | dotted
  /-- By its own header. -/
  | header
deriving DecidableEq, Repr

/-- A value under construction. -/
inductive Node
  /-- A finished value. -/
  | leaf (v : Value)
  | table (origin : Origin) (fields : List (String × Node))
  /-- The tables under a header in double brackets; the last one is under construction. -/
  | rows (tables : List (List (String × Node)))

/-- The fields of a table under construction. -/
abbrev Fields := List (String × Node)

namespace Fields

/-- Gives a name a node, in the place of the node that it has or else at the end. -/
def set (name : String) (node : Node) : Fields → Fields
  | [] => [(name, node)]
  | field :: rest => if field.1 = name then (name, node) :: rest else field :: set name node rest

/-- Gives a value to a name that has none. -/
def insertNew (name : String) (v : Value) (fields : Fields) : Option Fields :=
  match fields.lookup name with
  | none => some (fields ++ [(name, .leaf v)])
  | some _ => none

/-- Gives a value to a name in the table at the end of a dotted path. -/
def assign (name : String) (v : Value) : List String → Fields → Option Fields
  | [], fields => insertNew name v fields
  | first :: path, fields =>
    match fields.lookup first with
    | none => (assign name v path []).map fun inner => set first (.table .dotted inner) fields
    | some (.table origin inner) =>
      if origin = .header ∨ (path.isEmpty ∧ origin ≠ .dotted) then none
      else (assign name v path inner).map fun inner => set first (.table origin inner) fields
    | some (.rows tables) =>
      if path.isEmpty then none
      else
        (assign name v path (tables.getLast?.getD [])).map fun inner =>
          set first (.rows (tables.dropLast ++ [inner])) fields
    | some (.leaf _) => none

/-- Changes the table that a path of headers leads to.  Tables on the way are made where they are
missing, and rows lead to their last table. -/
def update (change : Fields → Option Fields) : List String → Fields → Option Fields
  | [], fields => change fields
  | first :: path, fields =>
    match fields.lookup first with
    | none => do
      let inner ← update change path []
      some (set first (.table .implied inner) fields)
    | some (.leaf _) => none
    | some (.table origin inner) => do
      let inner ← update change path inner
      some (set first (.table origin inner) fields)
    | some (.rows tables) => do
      let inner ← update change path (tables.getLast?.getD [])
      some (set first (.rows (tables.dropLast ++ [inner])) fields)

/-- Gives a table its header. -/
def openTable (name : String) (fields : Fields) : Option Fields :=
  match fields.lookup name with
  | none => some (set name (.table .header []) fields)
  | some (.table .implied inner) => some (set name (.table .header inner) fields)
  | some _ => none

/-- Starts a new table under a header in double brackets. -/
def openRow (name : String) (fields : Fields) : Option Fields :=
  match fields.lookup name with
  | none => some (set name (.rows [[]]) fields)
  | some (.rows tables) => some (set name (.rows (tables ++ [[]])) fields)
  | some _ => none

end Fields

mutual

/-- The value that was built. -/
def Node.value : Node → Value
  | .leaf v => v
  | .table _ fields => .table (fieldValues fields)
  | .rows tables => .list (rowValues tables)
termination_by structural node => node

/-- The values of fields. -/
def fieldValues : List (String × Node) → List (String × Value)
  | [] => []
  | field :: fields => fieldValue field :: fieldValues fields
termination_by structural fields => fields

/-- The value of a field. -/
def fieldValue : String × Node → String × Value
  | (name, node) => (name, node.value)
termination_by structural field => field

/-- The values of the tables under a header in double brackets. -/
def rowValues : List (List (String × Node)) → List Value
  | [] => []
  | table :: tables => .table (fieldValues table) :: rowValues tables
termination_by structural tables => tables

end

end CompilerFlags.Toml
