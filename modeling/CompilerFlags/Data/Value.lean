/-!
# Structured data

The values that configuration files, request files and reports are made of.  A `Value` is what a
JSON text or a TOML document says, without the way it is written: numbers that are not integers
and dates are kept as letters, since nothing here computes with them.
-/

namespace CompilerFlags

/-- A piece of structured data. -/
inductive Value
  /-- The absent value, which only JSON can write. -/
  | null
  | bool (b : Bool)
  | int (n : Int)
  /-- A number with a fraction or an exponent, in the letters with which it will be written. -/
  | real (written : String)
  /-- A date, a time, or both, as it is written; only TOML has them. -/
  | moment (written : String)
  | text (s : String)
  | list (items : List Value)
  /-- Named fields, in the order in which they are written. -/
  | table (fields : List (String × Value))

namespace Value

/-- The text that a value is, if it is one. -/
def text? : Value → Option String
  | text s => some s
  | _ => none

/-- The truth value that a value is, if it is one. -/
def bool? : Value → Option Bool
  | bool b => some b
  | _ => none

/-- The items of a list. -/
def list? : Value → Option (List Value)
  | list items => some items
  | _ => none

/-- The texts of a list of texts. -/
def texts? (v : Value) : Option (List String) :=
  v.list?.bind fun items => items.mapM text?

end Value

end CompilerFlags
