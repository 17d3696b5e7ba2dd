import CompilerFlags.Data.Json.Quoted
import CompilerFlags.Data.Value
import CompilerFlags.Text

/-!
# Writing JSON

A value is written without blanks, and the fields of a table in the order of their names.  Since
the characters below U+0020 are escaped in texts, the written value is a single line.
-/

namespace CompilerFlags.Json

/-- The fields in the order of their names. -/
def sortFields (fields : List (String × String)) : List (String × String) :=
  fields.mergeSort fun a b => decide (a.1 ≤ b.1)

/-- Items between brackets, separated by commas. -/
def bracketed (opening closing : String) (items : List String) : String :=
  opening ++ Text.join "," items ++ closing

mutual

/-- The compact text of a value. -/
def print : Value → String
  | .null => "null"
  | .bool true => "true"
  | .bool false => "false"
  | .int n => toString n
  | .real written => written
  | .moment written => quote written
  | .text s => quote s
  | .list items => bracketed "[" "]" (printItems items)
  | .table fields =>
    bracketed "\x7b" "\x7d"
      ((sortFields (printFields fields)).map fun field => quote field.1 ++ ":" ++ field.2)
termination_by structural v => v

/-- The compact texts of the items of a list. -/
def printItems : List Value → List String
  | [] => []
  | v :: vs => print v :: printItems vs
termination_by structural vs => vs

/-- The names of fields with the compact texts of their values. -/
def printFields : List (String × Value) → List (String × String)
  | [] => []
  | field :: fields => printField field :: printFields fields
termination_by structural fields => fields

/-- The name of a field with the compact text of its value. -/
def printField : String × Value → String × String
  | (name, v) => (name, print v)
termination_by structural field => field

end

end CompilerFlags.Json
