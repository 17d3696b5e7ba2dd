import CompilerFlags.Data.Toml.Quoted
import CompilerFlags.Text

/-!
# Writing TOML

Only one kind of document is written: named lists of strings.  A list with one item stands on one
line; a longer list has a line for each item.  The names need no quotes.
-/

namespace CompilerFlags.Toml

/-- A list of strings. -/
def printList : List String → String
  | [] => "[]"
  | [s] => "[" ++ quote s ++ "]"
  | items => "[\n" ++ Text.join "" (items.map fun s => "    " ++ quote s ++ ",\n") ++ "]"

/-- A document of named lists. -/
def printLists (lists : List (String × List String)) : String :=
  Text.join "" (lists.map fun l => l.1 ++ " = " ++ printList l.2 ++ "\n")

end CompilerFlags.Toml
