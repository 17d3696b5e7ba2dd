/-!
# Check reports

Each capability that is checked gives one report: what was asked, what came out, and a colour that
hints at how welcome the result is.
-/

namespace CompilerFlags

/-- A hint at how welcome a result is. -/
inductive Color
  | green
  | yellow
  | red
deriving DecidableEq, Repr

/-- The name of a colour. -/
def Color.name : Color → String
  | green => "green"
  | yellow => "yellow"
  | red => "red"

/-- The result of a check. -/
structure Report where
  message : String
  result : String
  color : Color
deriving DecidableEq, Repr

end CompilerFlags
