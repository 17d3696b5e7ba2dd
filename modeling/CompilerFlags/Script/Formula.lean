import CompilerFlags.Script.Variable

/-!
# Formulas

A formula is made of whole numbers, variables and operators.  The operators of two operands form
levels: those of a lower level bind tighter, and those of one level are taken from the left.

A formula is evaluated while it is read.  The second operand of `&&` and `||`, and the alternatives
of a choice, are only read and not evaluated if they do not matter.  So what is wrong at the end of
a formula does not keep values from being set in front of it.
-/

namespace CompilerFlags.Script

/-- The operators of two operands, both of which are always looked at. -/
inductive Operator
  | times | quotient | modulo
  | plus | minus
  | left | right
  | less | lessEqual | greater | greaterEqual
  | equal | unequal
  | and
  | xor
  | or
deriving DecidableEq, Repr

/-- How tight an operator binds. -/
def Operator.level : Operator → Nat
  | times | quotient | modulo => 0
  | plus | minus => 1
  | left | right => 2
  | less | lessEqual | greater | greaterEqual => 3
  | equal | unequal => 4
  | and => 5
  | xor => 6
  | or => 7

namespace Formula

/-- The level that no operator reaches. -/
def topLevel : Nat := 8

/-- A token of a formula. -/
inductive Token
  | ending
  | number (n : Int64)
  | name (s : Octets)
  | sign (s : String)
  /-- Something that does not belong into a formula. -/
  | other
deriving DecidableEq

/-- The operators by their signs. -/
def operators : List (String × Operator) :=
  [("*", .times), ("/", .quotient), ("%", .modulo), ("+", .plus), ("-", .minus), ("<<", .left),
    (">>", .right), ("<", .less), ("<=", .lessEqual), (">", .greater), (">=", .greaterEqual),
    ("==", .equal), ("!=", .unequal), ("&", .and), ("^", .xor), ("|", .or)]

/-- The signs that give a value to a variable, with the operators that they apply to its earlier
value. -/
def assignments : List (String × Option Operator) :=
  [("=", none), ("+=", some .plus), ("-=", some .minus), ("*=", some .times),
    ("/=", some .quotient), ("%=", some .modulo), ("<<=", some .left), (">>=", some .right),
    ("&=", some .and), ("^=", some .xor), ("|=", some .or)]

/-- The signs of formulas, where a longer one comes before those that it starts with. -/
def signs : List String :=
  ["<<=", ">>=", "<<", ">>", "<=", ">=", "==", "!=", "&&", "||", "+=", "-=", "*=", "/=", "%=", "&=",
    "^=", "|=", "+", "-", "*", "/", "%", "<", ">", "=", "!", "~", "&", "|", "^", "?", ":", "(", ")"]

/-- Whether an octet is a blank. -/
def isBlank (c : Char) : Bool := c = ' ' || c = '\t' || c = '\n'

/-- The next token and what follows it. -/
def token (s : Octets) : Token × Octets :=
  match s.dropWhile isBlank with
  | [] => (.ending, [])
  | c :: rest =>
    let s := c :: rest
    if c.isDigit then
      match Numeral.natural? true s with
      | some (n, rest) => (.number (Numeral.clamp n), rest)
      | none => (.other, s)
    else if startsName c then
      let (name, rest) := s.span isNameChar
      (.name name, rest)
    else
      match signs.find? fun sign => sign.toList.isPrefixOf s with
      | some sign => (.sign sign, s.drop sign.length)
      | none => (.other, s)

/-- A formula that is read. -/
structure Reading where
  text : Octets
  rest : Octets

/-- The actions of readers of formulas. -/
abbrev Computes (α : Type) := StateT Reading Run α

/-- The next token. -/
def peek : Computes Token := do return (token (← get).rest).1

/-- Reads the next token. -/
def next : Computes Token := modifyGet fun r =>
  let (t, rest) := token r.rest
  (t, { r with rest := rest })

/-- The next token if it is an operator of two operands. -/
def peekOperator? : Computes (Option Operator) := do
  match ← peek with
  | .sign s => return operators.lookup s
  | _ => return none

/-- Reads a sign if it is the next token. -/
def accept (sign : String) : Computes Bool := do
  if (← peek) = .sign sign then
    let _ ← next
    return true
  else return false

/-- Fails because of what is wrong with the formula. -/
def refuse {α : Type} (reason : String) : Computes α := do
  let text := (← get).text
  (Run.fail ("arithmetic expression: ".toList ++ reason.toList ++ ": \"".toList ++ text ++
    ['"']) : Run α)

/-- The number for a truth value. -/
def ofBool (b : Bool) : Int64 := if b then 1 else 0

/-- What a quotient comes to.  The smallest number has none by minus one. -/
def divide (compute : Int64 → Int64 → Int64) (a b : Int64) : Computes Int64 :=
  if b = 0 then refuse "division by zero"
  else if b = -1 && a = Int64.minValue then throw (Stop.killed Signal.arithmetic)
  else return compute a b

/-- What an operator makes of two numbers. -/
def apply (op : Operator) (a b : Int64) : Computes Int64 :=
  match op with
  | .times => return a * b
  | .quotient => divide (· / ·) a b
  | .modulo => divide (· % ·) a b
  | .plus => return a + b
  | .minus => return a - b
  | .left => return a <<< b
  | .right => return a >>> b
  | .less => return ofBool (decide (a < b))
  | .lessEqual => return ofBool (decide (a ≤ b))
  | .greater => return ofBool (decide (b < a))
  | .greaterEqual => return ofBool (decide (b ≤ a))
  | .equal => return ofBool (a == b)
  | .unequal => return ofBool (a != b)
  | .and => return a &&& b
  | .xor => return a ^^^ b
  | .or => return a ||| b

/-- The number that the value of a variable is. -/
def valueOf (name : Octets) : Run Int64 := do
  let s := (← Run.value? name).getD []
  match Numeral.ofValue? s with
  | some n => return Int64.ofInt n
  | none => Run.failNumber s

/-- Gives a variable a number as its value. -/
def setNumber (name : Octets) (n : Int64) : Run Unit := Run.setValue name (toString n).toList

mutual

/-- Reads a number, a variable, a formula between parentheses, or one of these after signs. -/
def primary : Nat → Bool → Computes Int64
  | 0, _ => refuse "expecting primary"
  | steps + 1, isIdle => do
    match ← next with
    | .number n => return n
    | .name s => if isIdle then return 0 else (valueOf s : Run Int64)
    | .sign "(" =>
      let a ← whole steps isIdle
      if ← accept ")" then return a else refuse "expecting ')'"
    | .sign "+" => primary steps isIdle
    | .sign "-" => return -(← primary steps isIdle)
    | .sign "!" => return ofBool ((← primary steps isIdle) == 0)
    | .sign "~" => return ~~~(← primary steps isIdle)
    | _ => refuse "expecting primary"

/-- Reads what follows an operator, and further operators that bind tighter than a level. -/
def climb : Nat → Bool → Int64 → Operator → Nat → Computes Int64
  | 0, _, _, _, _ => refuse "expecting primary"
  | steps + 1, isIdle, a, op, limit => do
    let b ← primary steps isIdle
    let b ← match ← peekOperator? with
      | some tighter =>
        if tighter.level < op.level then
          let _ ← next
          climb steps isIdle b tighter op.level
        else pure b
      | none => pure b
    let a ← if isIdle then pure b else apply op a b
    match ← peekOperator? with
    | some op =>
      if op.level < limit then
        let _ ← next
        climb steps isIdle a op limit
      else return a
    | none => return a

/-- Reads operands with operators between them. -/
def binary : Nat → Bool → Computes Int64
  | 0, _ => refuse "expecting primary"
  | steps + 1, isIdle => do
    let a ← primary steps isIdle
    match ← peekOperator? with
    | some op =>
      let _ ← next
      climb steps isIdle a op topLevel
    | none => return a

/-- Reads conditions that have to hold together. -/
def conjunction : Nat → Bool → Computes Int64
  | 0, _ => refuse "expecting primary"
  | steps + 1, isIdle => do
    let a ← binary steps isIdle
    if ← accept "&&" then
      let b ← conjunction steps (isIdle || a == 0)
      return ofBool (a != 0 && b != 0)
    else return a

/-- Reads conditions of which one has to hold. -/
def disjunction : Nat → Bool → Computes Int64
  | 0, _ => refuse "expecting primary"
  | steps + 1, isIdle => do
    let a ← conjunction steps isIdle
    if ← accept "||" then
      let b ← disjunction steps (isIdle || a != 0)
      return ofBool (a != 0 || b != 0)
    else return a

/-- Reads a formula that gives no value to a variable, or a choice between formulas. -/
def chosen : Nat → Bool → Computes Int64
  | 0, _ => refuse "expecting primary"
  | steps + 1, isIdle => do
    let a ← disjunction steps isIdle
    if ← accept "?" then
      let yes ← whole steps (isIdle || a == 0)
      if ← accept ":" then
        let no ← chosen steps (isIdle || a != 0)
        return if a != 0 then yes else no
      else refuse "expecting ':'"
    else return a

/-- Reads a formula. -/
def whole : Nat → Bool → Computes Int64
  | 0, _ => refuse "expecting primary"
  | steps + 1, isIdle => do
    let start ← get
    match ← next with
    | .name name =>
      match ← peek with
      | .sign sign =>
        match assignments.lookup sign with
        | some op =>
          let _ ← next
          let b ← whole steps isIdle
          if isIdle then return b
          else
            let n ← match op with
              | none => pure b
              | some op => apply op (← (valueOf name : Run Int64)) b
            (setNumber name n : Run Unit)
            return n
        | none =>
          set start
          chosen steps isIdle
      | _ =>
        set start
        chosen steps isIdle
    | _ =>
      set start
      chosen steps isIdle

end

/-- Reads a formula that takes up the whole text. -/
def complete : Computes Int64 := do
  let n ← whole (8 * (← get).text.length + 8) false
  if (← peek) = .ending then return n else refuse "expecting EOF"

/-- What the text of a formula comes to. -/
def compute (s : Octets) : Run Octets := do
  let (n, _) ← complete.run ⟨s, s⟩
  return (toString n).toList

end Formula

end CompilerFlags.Script
