import CompilerFlags.Host.Executable
import CompilerFlags.Script.Numeral
import CompilerFlags.Script.Shell

/-!
# Tests

`test` asks about files, texts and numbers.  Its arguments are a small language: properties in front
of their operand, comparisons between two operands, and connectives.  An argument that looks like an
operator is an operand where it cannot be one.
-/

namespace CompilerFlags.Script.Test

/-- What an argument may mean apart from being an operand. -/
inductive Sign
  | property
  | comparison
  | negation
  | both
  | either
  | opening
  | closing
deriving DecidableEq, Repr

/-- The properties of files, texts and channels. -/
def properties : List String :=
  ["-r", "-w", "-x", "-e", "-f", "-d", "-c", "-b", "-p", "-u", "-g", "-k", "-s", "-t", "-z", "-n",
    "-h", "-O", "-G", "-L", "-S"]

/-- The comparisons of texts and files. -/
def textComparisons : List String := ["=", "!=", "<", ">", "-nt", "-ot", "-ef"]

/-- The comparisons of numbers. -/
def numberComparisons : List (String × (Int → Int → Bool)) :=
  [("-eq", fun a b => a == b), ("-ne", fun a b => a != b), ("-lt", fun a b => decide (a < b)),
    ("-le", fun a b => decide (a ≤ b)), ("-gt", fun a b => decide (b < a)),
    ("-ge", fun a b => decide (b ≤ a))]

/-- What a text may mean. -/
def signOf? (s : String) : Option Sign :=
  if s ∈ properties then some .property
  else if s ∈ textComparisons || (numberComparisons.lookup s).isSome then some .comparison
  else
    match s with
    | "!" => some .negation
    | "-a" => some .both
    | "-o" => some .either
    | "(" => some .opening
    | ")" => some .closing
    | _ => none

/-- Whether an argument that looks like a property is an operand, because of the arguments after
it. -/
def isOperand : List Octets → Bool
  | [] => true
  | [_] => false
  | op :: _ => signOf? (String.ofList op) = some .comparison

/-- What the first argument means here. -/
def sign? (arguments : List Octets) : Option Sign :=
  match arguments with
  | [] => none
  | s :: rest =>
    match signOf? (String.ofList s) with
    | some .property => if isOperand rest then none else some .property
    | some .opening => if rest.isEmpty then none else some .opening
    | found => found

/-- The number that an operand is. -/
def number (s : Octets) : Except Octets Int :=
  match Numeral.whole? false s with
  | some n => .ok n
  | none => .error ("Illegal number: ".toList ++ s)

/-- Whether a property holds. -/
def holds (sh : Shell) (property : String) (s : Octets) : Bool :=
  match property, sh.find s with
  | "-n", _ => !s.isEmpty
  | "-z", _ => s.isEmpty
  | "-e", found => found.isOk
  | "-r", found => found.isOk
  | "-w", found => found.isOk
  | "-O", found => found.isOk
  | "-G", found => found.isOk
  | "-f", .ok (_, .file _ _) => true
  | "-d", .ok (_, .directory _) => true
  | "-c", .ok (_, .device d) => d ≠ .pipe
  | "-p", .ok (_, .device .pipe) => true
  | "-x", .ok (_, .directory _) => true
  | "-x", .ok (_, e) => e.isProgram
  | "-s", .ok (_, .file content _) => !content.isEmpty
  | "-s", .ok (_, .directory _) => true
  | _, _ => false

/-- Asks for a property.  No channel leads to a terminal. -/
def ask (sh : Shell) (property : String) (s : Octets) : Except Octets Bool :=
  if property = "-t" then (number s).map fun _ => false else .ok (holds sh property s)

/-- Compares two operands.  No file is newer than another. -/
def compare (sh : Shell) (a : Octets) (op : String) (b : Octets) : Except Octets Bool :=
  match numberComparisons.lookup op with
  | some compare => do
    let m ← number a
    let n ← number b
    .ok (compare m n)
  | none =>
    match op with
    | "=" => .ok (a = b)
    | "!=" => .ok (a ≠ b)
    | "<" => .ok (decide (String.ofList a < String.ofList b))
    | ">" => .ok (decide (String.ofList b < String.ofList a))
    | "-nt" => .ok false
    | "-ot" => .ok false
    | _ =>
      match sh.find a, sh.find b with
      | .ok (p, _), .ok (q, _) => .ok (p = q)
      | _, _ => .ok false

/-- The complaint about an operator that cannot stand where it does. -/
def unexpected : Octets := "unexpected operator".toList

/-- The answer of a part of a test and the arguments from the last one of that part on. -/
abbrev Answer := Except Octets (Bool × List Octets)

mutual

/-- Alternatives.  Whether the first argument is a sign is known. -/
def alternatives (sh : Shell) : Nat → Option Sign → List Octets → Answer
  | 0, _, _ => .error unexpected
  | steps + 1, sign, arguments => do
    let (first, rest) ← conjunction sh steps sign arguments
    if sign? rest.tail = some .either then do
      let rest := rest.drop 2
      let (others, rest) ← alternatives sh steps (sign? rest) rest
      .ok (first || others, rest)
    else .ok (first, rest)

/-- Conditions that have to hold together. -/
def conjunction (sh : Shell) : Nat → Option Sign → List Octets → Answer
  | 0, _, _ => .error unexpected
  | steps + 1, sign, arguments => do
    let (first, rest) ← condition sh steps sign arguments
    if sign? rest.tail = some .both then do
      let rest := rest.drop 2
      let (others, rest) ← conjunction sh steps (sign? rest) rest
      .ok (first && others, rest)
    else .ok (first, rest)

/-- A condition, perhaps after negations. -/
def condition (sh : Shell) : Nat → Option Sign → List Octets → Answer
  | 0, _, _ => .error unexpected
  | steps + 1, sign, arguments =>
    if sign = some .negation then
      match arguments.tail with
      | [] => .ok (true, arguments)
      | rest => do
        let (answer, rest) ← condition sh steps (sign? rest) rest
        .ok (!answer, rest)
    else single sh steps sign arguments

/-- A condition without a negation. -/
def single (sh : Shell) : Nat → Option Sign → List Octets → Answer
  | 0, _, _ => .error unexpected
  | steps + 1, sign, arguments =>
    match sign, arguments with
    | _, [] => .ok (false, [])
    | some .opening, _ :: rest =>
      if sign? rest = some .closing then .ok (false, rest)
      else do
        let (answer, rest) ← alternatives sh steps (sign? rest) rest
        if sign? rest.tail = some .closing then .ok (answer, rest.tail)
        else .error "closing paren expected".toList
    | some .property, op :: rest =>
      match rest with
      | [] => .error (op ++ ": argument expected".toList)
      | s :: _ => do
        let answer ← ask sh (String.ofList op) s
        .ok (answer, rest)
    | _, s :: rest =>
      if sign? rest = some .comparison then
        match rest with
        | op :: b :: more => do
          let answer ← compare sh s (String.ofList op) b
          .ok (answer, b :: more)
        | op :: [] => .error (op ++ ": argument expected".toList)
        | [] => .ok (!s.isEmpty, arguments)
      else .ok (!s.isEmpty, arguments)

end

/-- Evaluates a test whose first argument has a known meaning. -/
def evaluate (sh : Shell) (sign : Option Sign) (arguments : List Octets) : Except Octets Bool :=
  match alternatives sh (4 * arguments.length + 4) sign arguments with
  | .error e => .error e
  | .ok (answer, rest) =>
    match rest with
    | next :: _ :: _ =>
      .error (if next.isEmpty then unexpected else next ++ ": ".toList ++ unexpected)
    | _ => .ok answer

/-- Evaluates a test.  Three or four arguments are read in a way of their own, so that operands that
look like operators do no harm; there a second negation changes nothing. -/
def runFrom (sh : Shell) : Nat → Bool → List Octets → Except Octets Bool
  | 0, isNegated, _ => .ok isNegated
  | _ + 1, isNegated, [] => .ok isNegated
  | steps + 1, isNegated, first :: rest =>
    let isShort := rest.length = 2 || rest.length = 3
    if rest.length = 2 &&
        (rest.head?.bind fun op => signOf? (String.ofList op)) = some .comparison then
      (evaluate sh none (first :: rest)).map (· != isNegated)
    else if isShort && first = ['('] && rest.getLast? = some [')'] then
      (evaluate sh (sign? rest.dropLast) rest.dropLast).map (· != isNegated)
    else if isShort && first = ['!'] then runFrom sh steps true rest
    else (evaluate sh (sign? (first :: rest)) (first :: rest)).map (· != isNegated)

/-- Evaluates a test. -/
def run (sh : Shell) (arguments : List Octets) : Except Octets Bool :=
  runFrom sh (arguments.length + 1) false arguments

end CompilerFlags.Script.Test
