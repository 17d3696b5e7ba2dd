import CompilerFlags.Script.Pattern
import CompilerFlags.Script.Variable

/-!
# The names of files that match a pattern

A pattern with stars, question marks or sets stands for the paths that match it, in their order.
Slashes have to be matched by slashes, and a dot at the start of a name by a dot.  Parts of the
pattern without anything special in them are taken as they are.
-/

namespace CompilerFlags.Script.FileNames

/-- Splits a pattern at its first slash, which may be escaped. -/
def part : Octets → Octets × Option Octets
  | [] => ([], none)
  | '/' :: rest => ([], some rest)
  | '\\' :: '/' :: rest => ([], some rest)
  | '\\' :: c :: rest =>
    let (s, after) := part rest
    ('\\' :: c :: s, after)
  | c :: rest =>
    let (s, after) := part rest
    (c :: s, after)

/-- Whether a set that was opened is closed.  The first octet belongs to the set. -/
def isClosed : Octets → Bool
  | [] => false
  | '\\' :: _ :: rest => rest.head? = some ']' || isClosed rest
  | ['\\'] => false
  | _ :: rest => rest.head? = some ']' || isClosed rest

/-- Whether a part of a pattern can match more than one name. -/
def isSpecial : Octets → Bool
  | [] => false
  | '\\' :: _ :: rest => isSpecial rest
  | c :: rest =>
    c = '*' || c = '?' ||
      (c = '[' && isClosed (if rest.head? = some '!' then rest.tail else rest)) || isSpecial rest

/-- A part of a pattern without the backslashes that escape octets. -/
def unescaped : Octets → Octets
  | '\\' :: c :: rest => c :: unescaped rest
  | c :: rest => c :: unescaped rest
  | [] => []

/-- The names in a directory that match a part of a pattern. -/
def namesIn (sh : Shell) (directory part : Octets) : List Octets :=
  match sh.find (if directory.isEmpty then ['.'] else directory) with
  | .ok (p, .directory _) =>
    let names := ".".toList :: "..".toList :: sh.namesIn p
    let items := Pattern.items part
    let asksForDot := (unescaped (part.take 2)).head? = some '.'
    names.filter fun name => (asksForDot || name.head? ≠ some '.') && Pattern.accepts items name
  | _ => []

/-- The paths that start with a directory and go on in a way that matches a pattern, which has at
most so many parts. -/
def pathsFrom (sh : Shell) : Nat → Octets → Octets → List Octets
  | 0, _, _ => []
  | parts + 1, directory, pattern =>
    match part pattern with
    | (s, none) =>
      if isSpecial s then (namesIn sh directory s).map (directory ++ ·)
      else
        let path := directory ++ unescaped s
        if (sh.find path).isOk then [path] else []
    | (s, some rest) =>
      let names := if isSpecial s then namesIn sh directory s else [unescaped s]
      names.flatMap fun name => pathsFrom sh parts (directory ++ name ++ ['/']) rest

/-- Whether a pattern can match more than one path. -/
def isPattern : Nat → Octets → Bool
  | 0, _ => false
  | parts + 1, pattern =>
    match part pattern with
    | (s, none) => isSpecial s
    | (s, some rest) => isSpecial s || isPattern parts rest

/-- The paths that match a pattern, in their order. -/
def matching (sh : Shell) (pattern : Octets) : List Octets :=
  let parts := pattern.length + 1
  if isPattern parts pattern then (pathsFrom sh parts [] pattern).mergeSort octetsBefore else []

end CompilerFlags.Script.FileNames
