import CompilerFlags.Script.Syntax

/-!
# Escapes in what scripts write

A backslash gives the octet after it another meaning.  `echo` knows these escapes in its arguments,
and `printf` knows them in its format.  One escape, a small `c`, ends the output.
-/

namespace CompilerFlags.Script

/-- The escapes of one letter, with the octets that they stand for. -/
def letterEscapes : List (Char × Char) :=
  [('\\', '\\'), ('a', '\x07'), ('b', '\x08'), ('e', '\x1b'), ('f', '\x0c'), ('n', '\n'),
    ('r', '\r'), ('t', '\t'), ('v', '\x0b')]

/-- The octal digits. -/
def isOctal (c : Char) : Bool := '0' ≤ c && c ≤ '7'

/-- The octet with at most three octal digits, of which some were read. -/
def octal : Nat → Nat → Octets → Char × Octets
  | 0, value, s => (Char.ofNat (value % 256), s)
  | digits + 1, value, s =>
    match s with
    | [] => (Char.ofNat (value % 256), [])
    | c :: rest =>
      if isOctal c then octal digits (value * 8 + (c.toNat - 48)) rest
      else (Char.ofNat (value % 256), c :: rest)

/-- What follows a backslash stands for an octet.  If it means nothing, the backslash stands for
itself. -/
def escape (s : Octets) : Char × Octets :=
  match s with
  | [] => ('\\', [])
  | c :: rest =>
    if isOctal c then octal 3 0 s
    else
      match letterEscapes.lookup c with
      | some d => (d, rest)
      | none => ('\\', s)

/-- An octal escape may have a zero in front of its three digits. -/
def skipZero (s : Octets) : Octets :=
  match s with
  | '0' :: c :: rest => if isOctal c then c :: rest else s
  | _ => s

/-- The octets that an argument of `echo` stands for, and whether the output goes on. -/
def unescapeWithin : Nat → Octets → Octets × Bool
  | 0, _ => ([], true)
  | _ + 1, [] => ([], true)
  | _ + 1, '\\' :: 'c' :: _ => ([], false)
  | steps + 1, '\\' :: s =>
    let read := escape (skipZero s)
    let more := unescapeWithin steps read.2
    (read.1 :: more.1, more.2)
  | steps + 1, c :: s =>
    let more := unescapeWithin steps s
    (c :: more.1, more.2)

/-- The octets that an argument of `echo` stands for, and whether the output goes on. -/
def unescape (s : Octets) : Octets × Bool := unescapeWithin s.length s

/-- Arguments with blanks between them and a line break at the end; an argument may end the output
early. -/
def echoArguments (lineBreak : Bool) : List Octets → Octets
  | [] => if lineBreak then ['\n'] else []
  | [s] =>
    let read := unescape s
    read.1 ++ (if read.2 && lineBreak then ['\n'] else [])
  | s :: rest =>
    let read := unescape s
    if read.2 then read.1 ++ ' ' :: echoArguments lineBreak rest else read.1

/-- What `echo` writes. -/
def echo (arguments : List Octets) : Octets :=
  match arguments with
  | ['-', 'n'] :: rest => echoArguments false rest
  | _ => echoArguments true arguments

end CompilerFlags.Script
