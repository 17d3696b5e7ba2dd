import CompilerFlags.Data.Octets

/-!
# The structure of scripts

Programs are kept as scripts in the command language of the shell.  A script is a row of commands,
and a command is made of words.  A word is a row of pieces: octets that stand for themselves, the
value of a parameter, the output of other commands, or what a formula comes to.  Pieces remember
whether they were quoted, because what comes out of quoted ones is neither split nor read as a
pattern.  A quotation mark is a piece as well: a word with one in it stands for an argument even if
nothing else is left of it.

All texts in a script are rows of octets.
-/

namespace CompilerFlags.Script

/-- How a file is opened. -/
inductive Opening
  | read
  /-- The file starts empty, unless files that are there must be spared. -/
  | write
  /-- The file starts empty in any case. -/
  | replace
  | append
  /-- The file is read and written from its start. -/
  | both
deriving DecidableEq, Repr

mutual

/-- A piece of a word. -/
inductive Piece
  | octet (c : Char) (isQuoted : Bool)
  /-- A quotation mark. -/
  | mark
  /-- The value of a parameter. -/
  | value (isQuoted : Bool) (name : Octets) (use : Use)
  /-- What commands write. -/
  | output (isQuoted : Bool) (body : Option Command)
  /-- What a formula comes to. -/
  | number (isQuoted : Bool) (formula : List Piece)

/-- What is made of the value of a parameter. -/
inductive Use
  | plain
  | length
  /-- Another word if the parameter is not set, or is empty where that counts as well. -/
  | otherwise (emptyToo : Bool) (word : List Piece)
  /-- Another word if the parameter is set, and is not empty where that counts as well. -/
  | instead (emptyToo : Bool) (word : List Piece)
  /-- Another word, which also becomes the value, where `otherwise` would take it. -/
  | settling (emptyToo : Bool) (word : List Piece)
  /-- A complaint where `otherwise` would take another word. -/
  | insisting (emptyToo : Bool) (complaint : List Piece)
  /-- The value without what matches a pattern at its start or end, as much as possible or as little
  as possible. -/
  | trim (atEnd : Bool) (greedy : Bool) (pattern : List Piece)
  /-- Something that has no meaning; this is an error only when the value is asked for. -/
  | meaningless

/-- A change of a channel for the length of a command.  Channels have numbers below ten. -/
inductive Redirection
  | file (channel : Nat) (opening : Opening) (name : List Piece)
  /-- The channel reads a text that stands below the line; the texts have numbers. -/
  | text (channel : Nat) (number : Nat)
  /-- The channel goes where another one goes. -/
  | copy (channel : Nat) (source : Nat)
  /-- The channel goes where the one goes whose number a word comes to. -/
  | copyNamed (channel : Nat) (source : List Piece)
  | close (channel : Nat)

/-- A command.  Some commands remember the line on which they start. -/
inductive Command
  | simple (line : Nat) (assignments : List (Octets × List Piece)) (words : List (List Piece))
      (changes : List Redirection)
  | redirected (line : Nat) (body : Command) (changes : List Redirection)
  | sequence (commands : List Command)
  | both (first second : Command)
  | either (first second : Command)
  | negated (body : Command)
  /-- Each command reads what the one before it writes. -/
  | pipe (commands : List Command)
  /-- A command that is not waited for. -/
  | background (line : Nat) (body : Command)
  /-- Commands whose changes to variables are forgotten. -/
  | inner (line : Nat) (body : Command) (changes : List Redirection)
  | branch (condition yes : Command) (no : Option Command)
  /-- Repeats commands as long as the condition ends as is expected. -/
  | loop (expected : Bool) (condition body : Command)
  /-- Repeats commands for words. -/
  | each (line : Nat) (name : Octets) (words : List (List Piece)) (body : Command)
  | choose (line : Nat) (subject : List Piece)
      (cases : List (List (List Piece) × Option Command))
  /-- Gives a command a name. -/
  | define (line : Nat) (name : Octets) (body : Command)

end

/-- A word. -/
abbrev Word := List Piece

/-- The command that does nothing. -/
def Command.nothing : Command := .sequence []

instance : Inhabited Command := ⟨.nothing⟩

/-! ### Names -/

/-- The octets that names start with. -/
def startsName (c : Char) : Bool := c.isAlpha || c = '_'

/-- The octets of names. -/
def isNameChar (c : Char) : Bool := c.isAlphanum || c = '_'

/-- Whether octets are a name. -/
def isName (s : Octets) : Bool := s.head?.any startsName && s.all isNameChar

/-- The names of the parameters that have no name made of letters. -/
def isSpecial (c : Char) : Bool :=
  c.isDigit || c = '@' || c = '*' || c = '#' || c = '?' || c = '$' || c = '!' || c = '-'

/-! ### Words -/

namespace Word

/-- Whether something in a word is quoted. -/
def hasQuotes (w : Word) : Bool :=
  w.any fun
    | .mark => true
    | .octet _ isQuoted => isQuoted
    | _ => false

/-- The octets of a word in which nothing is quoted and nothing stands for anything else. -/
def bare? (w : Word) : Option Octets :=
  w.mapM fun
    | .octet c false => some c
    | _ => none

/-- The octets of a word of which nothing is expanded. -/
def plainText (w : Word) : Octets :=
  w.filterMap fun
    | .octet c _ => some c
    | _ => none

/-- Splits an assignment into its name and the word for its value, after octets of the name in the
reverse order. -/
def assignmentFrom? (name : Octets) : Word → Option (Octets × Word)
  | .octet c false :: w =>
    if c = '=' then if isName name.reverse then some (name.reverse, w) else none
    else if isNameChar c then assignmentFrom? (c :: name) w
    else none
  | _ => none

/-- The name and the word for the value, if a word has the form of an assignment. -/
def assignment? (w : Word) : Option (Octets × Word) := assignmentFrom? [] w

end Word

/-! ### Tokens -/

/-- What a redirection does, as far as its sign tells. -/
inductive Arrow
  | file (opening : Opening)
  /-- A text below the line, perhaps without the tabs in front of its lines. -/
  | text (dropsTabs : Bool)
  | copy
deriving DecidableEq, Repr

/-- A token of a script. -/
inductive Token
  | ending
  | lineBreak
  | semicolon
  | background
  | both
  | either
  | pipe
  | opening
  | closing
  | endCase
  | arrow (channel : Nat) (arrow : Arrow)
  | word (w : Word)
  | keyword (name : String)

namespace Token

/-- A token as complaints show it. -/
def text : Token → String
  | ending => "end of file"
  | lineBreak => "newline"
  | semicolon => "\";\""
  | background => "\"&\""
  | both => "\"&&\""
  | either => "\"||\""
  | pipe => "\"|\""
  | opening => "\"(\""
  | closing => "\")\""
  | endCase => "\";;\""
  | arrow _ _ => "redirection"
  | word _ => "word"
  | keyword name => "\"" ++ name ++ "\""

/-- Whether a token is a certain keyword. -/
def isKeyword (name : String) : Token → Bool
  | keyword found => found = name
  | _ => false

/-- Whether a token ends a list of commands. -/
def endsList : Token → Bool
  | ending => true
  | closing => true
  | endCase => true
  | keyword name => name ∈ ["do", "done", "elif", "else", "esac", "fi", "then", "\x7d"]
  | _ => false

end Token

/-- The keywords. -/
def keywords : List String :=
  ["!", "case", "do", "done", "elif", "else", "esac", "fi", "for", "if", "in", "then", "until",
    "while", "\x7b", "\x7d"]

end CompilerFlags.Script
