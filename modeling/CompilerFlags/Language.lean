import CompilerFlags.OrderedSet
import CompilerFlags.Text

/-!
# Languages and target languages

Flags are looked for on behalf of C, of C++, or of both.  A `Language` is named by a token in
which neither case nor outer blanks matter.  A `Selector` is what a user writes (one token or a
list of tokens), and `Targets.resolve` turns it into the duplicate-free list of languages that it
names, in the order of their first mention.

An absent selector stands for both languages.  A list with a bad token is refused for the first
bad token, exactly as it was written; a list without tokens is refused as empty.
-/

namespace CompilerFlags

/-- A language whose compiler is asked about flags. -/
inductive Language
  | c
  | cpp
deriving DecidableEq, Repr

namespace Language

/-- Both languages, in the order in which they are tried by default. -/
def all : List Language := [c, cpp]

/-- The name of the language in reports. -/
def name : Language → String
  | c => "c"
  | cpp => "c++"

/-- The build variable that holds the compiler flags of the language. -/
def flagsVariable : Language → String
  | c => "CFLAGS"
  | cpp => "CXXFLAGS"

/-- The file extension of a source text in the language. -/
def sourceExtension : Language → String
  | c => "c"
  | cpp => "cpp"

/-- The spellings of the languages, in the letters that `lower` leaves. -/
def spellings : List (String × Language) :=
  [("c", c), ("c++", cpp), ("cxx", cpp)]

/-- The language with exactly the given spelling. -/
def ofSpelling? (s : String) : Option Language :=
  spellings.lookup s

/-- The language that a token names; case and outer blanks do not matter. -/
def ofToken? (token : String) : Option Language :=
  ofSpelling? (Text.lower (Text.trim token))

end Language

/-- Why a selector names no languages. -/
inductive LanguageError
  /-- The token names no language. -/
  | unsupported (token : String)
  /-- The list of tokens is empty. -/
  | empty
deriving DecidableEq, Repr

/-- The wording of a language error. -/
def LanguageError.message : LanguageError → String
  | unsupported token => "unsupported language `" ++ token ++ "`, expected one of: c, c++, cxx"
  | empty => "language list is empty"

/-- The languages that a user asks for: one token, or a list of them. -/
inductive Selector
  | one (token : String)
  | many (tokens : List String)
deriving DecidableEq, Repr

/-- The tokens of a selector. -/
def Selector.tokens : Selector → List String
  | one token => [token]
  | many tokens => tokens

/-- The languages that flags are looked for, in the order in which they are tried. -/
abbrev Targets := OrderedSet Language

namespace Targets

/-- Both languages. -/
def both : Targets := OrderedSet.ofList Language.all

/-- The language of the first token; single checks are made in it. -/
def primary? (t : Targets) : Option Language := t.toList.head?

/-- The names of the languages, separated by commas. -/
def display (t : Targets) : String :=
  Text.join ", " (t.toList.map Language.name)

/-- The languages of a list of tokens, or the first token that names none. -/
def languages : List String → Except LanguageError (List Language)
  | [] => .ok []
  | token :: rest =>
    match Language.ofToken? token with
    | none => .error (.unsupported token)
    | some l => (languages rest).map (l :: ·)

/-- The languages that a selector names; both if there is no selector. -/
def resolve : Option Selector → Except LanguageError Targets
  | none => .ok both
  | some selector =>
    match languages selector.tokens with
    | .error e => .error e
    | .ok [] => .error .empty
    | .ok (l :: ls) => .ok (OrderedSet.ofList (l :: ls))

end Targets

end CompilerFlags
