import CompilerFlags.Data.Json.Printer
import CompilerFlags.Report
import CompilerFlags.Text

/-!
# The console

What a run tells its user is a sequence of events.  The console shows them in one of two modes that
exclude each other: for people, as lines on the error stream, or for programs, as one line of JSON
on the output stream for each check.  In quiet mode people see nothing.

The functions here give the text that an event adds to the two streams; nothing is printed.
-/

namespace CompilerFlags

/-- When to colour what people see. -/
inductive ColorChoice
  /-- If the error stream is a terminal. -/
  | auto
  | always
  | never
deriving DecidableEq, Repr

namespace ColorChoice

/-- The name of a choice. -/
def name : ColorChoice → String
  | auto => "auto"
  | always => "always"
  | never => "never"

/-- The choice that a user names; case does not matter.  No character outside ASCII has a small
form that occurs in these names, so the ASCII letters are all that matter. -/
def ofName? (s : String) : Option ColorChoice :=
  [auto, always, never].find? fun choice => choice.name = Text.lower s

/-- What is said about a name that no choice has. -/
def invalidMessage (s : String) : String :=
  "invalid color choice '" ++ s ++ "'; expected 'auto', 'always', or 'never'"

end ColorChoice

/-- How much people see. -/
inductive Verbosity
  | quiet
  | normal
  | verbose
deriving DecidableEq, Repr

/-- For whom events are shown. -/
inductive ConsoleMode
  | people (verbosity : Verbosity) (color : ColorChoice)
  | programs
deriving DecidableEq, Repr

/-- A place where events are shown. -/
structure Console where
  mode : ConsoleMode
  /-- Whether results are coloured. -/
  colored : Bool
deriving DecidableEq, Repr

/-- The kind of a status line. -/
inductive StatusKind
  | finished
  | saved
  | info
deriving DecidableEq, Repr

/-- Something to tell the user. -/
inductive Event
  /-- The result of a check. -/
  | check (report : Report)
  /-- How a run gets on. -/
  | status (kind : StatusKind) (message : String)
  /-- A message for programs only. -/
  | data (v : Value)

/-- A remark. -/
def Event.note (message : String) : Event := .status .info message

/-- What was written to the two streams. -/
structure Output where
  stdout : String
  stderr : String
deriving DecidableEq, Repr

namespace Output

/-- Nothing was written. -/
def empty : Output := ⟨"", ""⟩

/-- One output after another. -/
def append (a b : Output) : Output := ⟨a.stdout ++ b.stdout, a.stderr ++ b.stderr⟩

instance : Append Output := ⟨append⟩

/-- A line on the output stream. -/
def outLine (s : String) : Output := ⟨s ++ "\n", ""⟩

/-- A line on the error stream. -/
def errLine (s : String) : Output := ⟨"", s ++ "\n"⟩

end Output

/-- The terminal sequence that starts a colour. -/
def Color.code : Color → String
  | .green => "\x1b[32m"
  | .yellow => "\x1b[33m"
  | .red => "\x1b[31m"

/-- The terminal sequence that ends all colours. -/
def colorReset : String := "\x1b[0m"

namespace StatusKind

/-- The word that starts a status line. -/
def word : StatusKind → String
  | finished => "Finished"
  | saved => "Saved"
  | info => "Info"

/-- The terminal sequence for the word of a status line. -/
def code : StatusKind → String
  | finished => "\x1b[1;32m"
  | saved => "\x1b[1;32m"
  | info => "\x1b[1;34m"

end StatusKind

/-- The width of the column of status words. -/
def statusWidth : Nat := 12

/-- The width of the column of check messages. -/
def checkWidth : Nat := 40

/-- The fields of a report for programs. -/
def Report.toValue (r : Report) : Value :=
  .table [("color", .text r.color.name), ("message", .text r.message), ("reason", .text "check"),
    ("result", .text r.result)]

namespace Console

/-- The console in a mode; `terminal` tells whether the error stream is a terminal. -/
def ofMode (terminal : Bool) (mode : ConsoleMode) : Console where
  mode := mode
  colored :=
    match mode with
    | .programs => false
    | .people _ .auto => terminal
    | .people _ .always => true
    | .people _ .never => false

/-- The verbosity that two flags select; quiet is stronger. -/
def verbosity (quiet verbose : Bool) : Verbosity :=
  if quiet then .quiet else if verbose then .verbose else .normal

/-- The console that a user asks for.  JSON is stronger than everything about people. -/
def ofFlags (terminal quiet verbose : Bool) (color : ColorChoice) (json : Bool) : Console :=
  ofMode terminal (if json then .programs else .people (verbosity quiet verbose) color)

/-- Whether events are shown for programs. -/
def isJson (c : Console) : Bool :=
  match c.mode with
  | .programs => true
  | .people _ _ => false

/-- Whether people see nothing. -/
def isQuiet (c : Console) : Bool :=
  match c.mode with
  | .people .quiet _ => true
  | _ => false

/-- A text between a colour and its end, if results are coloured. -/
def paint (c : Console) (code text : String) : String :=
  if c.colored then code ++ text ++ colorReset else text

/-- The line for people that shows a report. -/
def checkLine (c : Console) (r : Report) : String :=
  Text.alignLeft checkWidth r.message ++ " : " ++ c.paint r.color.code r.result

/-- The line for people that shows how a run gets on. -/
def statusLine (c : Console) (kind : StatusKind) (message : String) : String :=
  c.paint kind.code (Text.alignRight statusWidth kind.word) ++ " " ++ message

/-- What an event adds to the streams. -/
def render (c : Console) (e : Event) : Output :=
  match c.mode, e with
  | .programs, .check r => .outLine (Json.print r.toValue)
  | .programs, .data v => .outLine (Json.print v)
  | .programs, .status _ _ => .empty
  | .people .quiet _, _ => .empty
  | .people _ _, .check r => .errLine (c.checkLine r)
  | .people _ _, .status kind message => .errLine (c.statusLine kind message)
  | .people _ _, .data _ => .empty

/-- What a sequence of events adds to the streams. -/
def renderAll (c : Console) (events : List Event) : Output :=
  events.foldl (fun out e => out ++ c.render e) .empty

end Console

end CompilerFlags
