import CompilerFlags.Script.Children
import CompilerFlags.Script.Field
import CompilerFlags.Script.Options

/-!
# Commands that deal with variables and parameters
-/

namespace CompilerFlags.Script.Builtin

/-- Writes variables in their order, with a text in front. -/
def listVariables (start : Octets) (isListed : Variable → Bool) : Run Unit := do
  let listed := (← get).bindings.filter fun v => isListed v.2
  let sorted := listed.mergeSort fun a b => octetsBefore a.1 b.1
  sorted.forM fun v =>
    let value := match v.2.value with
      | some s => '=' :: quoted s
      | none => []
    Run.writeLine (start ++ v.1 ++ value)

/-- Marks a variable, and gives it a value if there is one in the text. -/
def markOne (mark : Variable → Variable) (text : Octets) : Run Unit := do
  let (name, value) := splitAssignment text
  match value, ← Run.find? name with
  | none, some v => Run.putVariable name (some (mark v))
  | value, _ => Run.assignChecked name (mark (.plain value))

/-- Marks variables, or lists those that are marked. -/
def markCommand (name : String) (mark : Variable → Variable) (isMarked : Variable → Bool)
    (arguments : List Octets) : Run Nat := do
  match arguments with
  | ('-' :: 'p' :: _) :: _ => listVariables (name ++ " ").toList isMarked
  | _ =>
    match ← Options.after arguments with
    | [] => listVariables (name ++ " ").toList isMarked
    | rest => rest.forM (markOne mark)
  return 0

/-- The command `export`: variables become visible to other programs. -/
def exportCommand : List Octets → Run Nat :=
  markCommand "export" (fun v => { v with isExported := true }) (·.isExported)

/-- The command `readonly`: variables keep their values. -/
def readonlyCommand : List Octets → Run Nat :=
  markCommand "readonly" (fun v => { v with isFixed := true }) (·.isFixed)

/-- The command `local`: variables get their values back after the command that is running. -/
def localCommand (arguments : List Octets) : Run Nat := do
  if (← get).saved.isEmpty then Run.fail "not in a function".toList
  else
    arguments.forM fun text => Run.makeLocal text false
    return 0

/-- The command `unset`: takes the values of variables away, or the commands that have a name. -/
def unsetCommand (arguments : List Octets) : Run Nat := do
  let (options, names) ← Options.read [('v', false), ('f', false)] arguments
  if (options.getLast?.map (·.1)) = some 'f' then
    modify fun sh => { sh with functions := sh.functions.filter fun f => !names.contains f.1 }
  else names.forM Run.unset
  return 0

/-- The command `set`: sets how the script runs, and its parameters. -/
def setCommand (arguments : List Octets) : Run Nat := do
  if arguments.isEmpty then listVariables [] (·.value.isSome)
  else
    let asked ← Setting.turnAll false arguments
    Setting.settle
    if asked.isEmpty || !asked.rest.isEmpty then Run.setParameters asked.rest
  return 0

/-- The command `shift`: drops parameters. -/
def shiftCommand (arguments : List Octets) : Run Nat := do
  let n ← match arguments with
    | [] => pure 1
    | s :: _ => Run.count s
  let parameters := (← get).parameters
  if parameters.length < n then Run.fail "can't shift that many".toList
  else
    Run.setParameters (parameters.drop n)
    return 0

/-! ### Reading -/

/-- A line that was read. -/
structure Line where
  /-- What was read; octets that were escaped are not split. -/
  segments : List Segment
  /-- How many octets were read, with those that ended the line. -/
  length : Nat
  /-- Whether there was a line break. -/
  isComplete : Bool

/-- A line after octets in front, which are given in the reverse order. -/
def Line.after (done : Octets) (consumed : Nat) (l : Line) : Line :=
  { l with
    segments := ⟨done.reverse.map (.octet · false), .atSeparators⟩ :: l.segments
    length := consumed + l.length }

/-- Splits a line off.  Unless it is taken as it is, a backslash escapes the octet after it, which
is then no separator, and joins lines.  The octets since the last escaped one are given in the
reverse order, with the number of all that were read with them. -/
def takeLine (isRaw : Bool) : Bool → Octets → Nat → Octets → Line
  | _, done, n, [] => Line.after done n ⟨[], 0, false⟩
  | isEscaped, done, n, c :: rest =>
    if c = '\x00' then takeLine isRaw isEscaped done (n + 1) rest
    else if isEscaped then
      let later := takeLine isRaw false [] 0 rest
      let escaped : List Segment := if c = '\n' then [] else [⟨[.octet c true], .never⟩]
      Line.after done (n + 1) { later with segments := escaped ++ later.segments }
    else if c = '\\' && !isRaw then takeLine isRaw true done (n + 1) rest
    else if c = '\n' then Line.after done (n + 1) ⟨[], 0, true⟩
    else takeLine isRaw false (c :: done) (n + 1) rest

/-- Reads a line from a handle after octets that were read already, in at most so many parts.  A
signal for which commands have to run ends the line. -/
def readRest (isRaw : Bool) (n : Nat) : Nat → Octets → Run Line
  | 0, start => return takeLine isRaw false [] 0 start
  | parts + 1, start => do
    match ← Run.availableOrSignal n with
    | [] => return takeLine isRaw false [] 0 start
    | s =>
      let line := takeLine isRaw false [] 0 (start ++ s)
      Run.skip n (line.length - start.length)
      if line.isComplete then return line else readRest isRaw n parts (start ++ s)

/-- Reads a line from the channel for input. -/
def readLine (isRaw : Bool) : Run Line := do
  match ← Run.handleOf? 0 with
  | none => return ⟨[], 0, false⟩
  | some n => readRest isRaw n Run.partLimit []

/-- Gives values to variables; those for which none is left become empty. -/
def fill : List Octets → List Octets → Run Unit
  | [], _ => return ()
  | name :: names, values => do
    Run.setValue name (values.headD [])
    fill names values.tail

/-- The command `read`: gives the fields of a line to variables. -/
def readCommand (arguments : List Octets) : Run Nat := do
  let (options, names) ← Options.read [('p', true), ('r', false)] arguments
  if names.isEmpty then Run.fail "arg count".toList
  else
    let line ← readLine (options.any (·.1 = 'r'))
    let fields := fieldsOf (← Run.separators) (some names.length) line.segments
    fill names (fields.map Cell.plain)
    return if line.isComplete then 0 else 1

/-! ### Reading options -/

/-- The variable that tells where the next option is looked for. -/
def optionIndex : Octets := "OPTIND".toList

/-- The variable for the value of an option. -/
def optionValue : Octets := "OPTARG".toList

/-- What is left of the argument whose letters are being read. -/
def openLetters? (arguments : List Octets) (state : Nat × Option Nat) : Option Octets :=
  match state with
  | (index, some offset) =>
    if index ≤ 1 then none
    else
      (arguments[index - 2]?).bind fun a => if a.length < offset then none else some (a.drop offset)
  | (_, none) => none

/-- Writes a complaint of a script about its own options. -/
def complainOfOption (before after : String) (c : Char) : Run Unit :=
  Run.writeError (before.toList ++ c :: after.toList ++ ['\n'])

/-- Ends the reading of an option: the next one is looked for from an argument on, of which some
letters may be left. -/
def endOption (arguments : List Octets) (name : Octets) (index : Nat)
    (letters : Option Octets) (answer : Char) : Run Unit := do
  Run.assignQuietly optionIndex (numberText index)
  Run.setValue name [answer]
  let length := ((arguments[index - 2]?).getD []).length
  modify fun sh => { sh with nextOption := (index, letters.map fun s => length - s.length) }

/-- Whether the option of a letter has a value, which a colon after the letter tells. -/
def takesValue? (c : Char) : Octets → Option Bool
  | [] => none
  | d :: ':' :: rest => if c = d then some true else takesValue? c rest
  | d :: rest => if c = d then some false else takesValue? c rest

/-- Reads an option of a letter.  Its letters and the index of the next argument are known. -/
def takeOption (known name : Octets) (arguments : List Octets) (index : Nat)
    (c : Char) (letters : Octets) : Run Nat := do
  let isSilent := known.head? = some ':'
  let known := if isSilent then known.tail else known
  let finish := endOption arguments name
  match takesValue? c known with
  | none =>
    if isSilent then Run.setValue optionValue [c]
    else
      complainOfOption "Illegal option -" "" c
      Run.unset optionValue
    finish index (some letters) '?'
  | some true =>
    match letters, arguments[index - 1]? with
    | [], none =>
      if isSilent then Run.setValue optionValue [c]
      else
        complainOfOption "No arg for -" " option" c
        Run.unset optionValue
      finish index none (if isSilent then ':' else '?')
    | [], some value =>
      Run.setValue optionValue value
      finish (index + 1) none c
    | value, _ =>
      Run.setValue optionValue value
      finish index none c
  | some false =>
    Run.setValue optionValue []
    finish index (some letters) c
  return 0

/-- Reads the next option of some arguments.  If a variable cannot get its value, the first option
comes next. -/
def nextOption (known name : Octets) (arguments : List Octets) : Run Nat := do
  let state := (← get).nextOption
  modify fun sh => { sh with nextOption := (1, none) }
  match openLetters? arguments state with
  | some (c :: letters) => takeOption known name arguments state.1 c letters
  | _ =>
    match arguments[state.1 - 1]? with
    | some ('-' :: c :: letters) =>
      if c = '-' && letters.isEmpty then
        endOption arguments name (state.1 + 1) none '?'
        return 1
      else takeOption known name arguments (state.1 + 1) c letters
    | _ =>
      endOption arguments name state.1 none '?'
      return 1

/-- The command `getopts`: reads the next option of the parameters, or of other arguments. -/
def getoptsCommand (arguments : List Octets) : Run Nat := do
  match arguments with
  | known :: name :: others =>
    let sh ← get
    let arguments := if others.isEmpty then sh.parameters else others
    if arguments.length + 1 < sh.nextOption.1 then Run.startOptions 1
    nextOption known name arguments
  | _ => Run.fail "Usage: getopts optstring var [arg...]".toList

end CompilerFlags.Script.Builtin
