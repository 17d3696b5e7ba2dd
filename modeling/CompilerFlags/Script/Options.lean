import CompilerFlags.Script.Variable

/-!
# Options and settings

Commands take options: letters after a dash in front of the other arguments, some of which have a
value.  Two dashes end the options.

The settings of a script are turned on by letters after a dash and off by letters after a plus sign;
the letter `o` is followed by the name of a setting.
-/

namespace CompilerFlags.Script

namespace Options

/-- The options of a command: letters, and whether they have a value. -/
abbrev Known := List (Char × Bool)

/-- The options that were found, and the arguments after them. -/
abbrev Found := List (Char × Octets) × List Octets

/-- Fails because of a letter that is no option. -/
def refuse {α : Type} (c : Char) : Run α := Run.fail ("Illegal option -".toList ++ [c])

/-- Reads the options in the letters of an argument. -/
def ofLetters (known : Known) : Octets → List Octets → Run Found
  | [], rest => return ([], rest)
  | c :: letters, rest => do
    match known.lookup c with
    | none => refuse c
    | some false =>
      let (options, rest) ← ofLetters known letters rest
      return ((c, []) :: options, rest)
    | some true =>
      match letters, rest with
      | [], [] => Run.fail ("No arg for -".toList ++ c :: " option".toList)
      | [], value :: rest => return ([(c, value)], rest)
      | value, rest => return ([(c, value)], rest)

/-- Reads the options in front of arguments, of which there are fewer than a number. -/
def within (known : Known) : Nat → List Octets → Run Found
  | 0, arguments => return ([], arguments)
  | steps + 1, arguments => do
    match arguments with
    | ('-' :: '-' :: []) :: rest => return ([], rest)
    | ('-' :: c :: letters) :: rest =>
      let (options, rest) ← ofLetters known (c :: letters) rest
      let (others, rest) ← within known steps rest
      return (options ++ others, rest)
    | _ => return ([], arguments)

/-- Reads the options in front of arguments. -/
def read (known : Known) (arguments : List Octets) : Run Found :=
  within known (arguments.length + 1) arguments

/-- The arguments of a command that has no options. -/
def after (arguments : List Octets) : Run (List Octets) := do return (← read [] arguments).2

end Options

namespace Setting

/-- Turns the setting of a letter on or off. -/
def turnLetter (isOn : Bool) (c : Char) : Run Unit :=
  match settings.find? fun s => s.2.2 = some c with
  | some s => Run.turn s.1 isOn
  | none => Options.refuse c

/-- Fills a text with blanks. -/
def filled (width : Nat) (s : String) : String :=
  s ++ String.ofList (List.replicate (width - s.length) ' ')

/-- Writes the settings, or commands that bring them about. -/
def list (isTable : Bool) : Run Unit := do
  let on := (← get).settings
  if isTable then Run.writeLine "Current option settings".toList
  settings.forM fun s =>
    let isOn := on.contains s.1
    Run.writeLine (if isTable then filled 16 s.2.1 ++ (if isOn then "on" else "off")
      else (if isOn then "set -o " else "set +o ") ++ s.2.1).toList

/-- Turns the setting with a name on or off. -/
def turnNamed (isOn : Bool) (name : Octets) : Run Unit :=
  match settings.find? fun s => s.2.1.toList = name with
  | some s => Run.turn s.1 isOn
  | none => Run.fail ("Illegal option -o ".toList ++ name)

/-- What arguments ask for besides settings. -/
structure Asked where
  /-- What is left of the arguments. -/
  rest : List Octets
  /-- Whether the first argument that is left is a text to be run. -/
  isText : Bool
  /-- Whether the settings are followed by nothing although an argument has ended them. -/
  isEmpty : Bool

/-- Turns the settings of letters on or off.  When the shell is called there are further letters. -/
def turnLetters (isCall isOn : Bool) : Octets → List Octets → Run Asked
  | [], rest => return ⟨rest, false, false⟩
  | c :: letters, rest => do
    if isCall && c = 'c' then
      return { ← turnLetters isCall isOn letters rest with isText := true }
    else if isCall && c = 'l' then turnLetters isCall isOn letters rest
    else if c = 'o' then
      match rest with
      | [] => list isOn
      | name :: _ => turnNamed isOn name
      turnLetters isCall isOn letters rest.tail
    else
      turnLetter isOn c
      turnLetters isCall isOn letters rest

/-- Turns settings on or off as arguments ask for it, of which there are fewer than a number. -/
def turnWithin (isCall : Bool) : Nat → List Octets → Run Asked
  | 0, arguments => return ⟨arguments, false, false⟩
  | steps + 1, arguments => do
    match arguments with
    | ['-'] :: rest =>
      if !isCall then
        Run.turn .showsCommands false
        Run.turn .showsLines false
      return ⟨rest, false, false⟩
    | ['-', '-'] :: rest => return ⟨rest, false, rest.isEmpty⟩
    | (c :: letters) :: rest =>
      if c = '-' || c = '+' then
        let first ← turnLetters isCall (c = '-') letters rest
        let others ← turnWithin isCall steps first.rest
        return { others with isText := first.isText || others.isText }
      else return ⟨arguments, false, false⟩
    | _ => return ⟨arguments, false, false⟩

/-- Turns settings on or off as arguments ask for it. -/
def turnAll (isCall : Bool) (arguments : List Octets) : Run Asked :=
  turnWithin isCall (arguments.length + 1) arguments

/-- Gives up the control of jobs, for which there is no terminal. -/
def settle : Run Unit := do
  if (← Run.has .controlsJobs) && !(← get).isInner then
    Run.turn .controlsJobs false
    Run.complain "can't access tty; job control turned off".toList

end Setting

/-- Gives the script other parameters. -/
def Run.setParameters (parameters : List Octets) : Run Unit := modify fun sh =>
  { sh with parameters := parameters, nextOption := (1, none) }

end CompilerFlags.Script
