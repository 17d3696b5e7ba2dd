import CompilerFlags.CommandLine.Invocation

/-!
# Reading the arguments of the command line

The arguments stand on two levels: options before the name of the command, and options and
parameters after it.  The common options may stand on either level; the inner level is the stronger
one, and a value that is written is stronger than one from the environment.

On each level an option is given at most once, unless it collects values.  The value of an option
is the next argument or follows an equals sign; it does not start with a dash, except that the flags
to try may.  After two dashes all arguments are parameters.  What breaks these rules is a usage
error.  So are `--help`, `help` and `completions`: texts of help and scripts for shells are not given
here.
-/

namespace CompilerFlags.CommandLine

/-- What an option says. -/
inductive Setting
  | verbose
  | quiet
  | color (choice : ColorChoice)
  | json (chosen : Bool)
  | state (path : String)
  | error
  | store (name : String)
  | language (token : String)
  | flag (flag : String)
  | dryRun
  | requests (path : String)
deriving DecidableEq, Repr

/-- What an option does. -/
inductive OptionForm
  /-- Shows the version instead of running a command. -/
  | version
  | switch (setting : Setting)
  /-- Takes a value, which may start with a dash only if that is said. -/
  | valued (dashes : Bool) (read? : String → Option Setting)

/-- An option that is known on a level. -/
structure KnownOption where
  long : String
  short : Option Char
  /-- Whether the option may be given several times. -/
  repeatable : Bool
  form : OptionForm

/-- A path, which is never empty. -/
def path? (make : String → Setting) (s : String) : Option Setting :=
  if s.isEmpty then none else some (make s)

/-- The output format that a user names. -/
def format? (s : String) : Option Setting :=
  [("human", Setting.json false), ("json", .json true)].lookup s

/-- The option that shows the version. -/
def versionOption : KnownOption := ⟨"version", some 'V', false, .version⟩

/-- The options that may stand on both levels. -/
def commonOptions : List KnownOption :=
  [⟨"verbose", some 'v', false, .switch .verbose⟩,
    ⟨"quiet", some 'q', false, .switch .quiet⟩,
    ⟨"color", none, false, .valued false fun s => (ColorChoice.ofName? s).map .color⟩,
    ⟨"message-format", none, false, .valued false format?⟩,
    ⟨"state", none, false, .valued false (path? .state)⟩]

/-- The option that keeps a run from recording anything. -/
def dryRunOption : KnownOption := ⟨"dry-run", none, false, .switch .dryRun⟩

/-- The option that names a profile. -/
def storeOption : KnownOption := ⟨"store", none, false, .valued false fun s => some (.store s)⟩

/-- The options of the command that checks one request. -/
def checkOptions : List KnownOption :=
  [⟨"error", none, false, .switch .error⟩, storeOption,
    ⟨"lang", none, true, .valued false fun s => some (.language s)⟩,
    ⟨"flag", none, true, .valued true fun s => some (.flag s)⟩, dryRunOption]

/-- The options of the command that checks the requests in a file. -/
def configureOptions : List KnownOption :=
  [⟨"requests", none, false, .valued false (path? .requests)⟩, dryRunOption]

/-- Why no command is run. -/
inductive Stop
  | usage
  | version
deriving DecidableEq, Repr

/-- What was read on a level. -/
structure Level where
  /-- The options with what they say, in order. -/
  given : List (String × Setting)
  parameters : List String

namespace Level

/-- Nothing was read. -/
def empty : Level := ⟨[], []⟩

/-- Adds an option. -/
def give (o : KnownOption) (setting : Option Setting) (level : Level) : Except Stop Level :=
  match setting with
  | none => .error .usage
  | some setting =>
    if !o.repeatable && level.given.any (·.1 = o.long) then .error .usage
    else .ok { level with given := level.given ++ [(o.long, setting)] }

/-- Adds an option that stands without a value. -/
def giveBare (o : KnownOption) (level : Level) : Except Stop Level :=
  match o.form with
  | .version => .error .version
  | .switch setting => level.give o (some setting)
  | .valued _ _ => .error .usage

/-- Adds the options of a cluster of letters. -/
def giveLetters (known : List KnownOption) : List Char → Level → Except Stop Level
  | [], level => .ok level
  | c :: cs, level =>
    match known.find? fun o => o.short = some c with
    | none => .error .usage
    | some o => (level.giveBare o).bind (giveLetters known cs)

/-- Adds an option whose value stands in the same argument. -/
def giveJoined (known : List KnownOption) (name value : String) (level : Level) :
    Except Stop Level :=
  match known.find? fun o => o.long = name with
  | none => .error .usage
  | some o =>
    match o.form with
    | .valued _ read? => level.give o (read? value)
    | _ => .error .usage

end Level

/-- How an argument is understood. -/
inductive Token
  /-- Two dashes: parameters follow. -/
  | escape
  | long (name : String)
  /-- An option with its value. -/
  | joined (name value : String)
  | letters (cs : List Char)
  | plain (s : String)

/-- Splits a text at its first equals sign. -/
def splitEquals? (s : List Char) : Option (String × String) :=
  match s.span (· ≠ '=') with
  | (name, _ :: value) => some (String.ofList name, String.ofList value)
  | (_, []) => none

/-- How an argument is understood that stands where an option may stand. -/
def Token.ofArgument (argument : String) : Token :=
  match argument.toList with
  | ['-', '-'] => .escape
  | '-' :: '-' :: cs =>
    match splitEquals? cs with
    | some (name, value) => .joined name value
    | none => .long (String.ofList cs)
  | '-' :: c :: cs => .letters (c :: cs)
  | _ => .plain argument

/-- Whether an argument looks like an option. -/
def looksLikeOption (argument : String) : Bool :=
  match Token.ofArgument argument with
  | .plain _ => false
  | _ => true

/-- Reads a level.  If a command's name is expected, the level ends at the first parameter, and the
answer is the level and the arguments from there on. -/
def readLevel (known : List KnownOption) (untilCommand : Bool) :
    List String → Level → Except Stop (Level × List String)
  | [], level => .ok (level, [])
  | argument :: rest, level =>
    match Token.ofArgument argument with
    | .escape =>
      if untilCommand then .error .usage
      else .ok ({ level with parameters := level.parameters ++ rest }, [])
    | .plain s =>
      if untilCommand then .ok (level, argument :: rest)
      else readLevel known untilCommand rest { level with parameters := level.parameters ++ [s] }
    | .letters cs => (level.giveLetters known cs).bind (readLevel known untilCommand rest)
    | .joined name value =>
      (level.giveJoined known name value).bind (readLevel known untilCommand rest)
    | .long name =>
      match known.find? fun o => o.long = name with
      | none => .error .usage
      | some o =>
        match o.form with
        | .valued dashes read? =>
          match rest with
          | [] => .error .usage
          | value :: rest =>
            if !dashes && looksLikeOption value then .error .usage
            else (level.give o (read? value)).bind (readLevel known untilCommand rest)
        | _ => (level.giveBare o).bind (readLevel known untilCommand rest)

namespace Level

/-- What the options of a level say, as far as `select` looks for it. -/
def values {α : Type} (level : Level) (select : Setting → Option α) : List α :=
  level.given.filterMap fun o => select o.2

/-- What an option of a level says that is given at most once. -/
def value? {α : Type} (level : Level) (select : Setting → Option α) : Option α :=
  (level.values select).head?

/-- Whether a switch is given. -/
def has (level : Level) (setting : Setting) : Bool :=
  level.given.any (·.2 = setting)

end Level

/-- The file of flags that a setting names. -/
def Setting.state? : Setting → Option String
  | state path => some path
  | _ => none

/-- The choice of colours that a setting makes. -/
def Setting.color? : Setting → Option ColorChoice
  | color choice => some choice
  | _ => none

/-- Whether a setting chooses JSON. -/
def Setting.json? : Setting → Option Bool
  | json chosen => some chosen
  | _ => none

/-- The profile that a setting names. -/
def Setting.store? : Setting → Option String
  | store name => some name
  | _ => none

/-- The language that a setting names. -/
def Setting.language? : Setting → Option String
  | language token => some token
  | _ => none

/-- The flag that a setting adds. -/
def Setting.flag? : Setting → Option String
  | flag s => some s
  | _ => none

/-- The file of requests that a setting names. -/
def Setting.requests? : Setting → Option String
  | requests path => some path
  | _ => none

/-- Whether a level is consistent.  Quiet and verbose exclude each other; a level that does not name
the file of flags takes it from the environment, where it must not be empty. -/
def Level.isConsistent (environment : Option String) (level : Level) : Bool :=
  !(level.has .quiet && level.has .verbose) &&
    !((level.value? Setting.state?).isNone && environment = some "")

/-- The value of a common option: that of the inner level, if there is one, else that of the outer
one. -/
def inherited {α : Type} (outer inner : Level) (select : Setting → Option α) : Option α :=
  (inner.value? select).or (outer.value? select)

/-- The common options that two levels give. -/
def commonOf (environment : Option String) (outer inner : Level) : CommonOptions where
  quiet := inner.has .quiet || outer.has .quiet
  verbose := inner.has .verbose || outer.has .verbose
  color := (inherited outer inner Setting.color?).getD .auto
  json := (inherited outer inner Setting.json?).getD false
  state := (inherited outer inner Setting.state?).or environment

/-- The selector for the languages that are given; without any there is none. -/
def selectorOf : List String → Option Selector
  | [] => none
  | [token] => some (.one token)
  | tokens => some (.many tokens)

/-- The command that checks one request. -/
def checkTask? (inner : Level) : Option Task :=
  match inner.parameters with
  | [name] =>
    (Capability.ofName? name).map fun capability =>
      .check ⟨capability, inner.has .error, inner.value? Setting.store?,
        selectorOf (inner.values Setting.language?), inner.values Setting.flag?⟩ (inner.has .dryRun)
  | _ => none

/-- A command without parameters. -/
def plainTask? (inner : Level) (task : Task) : Option Task :=
  if inner.parameters.isEmpty then some task else none

/-- The options of a command, and the command that they describe. -/
def command? (name : String) : Option (List KnownOption × (Level → Option Task)) :=
  [("check", checkOptions, checkTask?),
    ("configure", configureOptions, fun inner =>
      plainTask? inner (.configure (inner.value? Setting.requests?) (inner.has .dryRun))),
    ("flags", [storeOption], fun inner =>
      plainTask? inner (.flags (inner.value? Setting.store?))),
    ("toolchain", [], fun inner => plainTask? inner .toolchain)].lookup name

/-- The command that follows the outer level. -/
def readCommand (environment : Option String) (outer : Level) :
    List String → Except Stop Invocation
  | [] => .error .usage
  | name :: rest =>
    match command? name with
    | none => .error .usage
    | some (options, task?) =>
      (readLevel (commonOptions ++ options) false rest .empty).bind fun inner =>
        match task? inner.1 with
        | none => .error .usage
        | some task =>
          if outer.isConsistent environment && inner.1.isConsistent environment then
            .ok ⟨commonOf environment outer inner.1, task⟩
          else .error .usage

/-- Reads the arguments of the command line.  `environment` is the file of flags that the
environment names, if it names one. -/
def readArguments (environment : Option String) (arguments : List String) :
    Except Stop Invocation :=
  (readLevel (versionOption :: commonOptions) true arguments .empty).bind fun outer =>
    readCommand environment outer.1 outer.2

end CompilerFlags.CommandLine
