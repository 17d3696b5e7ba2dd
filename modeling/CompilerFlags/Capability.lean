import CompilerFlags.Bucket
import CompilerFlags.Search

/-!
# Capabilities

A capability is a behaviour of a compiler that a project asks for: all warnings, extra warnings, a
warning on late declarations, silence about a warning, or support for POSIX threads.  A request
names a capability and its options; its result is a `Status`, or a `RequestError` if the request
itself makes no sense.  That no flag works is not an error: the status is then `no`.
-/

namespace CompilerFlags

/-- What can be asked of a compiler. -/
inductive Capability
  | warnAll
  | warnExtra
  | lateDeclarations
  | ignoreWarning
  | threads
deriving DecidableEq, Repr

namespace Capability

/-- All capabilities, in the order in which messages list them. -/
def all : List Capability :=
  [warnAll, warnExtra, lateDeclarations, ignoreWarning, threads]

/-- The name of a capability. -/
def name : Capability → String
  | warnAll => "warn-all"
  | warnExtra => "warn-extra"
  | lateDeclarations => "decl-after-stmt"
  | ignoreWarning => "ignore-warning"
  | threads => "pthread"

/-- The names under which capabilities are known. -/
def spellings : List (String × Capability) :=
  all.map (fun c => (c.name, c)) ++ [("decl-after-statement", lateDeclarations)]

/-- The capability with exactly the given name. -/
def ofSpelling? (s : String) : Option Capability :=
  spellings.lookup s

/-- The capability that a user names; case and outer blanks do not matter. -/
def ofName? (s : String) : Option Capability :=
  ofSpelling? (Text.lower (Text.trim s))

/-- What is said about a name that no capability has. -/
def unknownMessage (s : String) : String :=
  "unknown capability '" ++ s ++ "'; expected one of: " ++ Text.join ", " (all.map name)

end Capability

/-- The options of a request. -/
structure Options where
  /-- Make the warning an error. -/
  error : Bool
  /-- The profile that the flags are recorded for. -/
  profile : Option String
  /-- The target languages. -/
  languages : Option Selector
  /-- The flags to try, where the capability leaves them to the user. -/
  flags : List String
deriving DecidableEq, Repr

/-- The options of a request that sets none. -/
def Options.default : Options := ⟨false, none, none, []⟩

instance : Inhabited Options := ⟨.default⟩

/-- A capability together with the options of the request for it. -/
structure Request where
  capability : Capability
  options : Options
deriving DecidableEq, Repr

/-- The result of a request. -/
inductive Status
  /-- Not available. -/
  | no
  /-- Available. -/
  | yes
  /-- Available, as an error. -/
  | error
deriving DecidableEq, Repr

namespace Status

/-- The name of a status. -/
def name : Status → String
  | no => "no"
  | yes => "yes"
  | error => "error"

/-- Whether the capability is available. -/
def isAvailable : Status → Bool
  | no => false
  | yes => true
  | error => true

/-- The status that a search ends with. -/
def ofOutcome : Outcome → Status
  | .notAttempted => no
  | .refused => no
  | .accepted => yes
  | .enforced => error

end Status

/-- Why a request makes no sense. -/
inductive RequestError
  /-- A token names no language. -/
  | unsupportedLanguage (token : String)
  /-- The list of languages is empty. -/
  | noLanguages
  /-- The capability needs flags, and there are none. -/
  | missingFlags (capability : Capability)
  /-- The profile has no valid name. -/
  | bucket (cause : BucketError)
deriving DecidableEq, Repr

namespace RequestError

/-- The wording of a request error. -/
def message : RequestError → String
  | unsupportedLanguage token =>
    "unsupported language `" ++ token ++ "` (expected c, c++ or cxx)"
  | noLanguages => "no target languages given"
  | missingFlags capability => "`" ++ capability.name ++ "` requires at least one flag"
  | bucket cause => cause.message

/-- What a language error is for the request that has it. -/
def ofLanguageError : LanguageError → RequestError
  | .unsupported token => unsupportedLanguage token
  | .empty => noLanguages

end RequestError

/-- The target languages and the profile that a request is about.  Of two errors, that of the
languages comes first. -/
def scope (languages : Option Selector) (profile : Option String) :
    Except RequestError (Targets × Profile) :=
  match Targets.resolve languages with
  | .error e => .error (.ofLanguageError e)
  | .ok targets =>
    match Profile.select profile with
    | .error e => .error (.bucket e)
    | .ok profile => .ok (targets, profile)

end CompilerFlags
