import CompilerFlags.Capability
import CompilerFlags.Data.Value
import CompilerFlags.Settings

/-!
# Decoding structured data

The functions of this module read the domain's types from a `Value`; there is no answer if the
value has not the right shape.  Unknown fields are ignored and missing ones take their defaults.
The absent value stands for a missing text or selector, and nowhere else.

Two details depend on the notation that the value was written in, and a `Format` record holds
them: which payload goes with a name that needs none, and whether a list that stands for a
structure may be too long.
-/

namespace CompilerFlags

/-- What decoding needs to know about the notation of a value. -/
structure Format where
  /-- Whether a value may follow a name that needs none. -/
  isNoPayload : Value → Bool
  /-- Whether a list that stands for a structure has at most one item for each field. -/
  exactLists : Bool

namespace Format

/-- JSON: the absent value is no payload. -/
def json : Format where
  isNoPayload
    | .null => true
    | _ => false
  exactLists := true

/-- TOML: an empty table or list is no payload. -/
def toml : Format where
  isNoPayload
    | .table [] => true
    | .list [] => true
    | _ => false
  exactLists := false

end Format

namespace Decode

/-- Decodes a field, which takes a default if it is missing. -/
def field {α : Type} (decode : Value → Option α) (missing : α) : Option Value → Option α
  | none => some missing
  | some v => decode v

/-- Decodes something that may be absent. -/
def optional {α : Type} (decode : Value → Option α) : Value → Option (Option α)
  | .null => some none
  | v => (decode v).map some

/-- The fields of a structure by name.  A structure is written as a table, or as a list of its
fields in their order; a date is read as a table without any of them. -/
def fields? (format : Format) (names : List String) : Value → Option (String → Option Value)
  | .table fields => some fun name => fields.lookup name
  | .list items =>
    if format.exactLists && names.length < items.length then none
    else some fun name => (names.zip items).lookup name
  | .moment _ => some fun _ => none
  | _ => none

/-- Decodes a name from a table of names: a text, or a table with the name as its only field. -/
def name? {α : Type} (format : Format) (find? : String → Option α) : Value → Option α
  | .text s => find? s
  | .table [(s, payload)] => if format.isNoPayload payload then find? s else none
  | _ => none

/-- Decodes a language; the spelling is exact. -/
def language? (format : Format) : Value → Option Language :=
  name? format Language.ofSpelling?

/-- Decodes a capability; the spelling is exact. -/
def capability? (format : Format) : Value → Option Capability :=
  name? format Capability.ofSpelling?

/-- Decodes a selector: a text or a list of texts. -/
def selector? (v : Value) : Option Selector :=
  match v.text? with
  | some token => some (.one token)
  | none => v.texts?.map .many

/-- Decodes options from their fields. -/
def optionsOf? (get : String → Option Value) : Option Options := do
  let error ← field Value.bool? false (get "error")
  let profile ← field (optional Value.text?) none (get "uselib_store")
  let languages ← field (optional selector?) none (get "lang")
  let flags ← field Value.texts? [] (get "flags")
  some ⟨error, profile, languages, flags⟩

/-- Decodes options. -/
def options? (format : Format) (v : Value) : Option Options :=
  (fields? format ["error", "uselib_store", "lang", "flags"] v).bind optionsOf?

/-- Decodes a request: a table with a capability and its options side by side. -/
def request? (format : Format) : Value → Option Request
  | .table fields => do
    let capability ← (fields.lookup "capability").bind (capability? format)
    let options ← optionsOf? fun name => fields.lookup name
    some ⟨capability, options⟩
  | _ => none

/-- Decodes a list of requests. -/
def requestList? (format : Format) (v : Value) : Option (List Request) :=
  v.list?.bind fun items => items.mapM (request? format)

/-- Decodes the contents of a file of requests. -/
def requests? (format : Format) (v : Value) : Option (List Request) := do
  let get ← fields? format ["request"] v
  field (requestList? format) [] (get "request")

/-- Decodes settings. -/
def settings? (format : Format) (v : Value) : Option Settings := do
  let get ← fields? format ["cc", "cxx", "cc_id", "cxx_id", "target"] v
  let text := fun name => field (optional Value.text?) none (get name)
  some ⟨← text "cc", ← text "cxx", ← text "cc_id", ← text "cxx_id", ← text "target"⟩

/-- Decodes the contents of a file of settings. -/
def settingsFile? (format : Format) (v : Value) : Option Settings := do
  let get ← fields? format ["toolchain"] v
  field (settings? format) .none (get "toolchain")

/-- Decodes the contents of a file of flags: named lists of texts. -/
def flagLists? (fields : List (String × Value)) : Option (List (String × List String)) :=
  fields.mapM fun field => field.2.texts?.map fun flags => (field.1, flags)

end Decode

end CompilerFlags
