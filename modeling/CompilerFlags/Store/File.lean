import CompilerFlags.Data.Toml.Printer
import CompilerFlags.Data.Toml.Reader
import CompilerFlags.Decode
import CompilerFlags.Store

/-!
# The written form of a store

A store is written as a TOML document with one list for each bucket that holds flags, in the order
of the bucket names.  Reading it back takes the lists in the order of their names as well, so that
the first bad name decides which error is reported.
-/

namespace CompilerFlags.Store

/-- Why a text is not the written form of a store. -/
inductive FileError
  /-- The text is no TOML document, or not one of named lists of texts. -/
  | notLists
  /-- A list has no bucket's name. -/
  | bucket (cause : BucketError)
deriving DecidableEq, Repr

/-- Named lists in the order of their names. -/
def sortLists (lists : List (String × List String)) : List (String × List String) :=
  lists.mergeSort fun a b => decide (a.1 ≤ b.1)

/-- The buckets that hold flags, by name. -/
def toLists (s : Store) : List (String × List String) :=
  sortLists (s.filled.map fun e => (e.1.name, e.2.toList))

/-- The written form of a store. -/
def toToml (s : Store) : String :=
  Toml.printLists s.toLists

/-- Fills a store from named lists, in the order given. -/
def fill (s : Store) : List (String × List String) → Except BucketError Store
  | [] => .ok s
  | (name, flags) :: rest =>
    match Bucket.parse name with
    | .error e => .error e
    | .ok b => fill (s.addMany b flags) rest

/-- The store with the flags of named lists. -/
def ofLists (lists : List (String × List String)) : Except BucketError Store :=
  fill empty (sortLists lists)

/-- Reads a written store. -/
def ofToml (text : String) : Except FileError Store :=
  match (Toml.parse? text).bind Decode.flagLists? with
  | none => .error .notLists
  | some lists => (ofLists lists).mapError .bucket

end CompilerFlags.Store
