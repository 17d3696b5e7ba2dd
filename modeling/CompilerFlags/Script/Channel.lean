import CompilerFlags.Host.Files
import CompilerFlags.Script.Pipe

/-!
# What channels lead to

A channel of a running script leads to a handle, and several channels may share one.  A handle leads
to a file, to a device or to a pipe.  It knows how far a file was read or written, so that all
channels that share it go on from there.
-/

namespace CompilerFlags.Script

/-- The wording of an error of the operating system without its number. -/
def reasonOf (e : OsError) : Octets :=
  ((Text.splitAt '(' e.message).headD "" |>.trimAsciiEnd.toString).toList

/-- What a handle leads to. -/
inductive Stream
  /-- A file of which so many octets lie behind. -/
  | file (place : Place) (offset : Nat)
  | device (d : Device)
  /-- The pipe with a number. -/
  | pipe (number : Nat)

/-- A way to read or write. -/
structure Handle where
  stream : Stream
  canRead : Bool
  canWrite : Bool
  /-- Whether all that is written goes to the end of the file. -/
  appends : Bool

namespace Handle

/-- A handle from which nothing can be read. -/
def empty : Handle := ⟨.device .sink, true, false, false⟩

/-- The end of a pipe from which it is read. -/
def reader (pipe : Nat) : Handle := ⟨.pipe pipe, true, false, false⟩

/-- The end of a pipe to which it is written. -/
def writer (pipe : Nat) : Handle := ⟨.pipe pipe, false, true, false⟩

/-- The pipe to which a handle leads. -/
def pipe? (h : Handle) : Option Nat :=
  match h.stream with
  | .pipe n => some n
  | _ => none

/-- The octets of the file at a place. -/
def contentAt (f : Files) (p : Place) : Octets :=
  match f.at? p with
  | some (.file content _) => content
  | _ => []

/-- Puts octets at an offset into others, which are made longer by zeros if need be. -/
def overwrite (offset : Nat) (s content : Octets) : Octets :=
  content.take offset ++ List.replicate (offset - content.length) '\x00' ++ s ++
    content.drop (offset + s.length)

/-- Writes octets to what is no pipe, if that is possible. -/
def write? (s : Octets) (f : Files) (h : Handle) : Option (Files × Handle) :=
  if !h.canWrite then none
  else
    match h.stream with
    | .file p offset =>
      let offset := if h.appends then (contentAt f p).length else offset
      some (f.modify p (overwrite offset s), { h with stream := .file p (offset + s.length) })
    | .device .full => none
    | .device _ => some (f, h)
    | .pipe _ => none

/-- What a file or device at a place is opened for. -/
def opened (p : Place) (e : Entry) (canRead canWrite appends : Bool) : Handle :=
  match e with
  | .device d => ⟨.device d, canRead, canWrite, appends⟩
  | _ => ⟨.file p 0, canRead, canWrite, appends⟩

end Handle

end CompilerFlags.Script
