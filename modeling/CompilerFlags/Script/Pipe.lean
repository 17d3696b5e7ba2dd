import CompilerFlags.Data.Octets

/-!
# Pipes

A pipe holds octets that were written and not yet read, in their order.  There is room for a certain
number of them, unless the pipe leads outside, where somebody always reads.

What comes next is kept in front, and what was written since then is kept behind it in the reverse
order, so that neither writing nor reading has to go over all that is in the pipe.
-/

namespace CompilerFlags.Script

/-- Octets on their way from a writer to a reader. -/
structure Pipe where
  front : Octets
  /-- What comes after the front, the last part in front. -/
  back : List Octets
  /-- The number of octets in the pipe. -/
  size : Nat
  /-- Whether the pipe leads outside. -/
  isOutside : Bool

namespace Pipe

/-- There is room for so many octets in a pipe. -/
def capacity : Nat := 65536

/-- So many octets are written together. -/
def unit : Nat := 4096

/-- A pipe with nothing in it. -/
def empty : Pipe := ⟨[], [], 0, false⟩

/-- A pipe that leads outside. -/
def outside : Pipe := ⟨[], [], 0, true⟩

/-- All that is in a pipe. -/
def content (p : Pipe) : Octets := p.front ++ p.back.reverse.flatten

/-- A pipe after octets were written to it. -/
def push (s : Octets) (p : Pipe) : Pipe :=
  { p with back := s :: p.back, size := p.size + s.length }

/-- A pipe of which all that is in it is in front. -/
def settled (p : Pipe) : Pipe :=
  if p.back.isEmpty then p else { p with front := p.content, back := [] }

/-- A pipe after so many octets were read from it. -/
def drop (n : Nat) (p : Pipe) : Pipe :=
  let p := p.settled
  { p with front := p.front.drop n, size := p.size - n }

/-- How many octets there is room for. -/
def room (p : Pipe) : Nat := capacity - p.size

/-- Whether so many octets can be written now, or a part of them that is large enough. -/
def takes (n : Nat) (p : Pipe) : Bool := p.isOutside || (if n ≤ unit then n else 1) ≤ p.room

/-- What is written comes after all that was there. -/
theorem content_push (s : Octets) (p : Pipe) : (p.push s).content = p.content ++ s := by
  simp [push, content]

/-- Settling a pipe changes nothing in it. -/
theorem content_settled (p : Pipe) : p.settled.content = p.content := by
  unfold settled
  split <;> simp [content]

/-- In a settled pipe all is in front. -/
theorem front_settled (p : Pipe) : p.settled.front = p.content := by
  unfold settled
  split <;> simp_all [content]

/-- In a settled pipe nothing is behind the front. -/
theorem back_settled (p : Pipe) : p.settled.back = [] := by
  unfold settled
  split <;> simp_all

/-- What is read is what was in front. -/
theorem content_drop (n : Nat) (p : Pipe) : (p.drop n).content = p.content.drop n := by
  simp [drop, content, back_settled, front_settled]

end Pipe

end CompilerFlags.Script
