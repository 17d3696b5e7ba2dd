import CompilerFlags.Capability.Check

/-!
# Checking requests one after another

Requests are checked in the order in which they are listed, each on what the earlier ones have left.
The first request that makes no sense ends the sequence; those after it are not looked at.
-/

namespace CompilerFlags

/-- A request that makes no sense, and its place in the list. -/
structure BadRequest where
  /-- The first request has the number one. -/
  number : Nat
  capability : Capability
  cause : RequestError
deriving DecidableEq, Repr

namespace Request

variable {σ : Type} (ctx : Context σ)

/-- Checks requests, the first of which has the given number. -/
def checkFrom (number : Nat) :
    List Request → Session σ → Except BadRequest (List Status) × Session σ
  | [], s => (.ok [], s)
  | r :: rs, s =>
    let first := r.check ctx s
    match first.1 with
    | .error e => (.error ⟨number, r.capability, e⟩, first.2)
    | .ok status =>
      let others := checkFrom (number + 1) rs first.2
      (others.1.map (status :: ·), others.2)

/-- Checks all requests of a list. -/
def checkAll (rs : List Request) (s : Session σ) : Except BadRequest (List Status) × Session σ :=
  checkFrom ctx 1 rs s

end Request

end CompilerFlags
