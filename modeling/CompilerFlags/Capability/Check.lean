import CompilerFlags.Capability.Threads
import CompilerFlags.Capability.Warning

/-!
# Checking a request

A request is checked by the rule of its capability.  It either fails before any trial, and then
changes nothing, or ends with a status and exactly one report, which carries the status.
-/

namespace CompilerFlags

/-- What is asked in the report of a capability. -/
def Capability.question : Capability → String
  | warnAll => "emit all warnings?"
  | warnExtra => "emit extra warnings?"
  | lateDeclarations => "warn on declaration-after-statement?"
  | ignoreWarning => "ignore warning?"
  | threads => "Checking for pthread"

/-- Checks a capability with options. -/
def Capability.checkWith {σ : Type} (tell : Reporter σ) (ctx : Context σ) (capability : Capability)
    (options : Options) (s : Session σ) : Except RequestError Status × Session σ :=
  match capability with
  | warnAll =>
    Warning.checkWith tell ctx capability.question (Warning.allFlags options.error) options s
  | warnExtra =>
    Warning.checkWith tell ctx capability.question (Warning.extraFlags options.error) options s
  | lateDeclarations =>
    Warning.checkWith tell ctx capability.question (Warning.lateDeclarationFlags options.error)
      options s
  | ignoreWarning => Warning.checkUserFlagsWith tell ctx capability.question options s
  | threads => Threads.checkWith tell ctx capability.question options s

/-- Checks a request, and gives its report in the given way. -/
def Request.checkWith {σ : Type} (tell : Reporter σ) (ctx : Context σ) (r : Request)
    (s : Session σ) : Except RequestError Status × Session σ :=
  r.capability.checkWith tell ctx r.options s

/-- Checks a request. -/
def Request.check {σ : Type} (ctx : Context σ) (r : Request) (s : Session σ) :
    Except RequestError Status × Session σ :=
  r.checkWith Session.report ctx s

end CompilerFlags
