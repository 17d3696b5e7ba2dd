import CompilerFlags.Capability.Sequence
import CompilerFlags.CommandLine.Invocation

/-!
# The commands that look for flags

`check` makes one request and `configure` makes those of a file.  Both start with the flags recorded
earlier, and unless the run is a dry one they record the flags in the end.
-/

namespace CompilerFlags.CommandLine

variable {ω : Type} (w : World ω)

/-- Shows the reports of a session. -/
def showReports {σ : Type} (console : Console) (s : Session σ) : Output :=
  console.renderAll (s.reports.map .check)

/-- Records flags, after saying so. -/
def record (console : Console) (path : String) (store : Store) (shown : Output) (s : ω) :
    Ending ω :=
  let saved := w.saveFlags path store s
  ⟨saved.1, shown ++ console.render (.status .saved ("flags to " ++ path)), saved.2⟩

/-- Records the flags of a session unless the run is a dry one. -/
def conclude (console : Console) (path : String) (dryRun : Bool) (shown : Output)
    (s : Session (Workshop ω)) : Ending ω :=
  let world := s.bench.memory.world
  if dryRun then .succeeded shown world
  else record w console path s.bench.store shown world

/-- A session for the project in a directory: sets the project up and opens a workshop. -/
def openSession (root : String) (store : Store) (s : ω) :
    Except Failure (Setup × Session (Workshop ω)) × ω :=
  let setup := w.setup root s
  match setup.1 with
  | .error f => (.error f, setup.2)
  | .ok facts =>
    let shop := w.openWorkshop setup.2
    (shop.1.map fun shop => (facts, .start shop store), shop.2)

/-- Loads the recorded flags and starts a session with them. -/
def loadSession (path : String) (s : ω) : Except Failure (Setup × Session (Workshop ω)) × ω :=
  match w.loadFlags path s with
  | .error f => (.error f, s)
  | .ok store => openSession w w.directory store s

/-- Checks one request. -/
def check (options : CommonOptions) (request : Request) (dryRun : Bool) (s : ω) : Ending ω :=
  let console := options.console w
  let path := options.statePath w.directory
  let opened := loadSession w path s
  match opened.1 with
  | .error f => .failed f .empty opened.2
  | .ok (setup, session) =>
    let answer := request.check (setup.context w) session
    let shown := showReports console answer.2
    match answer.1 with
    | .error e => .failed (.ofCause (.request e)) shown answer.2.bench.memory.world
    | .ok _ => conclude w console path dryRun shown answer.2

/-- What is said about the results of all requests. -/
def summary (results : List Status) : String :=
  toString (results.filter Status.isAvailable).length ++ " of " ++ toString results.length ++
    " capabilities available"

/-- The failure of a sequence of requests. -/
def ofBadRequest (b : BadRequest) : Failure :=
  ⟨[.checkRequest b.number b.capability], .request b.cause⟩

/-- Checks requests with the flags in a file. -/
def configureWith (options : CommonOptions) (requests : List Request) (dryRun : Bool) (s : ω) :
    Ending ω :=
  let console := options.console w
  let path := options.statePath w.directory
  let opened := loadSession w path s
  match opened.1 with
  | .error f => .failed f .empty opened.2
  | .ok (setup, session) =>
    let answer := Request.checkAll (setup.context w) requests session
    let shown := showReports console answer.2
    match answer.1 with
    | .error b => .failed (ofBadRequest b) shown answer.2.bench.memory.world
    | .ok results =>
      conclude w console path dryRun
        (shown ++ console.render (.status .finished (summary results))) answer.2

/-- Checks the requests in a file. -/
def configure (options : CommonOptions) (requests : Option String) (dryRun : Bool) (s : ω) :
    Ending ω :=
  let path := requests.getD (Path.requestsFile w.directory)
  if w.isPresent path s then
    match w.loadRequests path s with
    | .error f => .failed f .empty s
    | .ok requests => configureWith w options requests dryRun s
  else .failed (.ofCause (.noRequests path)) .empty s

end CompilerFlags.CommandLine
