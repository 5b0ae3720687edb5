import FaultResponse.Service.Dispatcher
import FaultResponse.Service.PathTemplate
import FaultResponse.Service.Settings
import FaultResponse.Text.SmallLetters
/-! # Routes — what answers a request

    A route first prepares the scope of the request and then answers: it raises an
    exception, sends a text, tells something as a document, or refuses.  Whatever
    it cannot build or send becomes an exception of its own. -/

namespace FaultResponse

/-- What a route does to the scope of the request before it answers. -/
inductive Preparation
  | finalize
  | record (e : FaultSpec)

/-- How a route answers. -/
inductive Reply
  | raising (e : FaultSpec)
  | text (status : Int) (headers : List (String × String)) (body : Text)
  /-- Tell the number of the request. -/
  | echoId
  /-- Refuse the request with a detail. -/
  | refusal (status : Int) (detail : Value)
  /-- Tell how the service is configured. -/
  | health (s : Settings)

/-- A route. -/
structure Route where
  template : PathTemplate
  methods : List String := ["GET", "HEAD"]
  before : List Preparation := []
  reply : Reply

/-- What a route left behind. -/
structure Routed where
  outcome : Except Fault Http.Response
  scope : Option Scope
  intake : Intake

/-! ## Refusals and documents -/

/-- The document of a refusal. -/
def refusalDocument (detail : Value) : Value :=
  .object [("detail", detail)]

/-- The statuses at which a refusal has no document. -/
def refusesSilently (status : Int) : Bool :=
  decide (status < 200) || [204, 205, 304].contains status

/-- The detail of a refusal; without one it is the standard phrase of the status,
    which has to exist. -/
def detailOf (status : Int) : Value → Except Failure Value
  | .null =>
    match Http.phrase? status with
    | some phrase => .ok (.text phrase)
    | none => .error (.statusUnknown status)
  | detail => .ok detail

/-- What was rendered, or the exception that says why nothing was. -/
def rendered (r : Except Text.Unencodable Http.Response) : Except Fault Http.Response :=
  r.mapError fun u => (Misuse.unencodable u).fault

theorem rendered_eq_ok_iff {x : Except Text.Unencodable Http.Response} {r : Http.Response} :
    rendered x = .ok r ↔ x = .ok r :=
  Http.mapError_eq_ok_iff

/-- Refuse a request. -/
def refuse (status : Int) (detail : Value) : Except Fault Http.Response :=
  if refusesSilently status then .ok (Http.compose status [] none "")
  else rendered (Http.json status (refusalDocument detail))

/-- The document that tells how the service is configured. -/
def healthDocument (s : Settings) : Value :=
  .object
    [("status", .text "ok"), ("service", .text s.projectName), ("version", .text s.version),
     ("additional_messages_enabled", .bool s.guidanceEnabled)]

/-! ## Running a route -/

/-- The exception that leaves a route: a stop signal does not get out of it as one. -/
def escaping (e : Fault) : Fault :=
  if e.is .stopIteration then
    (Failure.stopEscaped Dispatcher.requestPlace).fault .runtimeError
  else e

namespace Preparation

/-- Prepare the scope: the scope and the bodies afterwards, and the exception that
    a refused write or an exception that cannot be built raises. -/
def runAll (scope : Scope) (i : Intake) : List Preparation → Option Fault × Scope × Intake
  | [] => (none, scope, i)
  | finalize :: rest => runAll scope.finalize i rest
  | record spec :: rest =>
    match Fault.build spec i with
    | .error m => (some m.fault, scope, i)
    | .ok (e, i) =>
      match scope.record e with
      | .ok scope => runAll scope i rest
      | .error f => (some (f.fault .scopeFinalized), scope, i)

end Preparation

namespace Route

/-- Headers given by a route: a repeated name keeps its place and takes its last
    value, and all names go out in small letters. -/
def givenHeaders (headers : List (String × String)) : List (String × String) :=
  (OrderedMap.ofPairs headers).map fun h => (Text.smallLetters h.1, h.2)

/-- Send a text, unless it or one of its headers cannot be sent. -/
def sendText (status : Int) (headers : List (String × String)) (body : Text) :
    Except Fault Http.Response :=
  match Http.render status (givenHeaders headers) (some Http.plainType) body,
      Text.Charset.latin1.headerLack? (givenHeaders headers) with
  | .ok r, none => .ok r
  | .error u, _ | .ok _, some u => .error (Misuse.unencodable u).fault

/-- Answer a request whose scope is prepared. -/
def answer (reply : Reply) (scope : Option Scope) (i : Intake) : Routed :=
  match reply with
  | .raising spec =>
    match Fault.build spec i with
    | .ok (e, i) => ⟨.error (escaping e.raise), scope, i⟩
    | .error m => ⟨.error m.fault, scope, i⟩
  | .text status headers body => ⟨sendText status headers body, scope, i⟩
  | .echoId =>
    let id := Value.ofText? (scope.map fun s => s.requestId)
    ⟨rendered (Http.json 200 (.object [("request_id", id)])), scope, i⟩
  | .refusal status detail =>
    match detailOf status detail with
    | .ok detail => ⟨refuse status detail, scope, i⟩
    | .error f => ⟨.error (f.fault .valueError), scope, i⟩
  | .health s => ⟨rendered (Http.json 200 (healthDocument s)), scope, i⟩

/-- Run a route.  Without a scope there is nothing to prepare. -/
def run (r : Route) (scope : Option Scope) (i : Intake) : Routed :=
  match scope with
  | none => answer r.reply none i
  | some s =>
    match Preparation.runAll s i r.before with
    | (some e, s, i) => ⟨.error e, some s, i⟩
    | (none, s, i) => answer r.reply (some s) i

end Route

end FaultResponse
