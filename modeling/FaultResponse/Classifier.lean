import FaultResponse.Declaration
import FaultResponse.Guidance
import FaultResponse.Text.Blank
import FaultResponse.Verdict
/-! # Classification — from an exception to a verdict

    The category selects one of four rules:

    1. access denied: 403 with one fixed message, whatever the exception says;
    2. not found and invalid request: 404 and 400 with the exception's message;
    3. a remote failure with a response: the status of the response, and an
       exception with the extracted context in the place of the one classified;
    4. everything else: the status that is declared nearest, or 500 if none is.

    A remote failure without a response follows the last rule and is logged as a
    warning.  Classification writes no record of its own, and only the third
    rule reads a body. -/

namespace FaultResponse

/-- The fixed parts of the answers. -/
structure Classifier where
  decorator : Decorator := .plain
  /-- The message for every denied access. -/
  accessDenied : Text := "Access is denied"
  /-- The message at 500 when there is no other. -/
  fallback : Text := "Internal Server Error"

/-- The log entry for a declared status: a server error with its traceback, any
    other error except 404 as a warning that names the exception, else nothing. -/
def Declaration.logPlan (d : Declaration) (e : Fault) (message : Option Text) : LogPlan :=
  if d.isServerError then ⟨.error, d.phrase, true⟩
  else if 400 ≤ d.status ∧ d.status < 500 ∧ d.status ≠ 404 then
    ⟨.warning, d.phrase ++ ": " ++ e.cls.name ++ ": " ++ message.getD "", false⟩
  else {}

/-- The log entry for an exception without a declared status. -/
def undeclaredLog : LogPlan :=
  ⟨.error, Http.phrase 500, true⟩

/-- The log entry for a remote call that got no response. -/
def noResponseLog : LogPlan :=
  ⟨.warning, "Upstream call failed without a response", true⟩

namespace Classifier

variable (c : Classifier)

/-- The message for a status when there is none to decorate. -/
def standIn (status : Int) : Text :=
  if status = 500 then c.fallback else Http.phrase status

/-- Decorate the message and put the verdict together. -/
def conclude (category : Category) (subject : Fault) (status : Int) (message : Option Text)
    (log : LogPlan) (context : Attributes) : Except Failure Verdict :=
  match c.decorator.decorate subject message with
  | .error f => .error f
  | .ok m => .ok ⟨category, status, m.getD (c.standIn status), log, context, some subject⟩

/-- The second rule: the exception's own message at a fixed status. -/
def outright (category : Category) (e : Fault) (status : Int) : Except Failure Verdict :=
  match e.message with
  | .error f => .error f
  | .ok m => c.conclude category e status m {} []

/-- A message, or a text in its place when it is blank. -/
def unlessBlank (message : Option Text) (standIn : Text) : Option Text :=
  if Text.isBlank? message then some standIn else message

/-- The fourth rule: the declared status. -/
def declared (r : Registry) (category : Category) (e : Fault) : Except Failure Verdict :=
  match e.message with
  | .error f => .error f
  | .ok m =>
    match r.find e.cls.lineage with
    | none => c.conclude category e 500 (unlessBlank m c.fallback) undeclaredLog []
    | some d => c.conclude category e d.status (unlessBlank m d.standIn) (d.logPlan e m) []

/-- The fourth rule for a remote call that got no response. -/
def unanswered (r : Registry) (e : Fault) : Except Failure Verdict :=
  match c.declared r .remoteFailure e with
  | .error f => .error f
  | .ok v => .ok { v with log := noResponseLog }

/-- The exception that carries the context of a failed remote call. -/
def carrier (message : Option Text) (context : RemoteContext) : Fault :=
  ⟨Known.remoteContextError.toClass,
    { Details.ofMessage message with attributes := some context.toAttributes }⟩

/-- The third rule: the status of the response, or 502 if it has none. -/
def relayed (e : Fault) (response : Response) (context : RemoteContext) :
    Except Failure Verdict :=
  match e.message, response.status? with
  | .error f, _ | .ok _, .error f => .error f
  | .ok m, .ok status =>
    c.conclude .remoteFailure (carrier m context) (status.getD 502) m {}
      context.toAttributes

/-- Classify an exception. -/
def classify (r : Registry) (e : Fault) (bodies : Bodies) : Traced Verdict :=
  match e.category with
  | .accessDenied =>
    ⟨c.conclude .accessDenied e 403 (some c.accessDenied) {} [], bodies, []⟩
  | .notFound => ⟨c.outright .notFound e 404, bodies, []⟩
  | .invalidRequest => ⟨c.outright .invalidRequest e 400, bodies, []⟩
  | .remoteFailure =>
    match e.response? with
    | .error f => ⟨.error f, bodies, []⟩
    | .ok none => ⟨c.unanswered r e, bodies, []⟩
    | .ok (some response) => (e.remoteContext bodies).andThen (c.relayed e response)
  | .illegalState => ⟨c.declared r .illegalState e, bodies, []⟩
  | .generic => ⟨c.declared r .generic e, bodies, []⟩

end Classifier

/-- Whether an exception is answered with the status of a received response. -/
def Fault.isRelayed (e : Fault) : Bool :=
  decide (e.category = .remoteFailure) && e.hasResponse

end FaultResponse
