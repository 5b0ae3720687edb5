import FaultResponse.Fault.Build
import FaultResponse.Handling
import FaultResponse.Report
/-! # The dispatcher — one request, one scope, one answer

    The dispatcher opens a scope for the request and lets the inner application
    answer.  A response passes through.  An ordinary exception is handled on a
    channel of its own, and what was sent there becomes the response; when DEBUG
    is enabled, a report on the scope is logged after it.  Any other exception
    escapes at once, and any failure of the handling itself escapes as well.  On
    every path the scope is finalized in the end.

    Between the dispatcher and the inner application stands a layer that does not
    belong to this library.  It hands exceptions over, and the dispatcher is told
    apart from it: `dispatchThrough` works over any such `Relay`. -/

namespace FaultResponse

/-- What the inner application left behind: a response or an exception, the scope
    of the request, and the bodies received so far. -/
structure Inner where
  outcome : Except Fault Http.Response
  scope : Scope
  intake : Intake

/-- What a request left behind; without a dispatcher there is no scope. -/
structure Exchange where
  outcome : Except Failure Http.Response
  scope : Option Scope
  intake : Intake
  log : List LogRecord

/-- The exchange with the records that a level lets through. -/
def Exchange.seenAt (e : Exchange) (level : Int) : Exchange :=
  { e with log := visibleAt level e.log }

/-- How the layer below a dispatcher treats an exception of the inner application: what
    the dispatcher gets to see of it, and what leaves the layer when the dispatcher has
    ended. -/
structure Relay where
  hands : Fault → Fault
  ends : Fault → Except Failure Http.Response → Except Failure Http.Response

namespace Relay

/-- The layer hands an exception over as it is, and adds nothing to the end. -/
structure Passes (relay : Relay) (e : Fault) : Prop where
  handed : relay.hands e = e
  ended : ∀ outcome, relay.ends e outcome = outcome

/-- Whether a layer that waits for the inner application lets an exception through. -/
def lets (e : Fault) : Bool :=
  e.is .exception || e.cls.kind.isSignal

/-- What a layer without a response shows in its place. -/
def noAnswer : Fault :=
  Failure.noResponse.fault .runtimeError

/-- The end when an exception escapes behind the dispatcher: a response is lost, and a
    failure is told together with the exception. -/
def escape (e : Fault) : Except Failure Http.Response → Except Failure Http.Response
  | .ok _ => .error e.failure
  | .error _ => .error .failedTogether

/-- The layer that waits for a response of the inner application.  An ordinary exception
    passes, and so does a signal, which nothing holds up.  By any other exception the
    layer is left without a response, and that is what the dispatcher gets to see; the
    exception escapes in the end. -/
def waiting : Relay where
  hands e := if lets e then e else noAnswer
  ends e outcome := if lets e then outcome else escape e outcome

theorem lets_of_ordinary {e : Fault} (h : e.is .exception = true) : lets e = true :=
  Bool.or_eq_true_iff.mpr (Or.inl h)

theorem lets_of_other {e : Fault} (h : e.is .exception = false) :
    lets e = e.cls.kind.isSignal := by
  rw [lets, h, Bool.false_or]

theorem waiting_passes {e : Fault} (h : lets e = true) : waiting.Passes e where
  handed := if_pos h
  ended _ := if_pos h

/-- Nobody gets a response when an exception escapes. -/
theorem toOption_escape (e : Fault) (outcome : Except Failure Http.Response) :
    (escape e outcome).toOption = none := by
  cases outcome with
  | ok r => rfl
  | error f => rfl

end Relay

/-- The shared parts of all dispatching: how verdicts are reached, the declared
    statuses, the level of the library's loggers, and the time that reports give. -/
structure Dispatcher where
  judge : Judge
  registries : Registries
  level : Int
  now : String

namespace Dispatcher

/-- The header that carries the number of a request. -/
def requestIdHeader : String := "x-request-id"

/-- The number of a request: its own one, or a fresh one if it has none or an
    empty one. -/
def requestId (headers : List (String × String)) (fresh : String) : String :=
  match Http.findHeader headers requestIdHeader with
  | some id => if id.isEmpty then fresh else id
  | none => fresh

/-- The place that a failure leaves when it escapes from a request. -/
def requestPlace : String := "coroutine"

/-- The record of a report. -/
def reportRecord (a : Attributes) : LogRecord where
  logger := .dispatcher
  severity := .debug
  text := "Error attributes"
  attributes := some a

variable (d : Dispatcher)

/-- Whether reports are logged. -/
def reports : Bool :=
  decide (d.level ≤ Severity.debug.level)

/-- The log of a handled exception, with the report behind it when reports are logged. -/
def logReport (scope : Scope) (status : Int) (path : String) (log : List LogRecord) :
    Except Failure (List LogRecord) :=
  if d.reports then
    match scope.report status (some path) d.now with
    | .ok a => .ok (log ++ [reportRecord a])
    | .error f => .error f
  else .ok log

/-- Answer an ordinary exception. -/
def answer (e : Fault) (path : String) (scope : Scope) (i : Intake) : Exchange :=
  let h := d.judge.handle d.registries e (.sound scope) (.sound {}) i.bodies
  let closed := h.slot.scope.finalize
  let intake := { i with bodies := h.bodies }
  match h.outcome with
  | .error f => ⟨.error (f.leaving requestPlace), some closed, intake, h.log⟩
  | .ok v =>
    match d.logReport h.slot.scope v.status path h.log with
    | .error f => ⟨.error (f.leaving requestPlace), some closed, intake, h.log⟩
    | .ok log => ⟨h.sink.channel.render, some closed, intake, log⟩

/-- Go on after an exception was handed over. -/
def recover (e : Fault) (path : String) (scope : Scope) (i : Intake) : Exchange :=
  if e.is .exception then d.answer e path scope i
  else ⟨.error e.failure, some scope.finalize, i, []⟩

/-- Dispatch a request of the given number and path, with a layer below. -/
def dispatchThrough (relay : Relay) (id path : String) (inner : Scope → Inner) : Exchange :=
  let answered := inner { requestId := id }
  match answered.outcome with
  | .ok r => ⟨.ok r, some answered.scope.finalize, answered.intake, []⟩
  | .error e =>
    let x := d.recover (relay.hands e) path answered.scope answered.intake
    { x with outcome := relay.ends e x.outcome }

/-- Dispatch a request with a layer below that waits for the inner application. -/
def dispatch (id path : String) (inner : Scope → Inner) : Exchange :=
  d.dispatchThrough .waiting id path inner

/-! ## What the dispatcher gets to see -/

variable {d} {relay : Relay} {id : String} {inner : Scope → Inner} {e : Fault}

theorem dispatchThrough_of_answered {r : Http.Response}
    (h : (inner { requestId := id }).outcome = .ok r) (relay : Relay) (path : String) :
    d.dispatchThrough relay id path inner =
      ⟨.ok r, some (inner { requestId := id }).scope.finalize,
        (inner { requestId := id }).intake, []⟩ := by
  simp only [dispatchThrough, h]

/-- An exception that the layer passes is the one with which the dispatcher goes on. -/
theorem dispatchThrough_of_passes (hr : relay.Passes e)
    (h : (inner { requestId := id }).outcome = .error e) (path : String) :
    d.dispatchThrough relay id path inner
      = d.recover e path (inner { requestId := id }).scope (inner { requestId := id }).intake := by
  simp only [dispatchThrough, h, hr.handed, hr.ended]

theorem recover_of_ordinary (h : e.is .exception = true) (path : String) (s : Scope) (i : Intake) :
    d.recover e path s i = d.answer e path s i :=
  if_pos h

theorem recover_of_other (h : e.is .exception = false) (path : String) (s : Scope) (i : Intake) :
    d.recover e path s i = ⟨.error e.failure, some s.finalize, i, []⟩ :=
  if_neg (Bool.eq_false_iff.mp h)

theorem dispatch_of_lets (hlets : Relay.lets e = true)
    (h : (inner { requestId := id }).outcome = .error e) (path : String) :
    d.dispatch id path inner
      = d.recover e path (inner { requestId := id }).scope (inner { requestId := id }).intake :=
  dispatchThrough_of_passes (Relay.waiting_passes hlets) h path

/-- An exception that the layer does not let through has the missing response answered in
    its place, and the answer is lost. -/
theorem dispatch_of_torn (hlets : Relay.lets e = false)
    (h : (inner { requestId := id }).outcome = .error e) (path : String) :
    let x := d.answer Relay.noAnswer path (inner { requestId := id }).scope
      (inner { requestId := id }).intake
    d.dispatch id path inner = { x with outcome := Relay.escape e x.outcome } := by
  intro x
  have hx : d.recover (Relay.waiting.hands e) path (inner { requestId := id }).scope
      (inner { requestId := id }).intake = x := by
    rw [show Relay.waiting.hands e = Relay.noAnswer from if_neg (Bool.eq_false_iff.mp hlets)]
    exact recover_of_ordinary (by decide) path _ _
  have hends : ∀ outcome, Relay.waiting.ends e outcome = Relay.escape e outcome :=
    fun _ => if_neg (Bool.eq_false_iff.mp hlets)
  simp only [dispatch, dispatchThrough, h, hx, hends]

end Dispatcher

end FaultResponse
