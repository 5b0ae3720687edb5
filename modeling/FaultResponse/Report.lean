import FaultResponse.Http.Status
import FaultResponse.Scope
/-! # Error reports — what was kept, as attributes

    A report lists five facts about the response and its request.  When an
    exception was kept, its class and message follow, and then its additional
    attributes: one that bears the name of a listed fact replaces it where it
    stands, any other is appended. -/

namespace FaultResponse

/-- The five facts of every report. -/
def Scope.responseFacts (s : Scope) (status : Int) (path : Option Text) (now : String) :
    Attributes :=
  [("timestamp", .text now), ("status", .int status), ("error", .text (Http.phrase status)),
   ("path", Value.ofText? path), ("request_id", .text s.requestId)]

/-- The two facts about an exception that was kept. -/
def Fault.facts (e : Fault) (message : Option Text) : Attributes :=
  [("exception", .text e.cls.path), ("message", Value.ofText? message)]

/-- The report on a scope. -/
def Scope.report (s : Scope) (status : Int) (path : Option Text) (now : String) :
    Except Failure Attributes :=
  match s.exception with
  | none => .ok (s.responseFacts status path now)
  | some e =>
    match e.message with
    | .error f => .error f
    | .ok m =>
      .ok (OrderedMap.update (s.responseFacts status path now ++ e.facts m)
        (e.attributes?.getD []))

namespace Scope

variable {s : Scope} {e : Fault}

theorem report_of_empty (h : s.exception = none) (status : Int) (path : Option Text)
    (now : String) : s.report status path now = .ok (s.responseFacts status path now) := by
  simp only [report, h]

/-- With an exception a report is made as far as the exception can tell its message. -/
theorem report_of_kept (h : s.exception = some e) (status : Int) (path : Option Text)
    (now : String) :
    s.report status path now = e.message.map fun m =>
      OrderedMap.update (s.responseFacts status path now ++ e.facts m)
        (e.attributes?.getD []) := by
  simp only [report, h]
  cases e.message with
  | error f => rfl
  | ok m => rfl

end Scope

end FaultResponse
