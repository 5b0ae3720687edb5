import FaultResponse.Category
/-! # Verdicts — how one exception is answered

    A verdict says what the client gets, what is written to the log, and which
    exception is kept for diagnosis.  Two verdicts answer alike when they differ
    in that exception at most. -/

namespace FaultResponse

/-- How loudly an exception is logged. -/
inductive LogLevel
  | none | warning | error
  deriving DecidableEq, Repr

namespace LogLevel

/-- The name of a level. -/
def name : LogLevel → String
  | none => "NONE"
  | warning => "WARNING"
  | error => "ERROR"

/-- The level of a name. -/
def ofName? (s : String) : Option LogLevel :=
  [none, warning, error].find? fun l => decide (l.name = s)

/-- The severity of the record to write, if one is to be written. -/
def severity? : LogLevel → Option Severity
  | none => .none
  | warning => some .warning
  | error => some .error

end LogLevel

/-- What is to be logged about an exception. -/
structure LogPlan where
  level : LogLevel := .none
  text : Text := ""
  traceback : Bool := false
  deriving DecidableEq, Repr

/-- How an exception is answered. -/
structure Verdict where
  category : Category
  status : Int
  message : Text
  log : LogPlan := {}
  /-- What was found out about a failed remote call. -/
  context : Attributes := []
  /-- The exception to keep. -/
  subject : Option Fault := none
  deriving DecidableEq, Repr

namespace Verdict

/-- The verdict without the exception that it keeps. -/
def answer (v : Verdict) : Verdict :=
  { v with subject := none }

/-- Whether two verdicts answer alike. -/
def answersLike (v w : Verdict) : Bool :=
  decide (v.answer = w.answer)

/-- The verdict, if the exception that it keeps can tell its message. -/
def told (v : Verdict) : Except Failure Verdict :=
  match v.subject.map Fault.message with
  | some (.error f) => .error f
  | _ => .ok v

end Verdict

end FaultResponse
