import FaultResponse.Value
/-! # Log records — what is written about a fault

    Every record names its logger, its severity and a text.  It may carry the
    class of the exception it was written about, and the record of the rendered
    attributes carries those. -/

namespace FaultResponse

/-- The loggers of this library. -/
inductive Logger
  | scopes | remote | emitter | dispatcher
  deriving DecidableEq, Repr

/-- The name of a logger; all of them lie below one common name. -/
def Logger.name : Logger → String
  | scopes => "errorshield.domain.diagnostics"
  | remote => "errorshield.infrastructure.upstream"
  | emitter => "errorshield.shared.errors.emitter"
  | dispatcher => "errorshield.shared.errors.handlers"

/-- How serious a record is. -/
inductive Severity
  | debug | warning | error
  deriving DecidableEq, Repr

namespace Severity

/-- The place of a severity on the scale of levels. -/
def level : Severity → Nat
  | debug => 10
  | warning => 30
  | error => 40

/-- The name of a severity. -/
def name : Severity → String
  | debug => "DEBUG"
  | warning => "WARNING"
  | error => "ERROR"

end Severity

/-- One record. -/
structure LogRecord where
  logger : Logger
  severity : Severity
  text : Text
  /-- The name of the class of the exception that the record shows. -/
  raised : Option String := none
  attributes : Option Attributes := none
  deriving DecidableEq, Repr

/-- The records at or above a level, in order. -/
def visibleAt (level : Int) (log : List LogRecord) : List LogRecord :=
  log.filter fun r => decide (level ≤ r.severity.level)

/-- A filter at the lower of two levels loses nothing that the higher one shows. -/
theorem visibleAt_visibleAt {low high : Int} (h : low ≤ high) (log : List LogRecord) :
    visibleAt high (visibleAt low log) = visibleAt high log := by
  unfold visibleAt
  rw [List.filter_filter]
  apply List.filter_congr
  intro r _
  by_cases hr : high ≤ (r.severity.level : Int)
  · simp [hr, Int.le_trans h hr]
  · simp [hr]

@[simp] theorem visibleAt_append (level : Int) (log more : List LogRecord) :
    visibleAt level (log ++ more) = visibleAt level log ++ visibleAt level more :=
  List.filter_append ..

/-- Above DEBUG nothing is seen of a log that has only DEBUG records. -/
theorem visibleAt_of_debug {level : Int} (hl : Severity.debug.level < level)
    {log : List LogRecord} (h : ∀ r ∈ log, r.severity = .debug) : visibleAt level log = [] := by
  unfold visibleAt
  rw [List.filter_eq_nil_iff]
  intro r hr
  rw [h r hr]
  simpa using hl

end FaultResponse
