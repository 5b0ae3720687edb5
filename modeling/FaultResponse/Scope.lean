import FaultResponse.Fault.Basic
import FaultResponse.Log
/-! # Diagnostic scopes — the exception kept for one request

    A scope belongs to one request and keeps the exception that was handled for
    it.  Finalizing closes the scope for good: a later write is refused and
    changes nothing.  The recorder writes as far as it can: an ordinary refusal
    becomes a warning in the log. -/

namespace FaultResponse

/-- What is kept for one request. -/
structure Scope where
  requestId : String
  exception : Option Fault := none
  finalized : Bool := false
  deriving DecidableEq, Repr

namespace Scope

/-- Keep an exception, unless the scope is finalized. -/
def record (s : Scope) (e : Fault) : Except Failure Scope :=
  if s.finalized then .error (.scopeFinalized s.requestId)
  else .ok { s with exception := some e }

/-- Close the scope. -/
def finalize (s : Scope) : Scope :=
  { s with finalized := true }

theorem record_of_open {s : Scope} (h : s.finalized = false) (e : Fault) :
    s.record e = .ok { s with exception := some e } := by
  simp [record, h]

theorem record_of_finalized {s : Scope} (h : s.finalized = true) (e : Fault) :
    s.record e = .error (.scopeFinalized s.requestId) := by
  simp [record, h]

@[simp] theorem finalize_finalize (s : Scope) : s.finalize.finalize = s.finalize := rfl

end Scope

/-- A place where an exception can be kept: a scope, or one that refuses every
    write for a reason of its own. -/
inductive Slot
  | sound (s : Scope)
  | failing (s : Scope) (f : Failure)
  deriving DecidableEq, Repr

namespace Slot

/-- The scope behind the place. -/
def scope : Slot → Scope
  | sound s | failing s _ => s

/-- Keep an exception. -/
def record : Slot → Fault → Except Failure Slot
  | sound s, e =>
    match s.record e with
    | .ok t => .ok (sound t)
    | .error f => .error f
  | failing _ f, _ => .error f

/-- Close the scope. -/
def finalize : Slot → Slot
  | sound s => sound s.finalize
  | failing s f => failing s.finalize f

end Slot

/-! ## The recorder -/

/-- The record of a refused write. -/
def refusedRecord (e : Fault) (f : Failure) : LogRecord where
  logger := .scopes
  severity := .warning
  text := "Could not record " ++ e.cls.name ++ " on diagnostic scope"
  raised := some f.name

/-- Keep an exception as far as possible: an ordinary refusal is logged and leaves
    the place as it was, any other failure is passed on. -/
def Slot.keep (s : Slot) (e : Fault) : Except Failure Slot × List LogRecord :=
  match s.record e with
  | .ok t => (.ok t, [])
  | .error f => if f.isOrdinary then (.ok s, [refusedRecord e f]) else (.error f, [])

end FaultResponse
