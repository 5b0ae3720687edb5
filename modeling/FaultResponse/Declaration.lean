import FaultResponse.Class.Basic
import FaultResponse.Http.Status
import FaultResponse.Store
/-! # Declarations — the status that a class of exceptions asks for

    A registry holds the status that was declared last for each class.  A class
    without a declaration of its own takes the one of its nearest ancestor that
    has one.  There is one shared registry, and as many further ones as are
    made; a declaration that names no registry goes to the shared one. -/

namespace FaultResponse

/-- A declared status and the reason to give when an exception has no message. -/
structure Declaration where
  status : Int
  reason : Text
  isStatus : Http.isStatus status = true

namespace Declaration

/-- Declare a status, if it is one. -/
def make (status : Int) (reason : Text) : Except Failure Declaration :=
  if h : Http.isStatus status = true then .ok ⟨status, reason, h⟩
  else .error (.statusOutOfRange status)

/-- The phrase of the declared status. -/
def phrase (d : Declaration) : String :=
  Http.phrase d.status

/-- Whether the status blames the server. -/
def isServerError (d : Declaration) : Bool :=
  decide (500 ≤ d.status)

/-- The text that stands in for a message: the reason, or else the phrase. -/
def standIn (d : Declaration) : Text :=
  if d.reason.isEmpty then d.phrase else d.reason

end Declaration

/-- What is declared for each class itself. -/
abbrev Registry := Store ClassId (Option Declaration)

namespace Registry

/-- The registry without declarations. -/
def empty : Registry :=
  fun _ => none

/-- Declare a status for a class; a number that is no status changes nothing. -/
def register (r : Registry) (c : ClassId) (status : Int) (reason : Text) :
    Except Failure Registry :=
  match Declaration.make status reason with
  | .ok d => .ok (r.set c (some d))
  | .error f => .error f

/-- The nearest declaration along a lineage. -/
def find (r : Registry) (lineage : List ClassId) : Option Declaration :=
  lineage.findSome? r

/-- Whether the class itself has a declaration. -/
def declares (r : Registry) (c : ClassId) : Bool :=
  (r c).isSome

end Registry

/-! ## All registries -/

/-- Which registry is meant. -/
inductive RegistryName
  | shared
  | own (n : Nat)
  deriving DecidableEq, Repr

/-- Every registry. -/
abbrev Registries := Store RegistryName Registry

namespace Registries

/-- No declarations anywhere. -/
def empty : Registries :=
  fun _ => Registry.empty

/-- Declare a status on one registry. -/
def register (rs : Registries) (name : RegistryName) (c : ClassId) (status : Int)
    (reason : Text) : Except Failure Registries :=
  match (rs name).register c status reason with
  | .ok r => .ok (rs.set name r)
  | .error f => .error f

/-- Declare a status where a class is defined: on the named registry, even if that
    one is still empty, and on the shared one if none is named. -/
def annotate (rs : Registries) (name : Option RegistryName) (c : ClassId) (status : Int)
    (reason : Text) : Except Failure Registries :=
  rs.register (name.getD .shared) c status reason

end Registries

end FaultResponse
