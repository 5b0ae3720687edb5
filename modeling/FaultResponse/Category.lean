import FaultResponse.Remote.Context
/-! # Categories — which policy an exception falls under

    The class of an exception decides its category.  The categories are tried in
    a fixed order and the first one that the class belongs to counts, so a class
    with several bases falls under the policy that comes first. -/

namespace FaultResponse

/-- The policies, in order of precedence. -/
inductive Category
  | accessDenied | notFound | invalidRequest | illegalState | remoteFailure | generic
  deriving DecidableEq, Repr

namespace Category

/-- All categories, the first one first. -/
def all : List Category :=
  [accessDenied, notFound, invalidRequest, illegalState, remoteFailure, generic]

/-- The name of a category. -/
def name : Category → String
  | accessDenied => "access_denied"
  | notFound => "not_found"
  | invalidRequest => "invalid_request"
  | illegalState => "illegal_state"
  | remoteFailure => "upstream_failure"
  | generic => "generic"

/-- The category of a name. -/
def ofName? (name : String) : Option Category :=
  all.find? fun c => decide (c.name = name)

/-- Whether a class meets the test of a category. -/
def admits : Category → Class → Bool
  | accessDenied, c => c.is .accessDenied
  | notFound, c => c.is .notFound
  | invalidRequest, c => c.is .invalidRequest || c.is .userError || c.is .valueError
  | illegalState, c => c.is .illegalState
  | remoteFailure, c => c.isRemote
  | generic, _ => true

/-- The first category that admits a class. -/
def ofClass (c : Class) : Category :=
  if accessDenied.admits c then accessDenied
  else if notFound.admits c then notFound
  else if invalidRequest.admits c then invalidRequest
  else if illegalState.admits c then illegalState
  else if remoteFailure.admits c then remoteFailure
  else generic

end Category

/-- The category of an exception. -/
def Fault.category (e : Fault) : Category :=
  .ofClass e.cls

end FaultResponse
