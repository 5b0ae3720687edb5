import FaultResponse.Category
/-! # Inspection — every fact about one exception

    An inspection lists what classification would find out about an exception,
    whatever its category: the category, the message, and what is known of a
    failed remote call.  It stops at the first fact that cannot be had. -/

namespace FaultResponse

/-- The facts about an exception. -/
structure Inspection where
  category : Category
  message : Option Text
  isRemote : Bool
  hasResponse : Bool
  url : Option Text
  status : Option Int
  context : RemoteContext

/-- The status of a response, if there is a response and it carries one. -/
def statusOf : Option Response → Except Failure (Option Int)
  | none => .ok none
  | some r => r.status?

/-- Inspect an exception. -/
def Fault.inspect (e : Fault) (bodies : Bodies) : Traced Inspection :=
  match e.message, e.response? with
  | .error f, _ | _, .error f => ⟨.error f, bodies, []⟩
  | .ok message, .ok response =>
    match e.remoteUrl response, statusOf response with
    | .error f, _ | .ok _, .error f => ⟨.error f, bodies, []⟩
    | .ok url, .ok status =>
      (e.remoteContext bodies).map fun context =>
        { category := e.category
          message := message
          isRemote := e.cls.isRemote
          hasResponse := response.isSome
          url := url
          status := status
          context := context }

end FaultResponse
