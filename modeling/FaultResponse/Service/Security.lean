import FaultResponse.Http.Response
/-! # Security headers — what every response carries

    Four headers with fixed values are set on every response, and the number of
    the request when there is one.  Setting a header drops whatever the response
    had under its name. -/

namespace FaultResponse.Security

/-- The headers and their values. -/
def headers : List (String × String) :=
  [("x-content-type-options", "nosniff"), ("x-frame-options", "DENY"),
   ("referrer-policy", "strict-origin-when-cross-origin"),
   ("content-security-policy", "default-src 'none'")]

/-- The header that carries the number of the request. -/
def requestIdHeader : String := "x-request-id"

/-- Set headers one after another. -/
def setAll (r : Http.Response) : List (String × String) → Http.Response
  | [] => r
  | h :: rest => setAll (r.set h.1 h.2) rest

/-- Secure a response to the request of the given number. -/
def secure (requestId : Option String) (r : Http.Response) : Http.Response :=
  let secured := setAll r headers
  match requestId with
  | some id => secured.set requestIdHeader id
  | none => secured

end FaultResponse.Security
