import FaultResponse.Service.Address
import FaultResponse.Service.Route
/-! # The router — from a request to its route

    The first route that covers the path and allows the method runs.  If a route
    covers the path but none of them allows the method, the method is refused.  A
    path that no route covers is sent to its neighbour, with a slash more or
    without its last slashes, when some route covers that; else it is not found.

    The routes are asked in order, so a path with a number that is too long fails only
    if no route before the one that reads the number settles the request. -/

namespace FaultResponse

/-- A request; the target is a path, which may carry a query. -/
structure Request where
  method : String := "GET"
  target : String
  headers : List (String × String) := []

namespace Request

/-- The path of a request, without the query. -/
def path (r : Request) : String :=
  String.ofList (r.target.toList.takeWhile (· ≠ '?'))

/-- The query of a request. -/
def query (r : Request) : String :=
  String.ofList ((r.target.toList.dropWhile (· ≠ '?')).drop 1)

/-- The path as it is read back from the address of the request. -/
def addressPath (r : Request) : String :=
  Address.pathOf r.path r.query

end Request

namespace Router

/-- The refusal of a method, which names the methods that are allowed. -/
def refuseMethod (allowed : List String) : Except Fault Http.Response :=
  rendered (Http.render 405 [("allow", ", ".intercalate allowed)] (some Http.jsonType)
    (refusalDocument (.text "Method Not Allowed")).json)

/-- The path that differs from a path in its last slashes only. -/
def neighbour (path : String) : String :=
  let reversed := path.toList.reverse
  match reversed with
  | '/' :: _ => String.ofList (reversed.dropWhile (· = '/')).reverse
  | _ => path ++ "/"

/-- Whether some route covers a path. -/
def isCovered (path : String) : List Route → Except Failure Bool
  | [] => .ok false
  | x :: rest =>
    match x.template.covers path with
    | .ok false => isCovered path rest
    | settled => settled

/-- Where a request whose path no route covers is sent, if anywhere. -/
def redirection? (routes : List Route) (r : Request) : Except Failure (Option String) :=
  if r.path = "/" then .ok none
  else
    match isCovered (neighbour r.path) routes with
    | .ok true => .ok (some (Address.location (Address.make (neighbour r.path) r.query)))
    | .ok false => .ok none
    | .error f => .error f

/-- The answer that sends a request elsewhere. -/
def redirect (location : String) : Http.Response :=
  (Http.compose 307 [] none "").set "location" location

/-- What the routes have for a request. -/
inductive Finding
  /-- A route that covers the path and allows the method. -/
  | allowed (x : Route)
  /-- The first route that covers the path; none that does allows the method. -/
  | refused (x : Route)
  /-- No route covers the path. -/
  | nothing

/-- What is found if a route that covers the path without allowing the method stands
    before the others. -/
def Finding.behind (x : Route) : Finding → Finding
  | .allowed y => .allowed y
  | .refused _ | .nothing => .refused x

/-- Ask the routes in order. -/
def find (r : Request) : List Route → Except Failure Finding
  | [] => .ok .nothing
  | x :: rest =>
    match x.template.covers r.path with
    | .error f => .error f
    | .ok false => find r rest
    | .ok true =>
      if x.methods.contains r.method then .ok (.allowed x)
      else
        match find r rest with
        | .ok found => .ok (found.behind x)
        | .error f => .error f

/-- The answer to a request that no route covers. -/
def answerUncovered (routes : List Route) (r : Request) : Except Fault Http.Response :=
  match redirection? routes r with
  | .ok (some location) => .ok (redirect location)
  | .ok none => refuse 404 (.text "Not Found")
  | .error f => .error (f.fault .valueError)

/-- Find the route of a request and run it. -/
def route (routes : List Route) (r : Request) (scope : Option Scope) (i : Intake) : Routed :=
  match find r routes with
  | .ok (.allowed x) => x.run scope i
  | .ok (.refused x) => ⟨refuseMethod x.methods, scope, i⟩
  | .ok .nothing => ⟨answerUncovered routes r, scope, i⟩
  | .error f => ⟨.error (f.fault .valueError), scope, i⟩

end Router

end FaultResponse
