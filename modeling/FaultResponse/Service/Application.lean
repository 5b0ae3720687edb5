import FaultResponse.Service.Router
import FaultResponse.Service.Security
/-! # The application — routes behind the dispatcher

    A request goes through the security headers and the dispatcher to a route,
    and its answer goes back the same way.  Which of the two layers are there,
    and which one is outside, is the layout of the application.  Every application
    describes itself, and the full one also tells how it is configured. -/

namespace FaultResponse

/-! ## Layouts -/

/-- The layers around the routes. -/
inductive Layout
  /-- Security headers around the dispatcher, and the route that tells the configuration. -/
  | full
  | dispatcherOnly
  | securityOnly
  /-- The dispatcher around security headers. -/
  | securityInside
  deriving DecidableEq, Repr

/-- An application. -/
structure Application where
  layout : Layout
  dispatcher : Dispatcher
  routes : List Route

namespace Application

/-- The routes as the inner application of the dispatcher. -/
def inner (a : Application) (r : Request) (i : Intake) (scope : Scope) : Inner :=
  let routed := Router.route a.routes r (some scope) i
  ⟨routed.outcome, routed.scope.getD scope, routed.intake⟩

/-- The routes behind security headers as the inner application of the dispatcher. -/
def securedInner (a : Application) (r : Request) (i : Intake) (scope : Scope) : Inner :=
  let answered := a.inner r i scope
  { answered with
    outcome :=
      match answered.outcome with
      | .ok response => .ok (Security.secure (some answered.scope.requestId) response)
      | .error e => .error e.throughLayer }

/-- Security headers around a finished exchange. -/
def secured (e : Exchange) : Exchange :=
  { e with
    outcome :=
      match e.outcome with
      | .ok response => .ok (Security.secure (e.scope.map (·.requestId)) response)
      | .error f => .error f.throughLayer }

/-- The routes without a dispatcher. -/
def bare (a : Application) (i : Intake) (r : Request) : Exchange :=
  let routed := Router.route a.routes r none i
  match routed.outcome with
  | .ok response => ⟨.ok response, none, routed.intake, []⟩
  | .error e => ⟨.error e.failure, none, routed.intake, []⟩

/-- Serve a request; `fresh` is the number that it gets if it brings none. -/
def serve (a : Application) (fresh : String) (i : Intake) (r : Request) : Exchange :=
  let id := Dispatcher.requestId r.headers fresh
  match a.layout with
  | .full => secured (a.dispatcher.dispatch id r.addressPath (a.inner r i))
  | .dispatcherOnly => a.dispatcher.dispatch id r.addressPath (a.inner r i)
  | .securityInside => a.dispatcher.dispatch id r.addressPath (a.securedInner r i)
  | .securityOnly => secured (a.bare i r)

/-- Serve requests in order; each exchange shows the records that the configured
    level lets through. -/
def serveAll (a : Application) (fresh : String) (i : Intake) : List Request → List Exchange
  | [] => []
  | r :: rest =>
    let e := a.serve fresh i r
    e.seenAt a.dispatcher.level :: serveAll a fresh e.intake rest

/-! ## Routes of every application -/

/-- Where the service describes itself to programs. -/
def descriptionPath : String := "/openapi.json"

/-- Where the service describes itself to readers. -/
def readerPaths : List String :=
  ["/docs", "/docs/oauth2-redirect", "/redoc"]

/-- A route that describes the service.  The description itself is not made here. -/
def descriptionRoute (path : String) : Route where
  template := .exact path
  reply := .text 200 [] ""

/-- The route that tells the configuration. -/
def healthRoute (s : Settings) : Route where
  template := .exact "/api/v1/health"
  methods := ["GET"]
  reply := .health s

/-- Whether readers find a description: in the full layout only when debugging. -/
def describesToReaders (layout : Layout) (s : Settings) : Bool :=
  match layout with
  | .full => s.debug
  | _ => true

/-- The routes that an application has before any is added. -/
def ownRoutes (layout : Layout) (s : Settings) : List Route :=
  (descriptionPath :: if describesToReaders layout s then readerPaths else []).map
      descriptionRoute
    ++ match layout with
      | .full => [healthRoute s]
      | _ => []

/-- Where a full application describes itself to readers, if it does. -/
def documentationPath (s : Settings) (path : String) : Option String :=
  if s.debug then some path else none

/-! ## Assembly -/

/-- A route as it is given: its path is yet to be read. -/
structure RouteSpec where
  path : String
  before : List Preparation := []
  reply : Reply

/-- Why no application can be put together. -/
inductive AssemblyError
  /-- The service has no name. -/
  | untitled
  /-- The service has no version. -/
  | unversioned
  /-- A path is no template. -/
  | template (e : TemplateError)
  deriving DecidableEq, Repr

namespace AssemblyError

/-- The name of the exception class that reports the error. -/
def name : AssemblyError → String
  | untitled | unversioned => "AssertionError"
  | template e => e.name

/-- The wording. -/
def message : AssemblyError → String
  | untitled => "A title must be provided for OpenAPI, e.g.: 'My API'"
  | unversioned => "A version must be provided for OpenAPI, e.g.: '2.1.0'"
  | template e => e.message

end AssemblyError

/-- Read the paths of routes; the first one that is no template is reported. -/
def readRoutes : List RouteSpec → Except TemplateError (List Route)
  | [] => .ok []
  | s :: rest =>
    match PathTemplate.ofPath s.path with
    | .error e => .error e
    | .ok template =>
      match readRoutes rest with
      | .ok routes => .ok ({ template, before := s.before, reply := s.reply } :: routes)
      | .error e => .error e

/-- What the settings of a full application lack. -/
def lack? (layout : Layout) (s : Settings) : Option AssemblyError :=
  match layout with
  | .full =>
    if s.projectName.isEmpty then some .untitled
    else if s.version.isEmpty then some .unversioned
    else none
  | _ => none

/-- The levels in effect: the full layout takes them from the settings, the others
    from one name for all loggers. -/
def logConfigOf (layout : Layout) (s : Settings) (level : Option String) : LogConfig :=
  match layout with
  | .full => s.logConfig
  | _ => .ofNames level none

/-- The judge when none is given: the full layout builds it from the settings, the
    others classify without guidance. -/
def defaultJudge (layout : Layout) (s : Settings) : Judge :=
  match layout with
  | .full => s.judge {}
  | _ => .classifier {} .shared

/-- Put an application together. -/
def assemble (layout : Layout) (s : Settings) (level : Option String) (judge : Option Judge)
    (registries : Registries) (now : String) (routes : List RouteSpec) :
    Except AssemblyError Application :=
  match lack? layout s, readRoutes routes with
  | some e, _ => .error e
  | none, .error e => .error (.template e)
  | none, .ok added =>
    .ok
      { layout := layout
        dispatcher :=
          { judge := judge.getD (defaultJudge layout s)
            registries := registries
            level := (logConfigOf layout s level).effectiveLevel [] LogConfig.libraryLogger
            now := now }
        routes := ownRoutes layout s ++ added }

end Application

end FaultResponse
