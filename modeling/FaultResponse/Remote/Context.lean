import FaultResponse.Fault.Basic
import FaultResponse.Log
import FaultResponse.Text.Utf8
/-! # Remote context — what can be told about a failed remote call

    The context of a failed call always has the address and has the body when
    the response says that it is a JSON document and the body can be read.
    Reading is the only step that changes anything: the body of a known response
    may move on, and a body that cannot be read leaves one DEBUG record. -/

namespace FaultResponse

/-- The outcome of a step, the bodies after it, and the records that it wrote. -/
structure Traced (α : Type) where
  outcome : Except Failure α
  bodies : Bodies
  log : List LogRecord

/-- Apply a function to what a step returned. -/
def Traced.map {α β : Type} (f : α → β) (t : Traced α) : Traced β :=
  match t.outcome with
  | .ok a => ⟨.ok (f a), t.bodies, t.log⟩
  | .error e => ⟨.error e, t.bodies, t.log⟩

/-- Continue with a step that neither reads a body nor writes a record. -/
def Traced.andThen {α β : Type} (t : Traced α) (f : α → Except Failure β) : Traced β :=
  match t.outcome with
  | .ok a => ⟨f a, t.bodies, t.log⟩
  | .error e => ⟨.error e, t.bodies, t.log⟩

/-! ## The failed call -/

/-- Whether the exceptions of a class report the failure of a remote call. -/
def Class.isRemote (c : Class) : Bool :=
  c.is .remoteCallError || c.is .httpError

namespace Fault

/-- The response that the exception holds, if one was received. -/
def response? (e : Fault) : Except Failure (Option Response) :=
  if e.is .remoteCallError || e.is .httpStatusError then e.part "response" e.details.response
  else .ok none

/-- Whether the exception holds a response. -/
def hasResponse (e : Fault) : Bool :=
  match e.response? with
  | .ok (some _) => true
  | _ => false

/-- The address of the request behind a client's error. -/
def requestUrl (e : Fault) : Except Failure (Option Text) :=
  e.part "_request" e.details.request

/-- The address of the failed call: the one that the exception names, else the one
    of the response, else the one of the request. -/
def remoteUrl (e : Fault) (response : Option Response) : Except Failure (Option Text) :=
  if e.is .remoteCallError then e.part "url" e.details.url
  else
    match response with
    | some (.known r) => .ok r.url
    | some (.foreign r) =>
      match r.url with
      | .value v => .ok (some v.toText)
      | .absent => .error (.missingField r.typeName "url")
      | .failing f => if f.kind.is .runtimeError then .ok none else .error f
    | none => if e.is .requestError then e.requestUrl else .ok none

end Fault

/-! ## The body of a JSON response -/

namespace Response

/-- The header that says what a body is. -/
def contentTypeHeader : String := "content-type"

/-- The media type of the bodies that are read. -/
def jsonMediaType : String := "application/json"

/-- Whether a header name is the one looked for, in any case. -/
def isContentType : HeaderItem → Bool
  | .text s => decide (s.folded = contentTypeHeader)
  | .other => false

/-- The text of a header value, if it is one. -/
def headerText : HeaderItem → Option Text
  | .text s => some s
  | .other => none

/-- The value of the first content type among header pairs. -/
def findContentType (items : List (HeaderItem × HeaderItem)) : Option Text :=
  (items.find? fun item => isContentType item.1).bind fun item => headerText item.2

/-- The content type of a response.  Headers that cannot be listed are as good as
    none; any other failure to list them is passed on. -/
def contentType : Response → Except Failure (Option Text)
  | known r => .ok (findContentType (r.headers.map fun h => (.text h.1, .text h.2)))
  | foreign r =>
    match r.headers with
    | .absent => .ok none
    | .pairs items => .ok (findContentType items)
    | .failing f => if f.kind.is .attributeError then .ok none else .error f

/-- Whether a content type announces a JSON document. -/
def isJson : Option Text → Bool
  | some s => s.folded.contains jsonMediaType
  | none => false

/-- Whether a failure to read a body is expected: the client's own errors, and
    those of a stream or of the connection. -/
def isReadFailure (f : Failure) : Bool :=
  f.kind.is .httpError || f.kind.is .runtimeError || f.kind.is .osError

/-- The record of a response without a reading operation. -/
def noBodyRecord (typeName : String) : LogRecord where
  logger := .remote
  severity := .debug
  text := "Upstream response " ++ typeName ++ " has no readable body"

/-- The record of a body that could not be read. -/
def unreadableRecord (f : Failure) : LogRecord where
  logger := .remote
  severity := .debug
  text := "Upstream response body could not be read"
  raised := some f.name

/-- What a failed read amounts to: no body and one record, or the failure itself. -/
def afterFailure (f : Failure) (bodies : Bodies) : Traced (Option Text) :=
  if isReadFailure f then ⟨.ok none, bodies, [unreadableRecord f]⟩
  else ⟨.error f, bodies, []⟩

/-- What a response without a reading operation amounts to. -/
def withoutBody (typeName : String) (bodies : Bodies) : Traced (Option Text) :=
  ⟨.ok none, bodies, [noBodyRecord typeName]⟩

/-- The text that a foreign read gives, if it is one. -/
def bodyText : ReadValue → Option Text
  | .text s => some s
  | .octets bytes => some (Text.Utf8.decode bytes)
  | .other => none

/-- Read the body as a text. -/
def readBody (r : Response) (bodies : Bodies) : Traced (Option Text) :=
  match r with
  | known k =>
    let after := bodies.set k.body (bodies k.body).read.2
    match (bodies k.body).read.1 with
    | .ok bytes => ⟨.ok (some (Text.Utf8.decode bytes)), after, []⟩
    | .error f => afterFailure f after
  | foreign k =>
    match k.read with
    | .absent => withoutBody k.typeName bodies
    | .hidden f =>
      if f.kind.is .attributeError then withoutBody k.typeName bodies
      else ⟨.error f, bodies, []⟩
    | .value v => ⟨.ok (bodyText v), bodies, []⟩
    | .failing f => afterFailure f bodies

end Response

/-! ## The context -/

/-- What is told about a failed call. -/
structure RemoteContext where
  url : Option Text
  body : Option Text
  deriving DecidableEq, Repr

namespace RemoteContext

/-- The context as attributes: the address always, the body when there is one. -/
def toAttributes (c : RemoteContext) : Attributes :=
  ("url", Value.ofText? c.url) ::
    match c.body with
    | some b => [("body", .text b)]
    | none => []

end RemoteContext

/-- The context of a failed call. -/
def Fault.remoteContext (e : Fault) (bodies : Bodies) : Traced RemoteContext :=
  match e.response? with
  | .error f => ⟨.error f, bodies, []⟩
  | .ok response =>
    match e.remoteUrl response, response with
    | .error f, _ => ⟨.error f, bodies, []⟩
    | .ok url, none => ⟨.ok ⟨url, none⟩, bodies, []⟩
    | .ok url, some r =>
      match r.contentType with
      | .error f => ⟨.error f, bodies, []⟩
      | .ok type =>
        if Response.isJson type then (r.readBody bodies).map (⟨url, ·⟩)
        else ⟨.ok ⟨url, none⟩, bodies, []⟩

end FaultResponse
