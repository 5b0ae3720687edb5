import FaultResponse.Fault.Initialiser
/-! # Building faults — from constructor inputs to an exception

    The class decides which of the inputs its constructor is called with: the
    errors for remote calls come first, then the client's errors, and every other
    class is called with positional arguments.  A response that comes with a fault
    is received once, before the constructor runs, and its body gets a number.
    Inputs that a constructor or a response cannot use are a misuse. -/

namespace FaultResponse

/-! ## Receiving responses -/

/-- A response as it arrives. -/
inductive ResponseSpec
  | known (status : Int) (headers : List (String × String)) (url : Option Text)
      (arrival : Arrival) (closed : Bool)
  | foreign (r : ForeignResponse)

/-- The bodies received so far, and the number of the next one. -/
structure Intake where
  next : BodyId := 0
  bodies : Bodies := fun _ => .held []

/-- Why a response cannot be received, if it cannot: its headers have to be ASCII, a
    caller that waits cannot close a body that arrives asynchronously, and the class of
    a foreign response needs a proper name. -/
def ResponseSpec.misuse? : ResponseSpec → Option Misuse
  | known _ headers _ arrival closed =>
    match Text.Charset.ascii.headerLack? headers, arrival, closed with
    | some u, _, _ => some (.unencodable u)
    | none, .asynchronous, true => some .closedAsynchronously
    | none, _, _ => none
  | foreign r => if r.typeName.toList.contains '\x00' then some .nullInName else none

namespace Intake

/-- Take in a response that can be received. -/
def take (i : Intake) : ResponseSpec → Response × Intake
  | .known status headers url arrival closed =>
    (.known ⟨i.next, status, joinHeaders headers, url⟩,
      ⟨i.next + 1, i.bodies.set i.next (arrival.body closed)⟩)
  | .foreign r => (.foreign r, i)

/-- Receive a response if there is one. -/
def receive? (i : Intake) : Option ResponseSpec → Except Misuse (Option Response × Intake)
  | none => .ok (none, i)
  | some spec =>
    match spec.misuse? with
    | some m => .error m
    | none => .ok (some (i.take spec).1, (i.take spec).2)

end Intake

/-! ## Error numbers -/

/-- The numbers of system errors that have a class of their own. -/
def errorNumbers : List (Int × Known) :=
  [(1, .permissionError), (2, .fileNotFoundError), (3, .processLookupError),
   (4, .interruptedError), (10, .childProcessError), (11, .blockingIoError),
   (13, .permissionError), (17, .fileExistsError), (20, .notADirectoryError),
   (21, .isADirectoryError), (32, .brokenPipeError), (103, .connectionAbortedError),
   (104, .connectionResetError), (108, .brokenPipeError), (110, .timeoutError),
   (111, .connectionRefusedError), (114, .blockingIoError), (115, .blockingIoError)]

/-- The class for an error number among two to five arguments. -/
def classOfNumber? : List Value → Option Known
  | number :: description :: files =>
    if (description :: files).length ≤ 4 then
      number.asInt?.bind fun n => errorNumbers.lookup n
    else none
  | _ => none

/-- The class of which an exception is made: the general system error gives way to
    the class of the error number among its arguments. -/
def specialised (c : Class) (args : List Value) : Class :=
  if c.head.id = .known .osError then
    match classOfNumber? args with
    | some k => k.toClass
    | none => c
  else c

/-! ## Exceptions -/

/-- The inputs of a constructor; each class takes those that it knows. -/
structure FaultSpec where
  cls : Class
  args : List Value := []
  message : Option Text := none
  url : Option Text := none
  request : Option Text := none
  response : Option ResponseSpec := none
  attributes : Option Attributes := none

namespace FaultSpec

/-- Whether the constructor is called with the response. -/
def takesResponse (s : FaultSpec) : Bool :=
  s.cls.is .remoteCallError || (!s.cls.is .remoteContextError && s.cls.is .httpStatusError)

/-- The call of the constructor, with the response that was received. -/
def call (s : FaultSpec) (response : Option Response) : Call :=
  let message := Value.ofText? s.message
  if s.cls.is .remoteCallError then
    { values := [message, Value.ofText? s.url], response := response.map some }
  else if s.cls.is .remoteContextError then
    { values := [message, Value.ofAttributes? s.attributes] }
  else if s.cls.is .httpStatusError then
    { values := [message], request := some s.request, response := some response }
  else if s.cls.is .requestError then
    { values := [message], request := some s.request }
  else { values := s.args }

end FaultSpec

namespace Fault

/-- Make an exception of a class by a call of its constructor. -/
def make (c : Class) (call : Call) : Except Misuse Fault :=
  let made := specialised c call.values
  match made.construct made.initialisers call with
  | .ok d => .ok ⟨made, d⟩
  | .error m => .error m

/-- Build an exception. -/
def build (s : FaultSpec) (i : Intake) : Except Misuse (Fault × Intake) :=
  match i.receive? (if s.takesResponse then s.response else none) with
  | .error m => .error m
  | .ok (response, i) =>
    match make s.cls (s.call response) with
    | .ok e => .ok (e, i)
    | .error m => .error m

/-- What raising an exception amounts to: only what derives from the root of all
    exceptions can be raised. -/
def raise (e : Fault) : Fault :=
  if e.is .baseException then e else Misuse.notRaisable.fault

end Fault

/-- What it means that code raises an exception of a class with one text.  If there is
    no such exception, the misuse is raised in its place. -/
def Class.failure (c : Class) (text : Text) : Failure :=
  match Fault.make c { values := [.text text] } with
  | .ok e => e.raise.failure
  | .error m => .misuse m

end FaultResponse
