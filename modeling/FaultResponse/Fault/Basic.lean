import FaultResponse.Remote.Response
/-! # Faults — exceptions that reach the library

    A fault is an exception: its class, and what its constructors kept.  Guards
    ask the class, texts are made from the arguments, and the errors of this
    library keep a message of their own, which is what a client may read. -/

namespace FaultResponse

/-- What the constructors of an exception kept.  Each of them keeps its own part; a
    part whose constructor has not run is not there, which is not the same as a part
    that is known to be empty. -/
structure Details where
  /-- The arguments from which a text is made. -/
  arguments : List Value := []
  /-- What a system error tells. -/
  system : Option SystemRecord := none
  /-- The message of an error of this library. -/
  message : Option (Option Text) := none
  /-- The address that a failed remote call names. -/
  url : Option (Option Text) := none
  /-- The response that came, if one did. -/
  response : Option (Option Response) := none
  /-- The attributes that the exception carries itself. -/
  attributes : Option Attributes := none
  /-- The address of the request behind a client's error. -/
  request : Option (Option Text) := none
  deriving DecidableEq, Repr

/-- What an error of this library keeps of its message: without one it has no arguments. -/
def Details.ofMessage (message : Option Text) : Details where
  arguments := (message.map Value.text).toList
  message := some message

/-- An exception. -/
structure Fault where
  cls : Class
  details : Details
  deriving DecidableEq, Repr

namespace Fault

/-- Whether the exception is an instance of a known class. -/
def is (e : Fault) (k : Known) : Bool :=
  e.cls.is k

/-- The text of the exception, which its class may refuse to make. -/
def text (e : Fault) : Except Failure Text :=
  e.cls.textRule.render e.details.system e.details.arguments

/-- A part of the exception, unless its constructor has not run. -/
def part {α : Type} (e : Fault) (field : String) : Option α → Except Failure α
  | some a => .ok a
  | none => .error (.missingField e.cls.name field)

/-- The message of the exception.  An error of this library answers with the one
    it keeps.  Of any other exception it is the text, where an empty text is no
    message, and an ordinary failure to make the text leaves it without one. -/
def message (e : Fault) : Except Failure (Option Text) :=
  if e.is .domainError then e.part "message" e.details.message
  else
    match e.text with
    | .ok s => .ok (if s.isEmpty then none else some s)
    | .error f => if f.isOrdinary then .ok none else .error f

/-- The additional attributes, if the exception has any. -/
def attributes? (e : Fault) : Option Attributes :=
  match e.cls.attributeRule? with
  | some (.shared a) => some a
  | some .carried => e.details.attributes
  | none => none

/-- The exception as the cause for which an operation did not return. -/
def failure (e : Fault) : Failure :=
  match e.text with
  | .ok s => .raised e.cls.kind s
  | .error _ => .raised e.cls.kind ""

/-- The exception of a class with one text. -/
def ofClass (c : Class) (text : Text) : Fault :=
  ⟨c, { arguments := [.text text] }⟩

/-- The exception of a known class with one text. -/
def ofText (k : Known) (text : Text) : Fault :=
  .ofClass k.toClass text

end Fault

/-- The exception that this library raises for a failure of its own. -/
def Failure.fault (f : Failure) (k : Known) : Fault :=
  .ofText k f.message

/-- The exception as it leaves a layer that waits for the application inside it. -/
def Fault.throughLayer (e : Fault) : Fault :=
  if e.cls.kind.isOrdinary || e.cls.kind.isSignal then e
  else .ofClass Internal.group.toClass Failure.failedTogether.message

/-- The exception that is raised in the place of one that cannot be made. -/
def Misuse.fault (m : Misuse) : Fault :=
  .ofClass (m.reporter.elim Known.toClass Internal.toClass) m.message

end FaultResponse
