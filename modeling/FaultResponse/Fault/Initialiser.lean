import FaultResponse.Fault.Basic
/-! # Initialisers — what the constructors along a lineage do with a call

    The constructors of a class run along its lineage.  The nearest one takes the
    call; each of them either ends the line by keeping the arguments, or passes a
    call of its own on to the next one and then keeps its part.  So two bases of a
    class may disagree: what one passes on may not be what the next one takes. -/

namespace FaultResponse

/-- A call of a constructor: arguments by position, and the two that go by name. -/
structure Call where
  values : List Value := []
  /-- The address of the request. -/
  request : Option (Option Text) := none
  response : Option (Option Response) := none
  deriving DecidableEq, Repr

namespace Call

/-- The names under which arguments are given. -/
def names (c : Call) : List String :=
  (if c.request.isSome then ["request"] else [])
    ++ (if c.response.isSome then ["response"] else [])

/-- Whether nothing is given. -/
def isEmpty (c : Call) : Bool :=
  c.values.isEmpty && c.names.isEmpty

/-- The message that the call begins with. -/
def message (c : Call) : Option Text :=
  c.values.head?.bind Value.toText?

/-- The address behind the message. -/
def address (c : Call) : Option Text :=
  c.values.tail.head?.bind Value.toText?

end Call

/-- How the constructor of a class treats a call. -/
inductive Initialiser
  /-- Keeps all arguments. -/
  | general
  /-- Keeps all arguments, and knows names for a few others. -/
  | labelled
  /-- Keeps all arguments, and reads two to five of them as a record. -/
  | system
  /-- Keeps a message, which may be left out. -/
  | library
  /-- Keeps an address, and a response if there is one. -/
  | remoteCall
  /-- Keeps attributes. -/
  | remoteContext
  /-- Takes a message. -/
  | client (k : Known)
  /-- Takes a message, and may keep a request. -/
  | request
  /-- Takes a message, and keeps a request and a response. -/
  | status
  /-- Takes nothing: the message is always this one. -/
  | fixed (k : Known) (message : String)
  deriving DecidableEq, Repr

/-- The constructor that a known class has itself. -/
def Known.initialiser? (k : Known) : Option Initialiser :=
  match k with
  | .object => none
  | .domainError => some .library
  | .remoteCallError => some .remoteCall
  | .remoteContextError => some .remoteContext
  | .httpError | .invalidUrl | .streamError => some (.client k)
  | .streamConsumed => some (.fixed k Failure.consumedText)
  | .streamClosed => some (.fixed k Failure.closedText)
  | .requestError => some .request
  | .httpStatusError => some .status
  | .attributeError => some .labelled
  | _ =>
    if k.home ≠ Known.generalModule then none
    else if k.line.contains .osError then some .system
    else some .general

/-- The constructor that a class of that identity has itself; an internal class is not
    called. -/
def ClassId.initialiser? : ClassId → Option Initialiser
  | .known k => k.initialiser?
  | .internal _ | .defined _ => none

/-- The constructors along the lineage, nearest first. -/
def Class.initialisers (c : Class) : List Initialiser :=
  c.lineage.filterMap ClassId.initialiser?

/-! ## System errors -/

namespace SystemRecord

/-- The first count that does not fit into a machine word of 64 bits. -/
def wordLimit : Int := 0x8000000000000000

/-- The counts that fit into a machine word. -/
def fitsWord (n : Int) : Bool :=
  decide (-wordLimit ≤ n) && decide (n < wordLimit)

/-- Whether the third argument of an exception of that class is a count of octets, and
    not a file. -/
def takesCount (c : Class) : Bool :=
  decide (c.head.id = .known .blockingIoError)

/-- What is kept of a number, a description and up to three further arguments. -/
def keep (c : Class) (number description : Value) (files : List Value) :
    Except Misuse Details :=
  let all : Details :=
    { arguments := number :: description :: files, system := some { number, description } }
  match files with
  | [] | .null :: _ => .ok all
  | file :: others =>
    match takesCount c, file.asInt? with
    | true, some n => if fitsWord n then .ok all else .error .countTooLarge
    | _, _ =>
      let second := match others with
        | [_, .null] => none
        | [_, other] => some other
        | _ => none
      .ok { arguments := [number, description],
            system := some { number, description, file := some file, second } }

end SystemRecord

/-- What a system error keeps. -/
def Details.ofSystem (c : Class) : List Value → Except Misuse Details
  | number :: description :: files =>
    if files.length ≤ 3 then SystemRecord.keep c number description files
    else .ok { arguments := number :: description :: files }
  | values => .ok { arguments := values }

/-! ## One constructor -/

namespace Initialiser

/-- The parameters of a constructor that names them. -/
def signature? : Initialiser → Option Signature
  | general | labelled | system => none
  | library => some { owner := Known.domainError.name, optional := ["message"] }
  | remoteCall =>
    some { owner := Known.remoteCallError.name, required := ["message", "url"],
           optional := ["response"] }
  | remoteContext =>
    some { owner := Known.remoteContextError.name,
           required := ["message", "additional_attributes"] }
  | client k => some { owner := k.name, required := ["message"] }
  | request =>
    some { owner := Known.requestError.name, required := ["message"], named := ["request"] }
  | status =>
    some { owner := Known.httpStatusError.name, required := ["message"],
           named := ["request", "response"], namedRequired := true }
  | fixed k _ => some { owner := k.name }

/-- Why a call is refused, if it is. -/
def refusal? (i : Initialiser) (c : Class) (call : Call) : Option Refusal :=
  match i.signature?, call.names with
  | some s, names => s.refusal? call.values.length names
  | none, [] => none
  | none, name :: _ =>
    if i = .labelled then some (.unknownName Known.attributeError.name name)
    else some (.takesNoNames c.name)

/-- The call that goes on to the next constructor. -/
def passOn (i : Initialiser) (call : Call) : Call :=
  match i, call.values with
  | fixed _ message, _ => { values := [.text message] }
  | library, .null :: _ => {}
  | _, values => { values := values.take 1 }

/-- The attributes behind the message.  No attributes and an empty text are none. -/
def attributesOf (call : Call) : Except Misuse Attributes :=
  match call.values with
  | _ :: .object attributes :: _ => .ok attributes
  | _ :: .text s :: _ => if s.isEmpty then .ok [] else .error .textForAttributes
  | _ => .ok []

/-- Keep a part of the call beside what the next constructors kept. -/
def keep (i : Initialiser) (call : Call) (d : Details) : Except Misuse Details :=
  match i with
  | library => .ok { d with message := some call.message }
  | remoteCall =>
    .ok { d with url := some call.address, response := some (call.response.getD none) }
  | remoteContext => (attributesOf call).map fun a => { d with attributes := some a }
  | client .httpError => .ok { d with request := some none }
  | request => .ok { d with request := some (call.request.getD none) }
  | status =>
    .ok { d with request := some (call.request.getD none),
                 response := some (call.response.getD none) }
  | _ => .ok d

end Initialiser

/-! ## The line of constructors -/

/-- Run the constructors of a class on a call.  A class without any takes nothing. -/
def Class.construct (c : Class) : List Initialiser → Call → Except Misuse Details
  | [], call => if call.isEmpty then .ok {} else .error (.arguments (.takesNone c.name))
  | i :: rest, call =>
    match i.refusal? c call, i with
    | some r, _ => .error (.arguments r)
    | none, .general | none, .labelled => .ok { arguments := call.values }
    | none, .system => Details.ofSystem c call.values
    | none, i =>
      match c.construct rest (i.passOn call) with
      | .ok d => i.keep call d
      | .error m => .error m

end FaultResponse
