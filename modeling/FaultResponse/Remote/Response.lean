import FaultResponse.Class.Basic
import FaultResponse.Remote.Body
import FaultResponse.Text.Case
/-! # Responses — what a failed call to a remote service received

    A response comes from the client that this library knows, or from some other
    client.  Of a known response every field can be read, only its body changes
    by being read.  A foreign response is inspected as far as it goes: any of
    its fields may be absent or hold something unexpected. -/

namespace FaultResponse

/-- A response of the known client. -/
structure KnownResponse where
  body : BodyId
  status : Int
  headers : List (String × String)
  url : Option Text
  deriving DecidableEq, Repr

/-- A name or a value among the headers of a foreign response. -/
inductive HeaderItem
  | text (s : Text)
  /-- Octets, a number or anything else that is no text. -/
  | other
  deriving DecidableEq, Repr

/-- The headers of a foreign response. -/
inductive ForeignHeaders
  /-- There are none, or what stands there has no pairs. -/
  | absent
  | pairs (items : List (HeaderItem × HeaderItem))
  /-- Looking for them or listing them fails. -/
  | failing (f : Failure)
  deriving DecidableEq, Repr

/-- What reading a foreign response gives. -/
inductive ReadValue
  | text (s : Text)
  | octets (bytes : List UInt8)
  /-- Anything of which no body can be made. -/
  | other
  deriving DecidableEq, Repr

/-- The reading operation of a foreign response. -/
inductive ForeignRead
  /-- There is none, or what stands there cannot be called. -/
  | absent
  /-- Looking for it fails. -/
  | hidden (f : Failure)
  | value (v : ReadValue)
  | failing (f : Failure)
  deriving DecidableEq, Repr

/-- A plain field of a foreign object. -/
inductive Field (α : Type)
  | absent
  | value (a : α)
  /-- Looking at it fails. -/
  | failing (f : Failure)
  deriving DecidableEq, Repr

namespace Field

/-- The field that an optional value describes. -/
def ofOption {α : Type} : Option α → Field α
  | none => absent
  | some a => value a

instance {α : Type} : Coe (Option α) (Field α) := ⟨ofOption⟩

/-- The value of a field that need not be there.  A look that fails for want of an
    attribute finds none; any other failure is passed on. -/
def get? {α : Type} : Field α → Except Failure (Option α)
  | absent => .ok none
  | value a => .ok (some a)
  | failing f => if f.kind.is .attributeError then .ok none else .error f

end Field

/-- A response of another client: it answers the same at every inspection. -/
structure ForeignResponse where
  typeName : String
  status : Field Value
  url : Field Value
  headers : ForeignHeaders
  read : ForeignRead
  deriving DecidableEq, Repr

/-- A received response. -/
inductive Response
  | known (r : KnownResponse)
  | foreign (r : ForeignResponse)
  deriving DecidableEq, Repr

namespace Response

/-- The name of the response's own class. -/
def typeName : Response → String
  | known _ => "Response"
  | foreign r => r.typeName

/-- The status code field. -/
def statusField : Response → Field Value
  | known r => .value (.int r.status)
  | foreign r => r.status

/-- The integer among the values of a status field, when it is one that HTTP knows. -/
def httpStatus? (v : Option Value) : Option Int :=
  match v.bind Value.asInt? with
  | some n => if 100 ≤ n ∧ n ≤ 599 then some n else none
  | none => none

/-- The status, when the response carries one that HTTP knows. -/
def status? (r : Response) : Except Failure (Option Int) :=
  r.statusField.get?.map httpStatus?

end Response

/-! ## Headers of the known client -/

/-- The headers as one map: names in small letters, the values of a repeated name
    joined at its first place. -/
def joinHeaders : List (String × String) → OrderedMap String String
  | pairs => go [] pairs
where
  /-- Enter the pairs one by one. -/
  go (m : OrderedMap String String) : List (String × String) → OrderedMap String String
    | [] => m
    | (name, value) :: rest =>
      let key := Text.lower name
      match m.get? key with
      | some earlier => go (m.put key (earlier ++ ", " ++ value)) rest
      | none => go (m.put key value) rest

end FaultResponse
