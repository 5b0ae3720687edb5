import FaultResponse.Failure
import FaultResponse.Value
/-! # Exception classes — a lineage of heads

    A class is its own head followed by the heads of its ancestors, nearest
    first.  A head says what one class defines itself; whatever it leaves open
    is taken from the nearest ancestor that defines it.  So every question about
    a class is answered by one walk along its lineage. -/

namespace FaultResponse

/-- What a system error tells: its number and description, and the files it is about. -/
structure SystemRecord where
  number : Value
  description : Value
  file : Option Value := none
  second : Option Value := none
  deriving DecidableEq, Repr

/-- How the text of an exception is made from its arguments. -/
inductive TextRule
  /-- One argument is written as it is, several as a tuple. -/
  | plain
  /-- One argument is written as a literal. -/
  | literal
  /-- A system error is written as its record. -/
  | numbered
  /-- The text is always this one. -/
  | constant (s : Text)
  /-- Making a text fails. -/
  | failing (f : Failure)
  deriving DecidableEq, Repr

/-- Where the additional attributes of an exception come from. -/
inductive AttributeRule
  /-- The class has them. -/
  | shared (attributes : Attributes)
  /-- Each exception carries its own. -/
  | carried
  deriving DecidableEq, Repr

/-- What one class defines itself. -/
structure Head where
  id : ClassId
  name : String
  home : String
  qualname : String
  text : Option TextRule
  attributes : Option AttributeRule
  deriving DecidableEq, Repr

/-- A class: its own head, and the heads of its proper ancestors. -/
structure Class where
  head : Head
  ancestors : List Head
  deriving DecidableEq, Repr

/-! ## Known classes -/

namespace Known

/-- The rule for texts that a known class defines itself. -/
def textRule? : Known → Option TextRule
  | .baseException | .attributeError => some .plain
  | .keyError => some .literal
  | .osError => some .numbered
  | _ => none

/-- The additional attributes that a known class defines itself. -/
def attributeRule? : Known → Option AttributeRule
  | .remoteContextError => some .carried
  | _ => none

/-- The head of a known class. -/
def head (k : Known) : Head where
  id := .known k
  name := k.name
  home := k.home
  qualname := k.name
  text := k.textRule?
  attributes := k.attributeRule?

/-- A known class. -/
def toClass (k : Known) : Class :=
  ⟨k.head, k.ancestors.map head⟩

end Known

/-- An internal class. -/
def Internal.toClass (i : Internal) : Class where
  head :=
    { id := .internal i
      name := i.name
      home := Known.generalModule
      qualname := i.name
      text := none
      attributes := none }
  ancestors := i.ancestors.map Known.head

/-! ## Questions about a class -/

namespace SystemRecord

/-- The files of the record. -/
def fileText (r : SystemRecord) : String :=
  match r.file, r.second with
  | none, _ => ""
  | some a, none => ": " ++ a.literal
  | some a, some b => ": " ++ a.literal ++ " -> " ++ b.literal

/-- The record as a text. -/
def toText (r : SystemRecord) : Text :=
  "[Errno " ++ r.number.toText ++ "] " ++ r.description.toText ++ r.fileText

end SystemRecord

namespace TextRule

/-- The text of an exception with the given arguments, and a record if it is a system
    error that has one. -/
def render : TextRule → Option SystemRecord → List Value → Except Failure Text
  | constant s, _, _ => .ok s
  | failing f, _, _ => .error f
  | numbered, some r, _ => .ok r.toText
  | _, _, [] => .ok ""
  | literal, _, [a] => .ok a.literal
  | _, _, [a] => .ok a.toText
  | _, _, args => .ok (Value.tuple args)

end TextRule

namespace Class

/-- The lineage: the class itself, then its ancestors, nearest first. -/
def line (c : Class) : List Head :=
  c.head :: c.ancestors

/-- The name of the class. -/
def name (c : Class) : String :=
  c.head.name

/-- The home module and the qualified name, joined by a dot. -/
def path (c : Class) : String :=
  c.head.home ++ "." ++ c.head.qualname

/-- The identities along the lineage. -/
def lineage (c : Class) : List ClassId :=
  c.line.map (·.id)

/-- What a guard sees of the class. -/
def kind (c : Class) : Kind :=
  ⟨c.name, c.lineage⟩

/-- Whether the class is, or derives from, the class of that identity. -/
def isA (c : Class) (id : ClassId) : Bool :=
  c.kind.isA id

/-- Whether the class is, or derives from, a known class. -/
def is (c : Class) (k : Known) : Bool :=
  c.kind.is k

/-- The nearest rule for texts. -/
def textRule (c : Class) : TextRule :=
  (c.line.findSome? (·.text)).getD .plain

/-- The nearest source of additional attributes, if there is one. -/
def attributeRule? (c : Class) : Option AttributeRule :=
  c.line.findSome? (·.attributes)

end Class

end FaultResponse
