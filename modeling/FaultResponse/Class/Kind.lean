import FaultResponse.Class.Known
/-! # Kinds — what a handler sees of an exception class

    A handler never looks inside a class: it asks whether a class is, or derives
    from, another one.  So the name and the line of identities from the class up
    to the root are all that a guard can depend on. -/

namespace FaultResponse

/-- The identity of a class: one of the known or the internal ones, or the n-th one
    defined.  Two classes defined under one name are still two classes. -/
inductive ClassId
  | known (k : Known)
  | internal (i : Internal)
  | defined (n : Nat)
  deriving DecidableEq, Repr

/-- The name of a class and its lineage, itself first. -/
structure Kind where
  name : String
  lineage : List ClassId
  deriving DecidableEq, Repr

namespace Kind

/-- Whether the class is, or derives from, the class of that identity. -/
def isA (k : Kind) (id : ClassId) : Bool :=
  k.lineage.contains id

/-- Whether the class is, or derives from, a known class. -/
def is (k : Kind) (c : Known) : Bool :=
  k.isA (.known c)

/-- Whether a guard for ordinary exceptions catches the class. -/
def isOrdinary (k : Kind) : Bool :=
  k.is .exception

/-- Whether the class is a signal to stop the whole program. -/
def isSignal (k : Kind) : Bool :=
  !k.isOrdinary && (k.is .keyboardInterrupt || k.is .systemExit)

end Kind

/-- The kind of a known class. -/
def Known.kind (k : Known) : Kind :=
  ⟨k.name, k.line.map .known⟩

/-- The kind of an internal class. -/
def Internal.kind (i : Internal) : Kind :=
  ⟨i.name, .internal i :: i.ancestors.map .known⟩

end FaultResponse
