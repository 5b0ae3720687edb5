import FaultResponse.Class.Basic
import FaultResponse.Class.Lineage
/-! # Defining classes — from bases to a lineage

    A definition names its bases and what the class adds to them.  It is refused
    when two bases keep fields of their own in incompatible ways, when the name
    has a NUL in it, when a base is listed twice, and when the bases cannot be
    merged into one line; the first of these reasons counts. -/

namespace FaultResponse

/-- A class definition. -/
structure ClassSpec where
  name : String
  bases : List Class
  home : String := "app.errors"
  qualname : Option String := none
  text : Option TextRule := none
  attributes : Option Attributes := none

namespace ClassSpec

/-- The bases in effect: a class without bases derives from the root. -/
def parents (s : ClassSpec) : List Class :=
  if s.bases.isEmpty then [Known.object.toClass] else s.bases

/-- The head of the n-th defined class. -/
def head (s : ClassSpec) (n : Nat) : Head where
  id := .defined n
  name := s.name
  home := s.home
  qualname := s.qualname.getD s.name
  text := s.text
  attributes := s.attributes.map .shared

end ClassSpec

namespace Class

/-- The known classes whose exceptions keep fields of their own. -/
def withStorage : List Known :=
  [.osError, .attributeError, .stopIteration, .systemExit]

/-- Whether the bases bring more than one such class. -/
def storageConflict (bases : List Class) : Bool :=
  1 < (withStorage.filter fun k => bases.any (·.is k)).length

/-- The first base that is listed again further on. -/
def repeated? : List Class → Option Class
  | [] => none
  | c :: rest => if rest.any (fun d => d.head.id == c.head.id) then some c else repeated? rest

/-- The rows from which the ancestors are merged: the line of each base, and the
    bases themselves. -/
def rows (bases : List Class) : List (List Head) :=
  bases.map line ++ [bases.map head]

/-- The n-th defined class. -/
def define (n : Nat) (s : ClassSpec) : Except Failure Class :=
  if storageConflict s.parents then .error .storageConflict
  else if s.name.toList.contains '\x00' then .error (.misuse .nullInName)
  else
    match repeated? s.parents with
    | some c => .error (.repeatedBase c.name)
    | none =>
      match Lineage.merge (rows s.parents) with
      | .ok ancestors => .ok ⟨s.head n, ancestors⟩
      | .error stuck => .error (.ofUnordered (stuck.map (·.name)))

end Class

/-! ## Names -/

/-- The classes defined so far, under their names; the latest of a name counts. -/
structure Catalog where
  size : Nat := 0
  entries : OrderedMap String Class := []

namespace Catalog

/-- The class of a name: a defined one, or else a known one. -/
def find? (c : Catalog) (name : String) : Option Class :=
  match c.entries.get? name with
  | some d => some d
  | none => (Known.ofLabel? name).map Known.toClass

/-- Define a class and enter it under its name. -/
def define (c : Catalog) (s : ClassSpec) : Except Failure (Class × Catalog) :=
  match Class.define c.size s with
  | .ok d => .ok (d, ⟨c.size + 1, OrderedMap.put s.name d c.entries⟩)
  | .error f => .error f

end Catalog

end FaultResponse
