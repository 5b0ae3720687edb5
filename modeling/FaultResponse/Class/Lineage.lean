/-! # Lineages — one line that keeps every given order

    A class with several bases needs one line of ancestors.  It is merged from
    rows: the line of each base, and the list of the bases.  The next member is
    the first head of a row that stands in no other row behind its head; it is
    taken off every row it heads.  If rows are left and no head qualifies, the
    rows contradict each other and there is no line. -/

namespace FaultResponse.Lineage

variable {α : Type} [DecidableEq α]

/-- Whether some row still holds the member behind its head. -/
def isBehind (rows : List (List α)) (a : α) : Bool :=
  rows.any fun row => row.tail.contains a

/-- The heads of the rows that are not used up. -/
def heads (rows : List (List α)) : List α :=
  rows.filterMap List.head?

/-- The next member of the line. -/
def choose (rows : List (List α)) : Option α :=
  (heads rows).find? fun a => !isBehind rows a

/-- One row after a member was placed. -/
def advanceRow (a : α) : List α → List α
  | [] => []
  | b :: rest => if b = a then rest else b :: rest

/-- All rows after a member was placed. -/
def advance (a : α) (rows : List (List α)) : List (List α) :=
  rows.map (advanceRow a)

/-- How many places the rows hold; each step takes at least one of them. -/
def places (rows : List (List α)) : Nat :=
  rows.flatten.length

/-- Merge in at most `fuel` steps.  The error holds the heads that block each other. -/
def mergeWithin : Nat → List (List α) → Except (List α) (List α)
  | fuel, rows =>
    match choose rows, fuel with
    | some a, fuel + 1 =>
      match mergeWithin fuel (advance a rows) with
      | .ok line => .ok (a :: line)
      | .error stuck => .error stuck
    | _, _ => if (heads rows).isEmpty then .ok [] else .error (heads rows).eraseDups

/-- The line that keeps the order of every row. -/
def merge (rows : List (List α)) : Except (List α) (List α) :=
  mergeWithin (places rows) rows

end FaultResponse.Lineage
