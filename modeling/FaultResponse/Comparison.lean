import FaultResponse.Handling
/-! # Comparison — two exceptions before one judge

    Two exceptions are judged, and then the first one again.  The comparison
    tells whether the two are answered alike, and whether the first one is
    answered like itself although its response may have been read meanwhile. -/

namespace FaultResponse

/-- The verdicts on two exceptions, and how they compare. -/
structure Comparison where
  first : Verdict
  second : Verdict
  equal : Bool
  stable : Bool

/-- The comparison, if both verdicts can be told. -/
def Comparison.told (c : Comparison) : Except Failure Comparison :=
  match c.first.told, c.second.told with
  | .error f, _ | _, .error f => .error f
  | .ok _, .ok _ => .ok c

/-- Continue with a step that works on the bodies left behind. -/
def Traced.then {α β : Type} (t : Traced α) (f : α → Bodies → Traced β) : Traced β :=
  match t.outcome with
  | .error e => ⟨.error e, t.bodies, t.log⟩
  | .ok a =>
    let next := f a t.bodies
    ⟨next.outcome, next.bodies, t.log ++ next.log⟩

/-- Compare two exceptions. -/
def Judge.compare (j : Judge) (rs : Registries) (a b : Fault) (bodies : Bodies) :
    Traced Comparison :=
  ((j.classify rs a bodies).then fun first bodies =>
    (j.classify rs b bodies).then fun second bodies =>
      (j.classify rs a bodies).map fun again =>
        { first := first
          second := second
          equal := first.answersLike second
          stable := first.answersLike again }).andThen Comparison.told

end FaultResponse
