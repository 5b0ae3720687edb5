import FaultResponse.Declaration
import FaultResponse.Proofs.Hierarchy
/-! # Nearest declarations — which declaration a class is given

    A lookup walks a lineage and stops at the first class that is declared.  So a
    declaration is found where nothing before it is declared (`Reaches`), and writing one
    that does not reach a lineage changes nothing for it (`find_set_of_not_reaches`).

    In a hierarchy that merging admits, the way from a class up never meets a class before
    all of its subclasses that are on the way.  Therefore `nearest_declaration_wins`. -/

namespace FaultResponse

namespace Registry

variable {r : Registry} {c : ClassId} {lineage : List ClassId}

/-- Whether a declaration for a class is found from a lineage: the class stands in it, and
    no class before it is declared. -/
def Reaches (r : Registry) (c : ClassId) (lineage : List ClassId) : Prop :=
  ∃ before after, lineage = before ++ c :: after ∧ ∀ b ∈ before, r b = none

/-! ## Walking a lineage -/

theorem not_reaches_nil : ¬ r.Reaches c [] := by
  rintro ⟨before, after, hcut, -⟩
  exact absurd hcut.symm (List.append_ne_nil_of_right_ne_nil before (List.cons_ne_nil c after))

theorem reaches_cons_iff {a : ClassId} :
    r.Reaches c (a :: lineage) ↔ a = c ∨ r a = none ∧ r.Reaches c lineage := by
  constructor
  · rintro ⟨before, after, hcut, hnone⟩
    cases before with
    | nil => exact Or.inl (List.cons.inj hcut).1
    | cons b rest =>
        obtain ⟨rfl, rfl⟩ := List.cons.inj hcut
        refine Or.inr ⟨hnone a List.mem_cons_self, rest, after, rfl, ?_⟩
        intro b hb
        exact hnone b (List.mem_cons_of_mem a hb)
  · rintro (rfl | ⟨ha, before, after, rfl, hnone⟩)
    · exact ⟨[], lineage, rfl, fun b hb => nomatch hb⟩
    · refine ⟨a :: before, after, rfl, ?_⟩
      intro b hb
      rcases List.mem_cons.mp hb with rfl | hb
      · exact ha
      · exact hnone b hb

theorem find_eq_none_iff : r.find lineage = none ↔ ∀ c ∈ lineage, r c = none :=
  List.findSome?_eq_none_iff

/-- What a lookup finds is the declaration of a class that it reaches. -/
theorem exists_of_find_eq_some {d : Declaration} (h : r.find lineage = some d) :
    ∃ c, r.Reaches c lineage ∧ r c = some d := by
  obtain ⟨before, c, after, hcut, hc, hnone⟩ := List.findSome?_eq_some_iff.mp h
  exact ⟨c, ⟨before, after, hcut, hnone⟩, hc⟩

/-! ## Writing a declaration -/

/-- A declaration that reaches a lineage is what is found from then on. -/
theorem find_set_of_reaches (h : r.Reaches c lineage) (d : Declaration) :
    find (r.set c (some d)) lineage = some d := by
  unfold find
  induction lineage with
  | nil => exact absurd h not_reaches_nil
  | cons a rest ih =>
      rw [List.findSome?_cons]
      by_cases ha : a = c
      · rw [ha, Store.set_self]
      · rw [Store.set_of_ne _ _ ha]
        rcases reaches_cons_iff.mp h with hac | ⟨hnone, hrest⟩
        · exact absurd hac ha
        · rw [hnone]
          exact ih hrest

/-- **WHAT DOES NOT REACH DOES NOT ACT**, whether it is written or taken back. -/
theorem find_set_of_not_reaches (h : ¬ r.Reaches c lineage) (x : Option Declaration) :
    find (r.set c x) lineage = r.find lineage := by
  unfold find
  induction lineage with
  | nil => rfl
  | cons a rest ih =>
      rw [List.findSome?_cons, List.findSome?_cons]
      have ha : a ≠ c := fun hac => h (reaches_cons_iff.mpr (Or.inl hac))
      rw [Store.set_of_ne _ _ ha]
      cases hd : r a with
      | some d => rfl
      | none => exact ih fun hrest => h (reaches_cons_iff.mpr (Or.inr ⟨hd, hrest⟩))

theorem declares_eq_false_iff : r.declares c = false ↔ r c = none := by
  unfold declares
  cases r c with
  | none => simp
  | some d => simp

end Registry

/-! ## In a hierarchy -/

namespace Hierarchy

variable {h : Hierarchy} {a b t : Class} {r : Registry}

/-- **SUBCLASSES SHADOW**: a declaration that reaches a class is not shadowed by any
    subclass on the way. -/
theorem Admitted.undeclared_of_reaches (hh : h.Admitted) (ht : h.Has t)
    (hr : r.Reaches b.head.id t.lineage) (ha : h.IsA t a) (hb : h.Derives a b) :
    r.declares a.head.id = false := by
  obtain ⟨before, after, hcut, hnone⟩ := hr
  exact Registry.declares_eq_false_iff.mpr (hnone _ (hh.before_of_derives ht ha hb hcut))

end Hierarchy

/-- **THE NEAREST DECLARATION WINS**, in every hierarchy that merging admits.  Nothing is
    found for a class exactly when neither it nor any ancestor is declared.  What is found
    is declared for the class or for an ancestor, and no declared class on the way derives
    from that one.  So where a class on the way is declared, the declarations of its own
    ancestors never matter. -/
theorem nearest_declaration_wins {h : Hierarchy} (hh : h.Admitted) {t : Class} (ht : h.Has t)
    (r : Registry) :
    (r.find t.lineage = none ↔ ∀ a, h.IsA t a → r.declares a.head.id = false) ∧
    (∀ d, r.find t.lineage = some d →
      ∃ b, h.IsA t b ∧ r b.head.id = some d ∧
        ∀ a, h.IsA t a → h.Derives a b → r.declares a.head.id = false) ∧
    ∀ a b, h.IsA t a → h.Derives a b → r.declares a.head.id = true →
      ∀ x, Registry.find (r.set b.head.id x) t.lineage = r.find t.lineage := by
  refine ⟨?_, ?_, ?_⟩
  · rw [Registry.find_eq_none_iff]
    constructor
    · intro hnone a ha
      exact Registry.declares_eq_false_iff.mpr
        (hnone _ ((hh.mem_lineage_iff ht).mpr ⟨a, ha, rfl⟩))
    · intro hnone id hid
      obtain ⟨a, ha, rfl⟩ := (hh.mem_lineage_iff ht).mp hid
      exact Registry.declares_eq_false_iff.mp (hnone a ha)
  · intro d hd
    obtain ⟨id, hreaches, hid⟩ := Registry.exists_of_find_eq_some hd
    have hmem : id ∈ t.lineage := by
      obtain ⟨before, after, hcut, -⟩ := hreaches
      rw [hcut]
      exact List.mem_append_right _ List.mem_cons_self
    obtain ⟨b, hb, rfl⟩ := (hh.mem_lineage_iff ht).mp hmem
    exact ⟨b, hb, hid, fun a ha hab => hh.undeclared_of_reaches ht hreaches ha hab⟩
  · intro a b ha hab hdeclared x
    refine Registry.find_set_of_not_reaches ?_ x
    intro hreaches
    exact nomatch hdeclared.symm.trans (hh.undeclared_of_reaches ht hreaches ha hab)

/-! ## A diamond -/

namespace Diamond

/-- A class with two bases, which meet in `Exception`. -/
def spec : ClassSpec where
  name := "LateStateError"
  bases := [Known.illegalState.toClass, Known.timeoutError.toClass]

def lateState : Class :=
  ⟨spec.head 0, [Known.illegalState, .domainError, .runtimeError, .timeoutError, .osError,
    .exception, .baseException, .object].map Known.head⟩

def hierarchy : Hierarchy :=
  [⟨lateState, spec.parents⟩]

/-- Declared are the class in which the bases meet, and one on the way of the second. -/
def registry : Registry :=
  Store.set (Registry.empty.set (.known .exception) (some ⟨409, "busy", rfl⟩))
    (.known .osError) (some ⟨423, "locked", rfl⟩)

theorem hierarchy_admitted : hierarchy.Admitted := by
  refine .of_define .known ?_ (show Class.define 0 spec = .ok lateState from rfl)
  intro b hb
  rcases List.mem_cons.mp hb with rfl | hb
  · exact ⟨Known.illegalState.definition, Or.inl ⟨_, rfl⟩, rfl⟩
  · obtain rfl := List.mem_singleton.mp hb
    exact ⟨Known.timeoutError.definition, Or.inl ⟨_, rfl⟩, rfl⟩

theorem known_extends {k j : Known} (h : j ∈ k.bases) :
    hierarchy.Extends k.toClass j.toClass :=
  ⟨k.definition, Or.inl ⟨k, rfl⟩, rfl, List.mem_map_of_mem h⟩

end Diamond

open Diamond in
/-- The status of the second base wins over the one of the class in which both meet, which
    may then be changed at will. -/
theorem diamond_takes_the_nearer_status :
    (registry.find lateState.lineage).map Declaration.status = some 423 ∧
    ∀ x, Registry.find (registry.set (.known .exception) x) lateState.lineage
      = registry.find lateState.lineage := by
  have ht : hierarchy.Has lateState := ⟨⟨lateState, spec.parents⟩, Or.inr List.mem_cons_self, rfl⟩
  have hbase : hierarchy.Extends lateState Known.timeoutError.toClass :=
    ⟨⟨lateState, spec.parents⟩, Or.inr List.mem_cons_self, rfl,
      List.mem_cons_of_mem _ List.mem_cons_self⟩
  have hsystem : hierarchy.IsA lateState Known.osError.toClass :=
    .head hbase (.single (known_extends List.mem_cons_self))
  have hshadowed : hierarchy.Derives Known.osError.toClass Known.exception.toClass :=
    .single (known_extends List.mem_cons_self)
  refine ⟨rfl, ?_⟩
  exact (nearest_declaration_wins hierarchy_admitted ht registry).2.2 _ _ hsystem hshadowed rfl

end FaultResponse
