import FaultResponse.Class.Define
import FaultResponse.Proofs.Linearisation
import Mathlib.Logic.Relation
/-! # Hierarchies — what a lineage says about bases

    A program starts from the known classes and defines further ones, each from bases
    that are there already.  Ancestors are what the bases lead to, however far; a lineage
    is what merging makes of the lines of the bases.  The two agree:

    * `Admitted.keeps`: every class there is, known or defined, keeps the lines of its
      bases, which is all that the rest asks for;
    * `sublist_of_derives`: so the line of a class stands, in its order, in the line of
      every class that derives from it;
    * `exists_of_mem_line`: and whatever stands in a line is an ancestor, by induction on
      the length of the line;
    * `before_of_derives`: in a lineage no class comes behind one of its own ancestors. -/

namespace FaultResponse

/-- A class and the bases that it was defined from. -/
structure Definition where
  cls : Class
  bases : List Class

/-- The classes that a program has defined, the latest one first; the known ones are there
    without being defined. -/
abbrev Hierarchy := List Definition

namespace Known

/-- The bases of a known class: its nearest ancestor, and for one class a second one. -/
def bases : Known → List Known
  | .illegalState => [.domainError, .runtimeError]
  | k => k.ancestors.head?.toList

/-- A known class with its bases. -/
def definition (k : Known) : Definition :=
  ⟨k.toClass, k.bases.map toClass⟩

/-- The line of a known class is merged like any other. -/
theorem merge_bases (k : Known) :
    Lineage.merge (k.bases.map line ++ [k.bases]) = .ok k.ancestors := by
  cases k <;> rfl

theorem head_injective : Function.Injective head := by
  intro j k h
  exact ClassId.known.inj (congrArg Head.id h)

end Known

namespace Hierarchy

/-! ## What there is -/

section

variable (h : Hierarchy)

/-- The known classes are defined from the start. -/
def Defines (d : Definition) : Prop :=
  (∃ k : Known, d = k.definition) ∨ d ∈ h

/-- Whether the class is there. -/
def Has (c : Class) : Prop :=
  ∃ d, h.Defines d ∧ d.cls = c

/-- Whether the second class is a base of the first one. -/
def Extends (c b : Class) : Prop :=
  ∃ d, h.Defines d ∧ d.cls = c ∧ b ∈ d.bases

/-- Whether the first class is a proper subclass of the second one. -/
def Derives : Class → Class → Prop :=
  Relation.TransGen h.Extends

/-- Whether the second class is the first one or an ancestor of it. -/
def IsA : Class → Class → Prop :=
  Relation.ReflTransGen h.Extends

end

/-- The hierarchies that merging admits: every class is defined from bases that are there,
    and its ancestors are their merged lines. -/
inductive Admitted : Hierarchy → Prop
  | known : Admitted []
  | define {h : Hierarchy} {s : ClassSpec} {ancestors : List Head} : Admitted h →
      (∀ b ∈ s.parents, h.Has b) → Lineage.merge (Class.rows s.parents) = .ok ancestors →
      Admitted (⟨⟨s.head h.length, ancestors⟩, s.parents⟩ :: h)

variable {h : Hierarchy} {d : Definition} {a b c t : Class}

theorem Has.cons (hc : h.Has c) (d : Definition) : Has (d :: h) c := by
  obtain ⟨e, he, rfl⟩ := hc
  rcases he with hk | hm
  · exact ⟨e, Or.inl hk, rfl⟩
  · exact ⟨e, Or.inr (List.mem_cons_of_mem d hm), rfl⟩

theorem Has.known (h : Hierarchy) (k : Known) : h.Has k.toClass :=
  ⟨k.definition, Or.inl ⟨k, rfl⟩, rfl⟩

/-- The ancestors of a class that can be defined are merged from its bases. -/
theorem merge_of_define {n : Nat} {s : ClassSpec} (hc : Class.define n s = .ok c) :
    ∃ ancestors, Lineage.merge (Class.rows s.parents) = .ok ancestors ∧
      c = ⟨s.head n, ancestors⟩ := by
  unfold Class.define at hc
  by_cases hstorage : Class.storageConflict s.parents = true
  · rw [if_pos hstorage] at hc
    exact nomatch hc
  rw [if_neg hstorage] at hc
  by_cases hname : s.name.toList.contains '\x00' = true
  · rw [if_pos hname] at hc
    exact nomatch hc
  rw [if_neg hname] at hc
  cases hr : Class.repeated? s.parents with
  | some b => rw [hr] at hc; exact nomatch hc
  | none =>
      rw [hr] at hc
      cases hm : Lineage.merge (Class.rows s.parents) with
      | error stuck => rw [hm] at hc; exact nomatch hc
      | ok ancestors =>
          rw [hm] at hc
          exact ⟨ancestors, rfl, (Except.ok.inj hc).symm⟩

/-- A class that can be defined may join. -/
theorem Admitted.of_define (hh : h.Admitted) {s : ClassSpec} (hb : ∀ b ∈ s.parents, h.Has b)
    (hc : Class.define h.length s = .ok c) : Admitted (⟨c, s.parents⟩ :: h) := by
  obtain ⟨ancestors, hm, rfl⟩ := merge_of_define hc
  exact .define hh hb hm

/-- **ONE INTERFACE** for known and defined classes: the ancestors keep the rows of the
    bases. -/
theorem Admitted.keeps (hh : h.Admitted) (hd : h.Defines d) :
    Lineage.Keeps (Class.rows d.bases) d.cls.ancestors := by
  rcases hd with ⟨k, rfl⟩ | hd
  · have hrows : Class.rows k.definition.bases
        = (k.bases.map Known.line ++ [k.bases]).map (List.map Known.head) := by
      simp only [Class.rows, Known.definition, List.map_append, List.map_map, List.map_cons,
        List.map_nil]
      rfl
    rw [hrows]
    exact (Lineage.keeps_of_merge k.merge_bases).map Known.head_injective
  · induction hh with
    | known => exact nomatch hd
    | define _ _ hm ih =>
        rcases List.mem_cons.mp hd with rfl | hd
        · exact Lineage.keeps_of_merge hm
        · exact ih hd

theorem Admitted.has_base (hh : h.Admitted) (hd : h.Defines d) (hb : b ∈ d.bases) : h.Has b := by
  rcases hd with ⟨k, rfl⟩ | hd
  · obtain ⟨j, -, rfl⟩ := List.mem_map.mp hb
    exact ⟨j.definition, Or.inl ⟨j, rfl⟩, rfl⟩
  · induction hh with
    | known => exact nomatch hd
    | define _ hbases _ ih =>
        rcases List.mem_cons.mp hd with rfl | hd
        · exact (hbases b hb).cons _
        · exact (ih hd).cons _

/-! ## Identities -/

/-- A class is known, or it bears a number that was given before. -/
theorem Admitted.number (hh : h.Admitted) (hc : h.Has c) :
    (∃ k : Known, c = k.toClass) ∨ ∃ n, n < h.length ∧ c.head.id = .defined n := by
  obtain ⟨d, ⟨k, rfl⟩ | hd, rfl⟩ := hc
  · exact Or.inl ⟨k, rfl⟩
  · refine Or.inr ?_
    induction hh with
    | known => exact nomatch hd
    | @define h s _ _ _ _ ih =>
        rcases List.mem_cons.mp hd with rfl | hd
        · exact ⟨h.length, Nat.lt_succ_self _, rfl⟩
        · obtain ⟨n, hn, hid⟩ := ih hd
          exact ⟨n, Nat.lt_succ_of_lt hn, hid⟩

/-- **IDENTITIES TELL CLASSES APART.** -/
theorem Admitted.eq_of_id (hh : h.Admitted) (ha : h.Has a) (hb : h.Has b)
    (hid : a.head.id = b.head.id) : a = b := by
  induction hh with
  | known =>
      obtain ⟨_, ⟨j, rfl⟩ | ha, rfl⟩ := ha
      · obtain ⟨_, ⟨k, rfl⟩ | hb, rfl⟩ := hb
        · obtain rfl : j = k := ClassId.known.inj hid
          rfl
        · exact nomatch hb
      · exact nomatch ha
  | @define h s ancestors hh _ _ ih =>
      -- a class that was there before does not bear the number of the new one
      have hfresh : ∀ {c : Class}, h.Has c → c.head.id ≠ .defined h.length := by
        intro c hc hid
        rcases hh.number hc with ⟨k, rfl⟩ | ⟨n, hn, hid'⟩
        · exact nomatch hid
        · obtain rfl := ClassId.defined.inj (hid'.symm.trans hid)
          exact absurd hn (Nat.lt_irrefl _)
      have hcases : ∀ {c : Class}, Has (⟨⟨s.head h.length, ancestors⟩, s.parents⟩ :: h) c →
          c = ⟨s.head h.length, ancestors⟩ ∨ h.Has c := by
        rintro c ⟨d, hk | hd, rfl⟩
        · exact Or.inr ⟨d, Or.inl hk, rfl⟩
        · rcases List.mem_cons.mp hd with rfl | hd
          · exact Or.inl rfl
          · exact Or.inr ⟨d, Or.inr hd, rfl⟩
      rcases hcases ha with rfl | ha
      · rcases hcases hb with rfl | hb
        · rfl
        · exact absurd hid.symm (hfresh hb)
      · rcases hcases hb with rfl | hb
        · exact absurd hid (hfresh ha)
        · exact ih ha hb

/-! ## Lines and ancestors -/

theorem Admitted.sublist_of_extends (hh : h.Admitted) (hb : h.Extends c b) :
    b.line.Sublist c.ancestors := by
  obtain ⟨d, hd, rfl, hb⟩ := hb
  exact (hh.keeps hd).order _ (List.mem_append_left _ (List.mem_map_of_mem hb))

/-- **NO ORDER IS TURNED ROUND**: the line of an ancestor stands among the ancestors, in
    its order. -/
theorem Admitted.sublist_of_derives (hh : h.Admitted) (ha : h.Derives c a) :
    a.line.Sublist c.ancestors := by
  induction ha with
  | single hb => exact hh.sublist_of_extends hb
  | tail _ hb ih =>
      exact ((hh.sublist_of_extends hb).trans (List.sublist_cons_self _ _)).trans ih

theorem Admitted.sublist_of_isA (hh : h.Admitted) (ha : h.IsA c a) : a.line.Sublist c.line := by
  rcases Relation.reflTransGen_iff_eq_or_transGen.mp ha with rfl | ha
  · exact List.Sublist.refl _
  · exact (hh.sublist_of_derives ha).trans (List.sublist_cons_self _ _)

/-- Whatever stands among the ancestors stands in the line of some base. -/
theorem Admitted.extends_of_mem_ancestors (hh : h.Admitted) (hc : h.Has c) {x : Head}
    (hx : x ∈ c.ancestors) : ∃ b, h.Has b ∧ h.Extends c b ∧ x ∈ b.line := by
  obtain ⟨d, hd, rfl⟩ := hc
  have hbase : ∀ b ∈ d.bases, h.Has b ∧ h.Extends d.cls b := by
    intro b hb
    exact ⟨hh.has_base hd hb, d, hd, rfl, hb⟩
  obtain ⟨row, hrow, hmem⟩ := (hh.keeps hd).members x hx
  rcases List.mem_append.mp hrow with hrow | hrow
  · obtain ⟨b, hb, rfl⟩ := List.mem_map.mp hrow
    obtain ⟨hhas, hextends⟩ := hbase b hb
    exact ⟨b, hhas, hextends, hmem⟩
  · -- the last row lists the bases themselves
    obtain rfl := List.mem_singleton.mp hrow
    obtain ⟨b, hb, rfl⟩ := List.mem_map.mp hmem
    obtain ⟨hhas, hextends⟩ := hbase b hb
    exact ⟨b, hhas, hextends, List.mem_cons_self⟩

/-- **A LINE HOLDS ANCESTORS ONLY.**  A base has fewer ancestors than the class, so the
    bases can be followed to any member of the line. -/
theorem Admitted.exists_of_mem_line (hh : h.Admitted) (hc : h.Has c) {x : Head}
    (hx : x ∈ c.line) : ∃ a, h.Has a ∧ h.IsA c a ∧ a.head = x := by
  induction hn : c.ancestors.length using Nat.strongRecOn generalizing c with
  | _ n ih =>
      rcases List.mem_cons.mp hx with rfl | hx
      · exact ⟨c, hc, .refl, rfl⟩
      · obtain ⟨b, hb, hextends, hmem⟩ := hh.extends_of_mem_ancestors hc hx
        have hless : b.ancestors.length < n := hn ▸ (hh.sublist_of_extends hextends).length_le
        obtain ⟨a, ha, hisA, hhead⟩ := ih _ hless hb hmem rfl
        exact ⟨a, ha, .head hextends hisA, hhead⟩

theorem Admitted.derives_irrefl (hh : h.Admitted) : ¬ h.Derives c c := by
  intro hc
  have hlength := (hh.sublist_of_derives hc).length_le
  exact absurd hlength (Nat.not_succ_le_self _)

/-- A class does not stand among its ancestors: it would derive from itself. -/
theorem Admitted.head_not_mem (hh : h.Admitted) (hc : h.Has c) : c.head ∉ c.ancestors := by
  intro hmem
  obtain ⟨b, hb, hextends, hmem⟩ := hh.extends_of_mem_ancestors hc hmem
  obtain ⟨a, ha, hisA, hhead⟩ := hh.exists_of_mem_line hb hmem
  obtain rfl : a = c := hh.eq_of_id ha hc (congrArg Head.id hhead)
  exact hh.derives_irrefl (Relation.TransGen.head'_iff.mpr ⟨b, hextends, hisA⟩)

/-! ## Lineages -/

/-- **A LINEAGE IS THE CLASS AND ITS ANCESTORS.** -/
theorem Admitted.mem_lineage_iff (hh : h.Admitted) (hc : h.Has c) {id : ClassId} :
    id ∈ c.lineage ↔ ∃ a, h.IsA c a ∧ a.head.id = id := by
  constructor
  · intro hid
    obtain ⟨x, hx, rfl⟩ := List.mem_map.mp hid
    obtain ⟨a, -, ha, rfl⟩ := hh.exists_of_mem_line hc hx
    exact ⟨a, ha, rfl⟩
  · rintro ⟨a, ha, rfl⟩
    exact List.mem_map_of_mem ((hh.sublist_of_isA ha).subset List.mem_cons_self)

theorem Admitted.nodup_lineage (hh : h.Admitted) (hc : h.Has c) : c.lineage.Nodup := by
  have hsame : ∀ x ∈ c.line, ∀ y ∈ c.line, x.id = y.id → x = y := by
    intro x hx y hy hid
    obtain ⟨a, ha, -, rfl⟩ := hh.exists_of_mem_line hc hx
    obtain ⟨b, hb, -, rfl⟩ := hh.exists_of_mem_line hc hy
    rw [hh.eq_of_id ha hb hid]
  have hline : c.line.Nodup := by
    obtain ⟨d, hd, rfl⟩ := hc
    exact List.nodup_cons.mpr ⟨hh.head_not_mem ⟨d, hd, rfl⟩, (hh.keeps hd).nodup⟩
  exact hline.map_on hsame

/-- **NEAREST FIRST**: where a lineage is cut at a class, every class in it that derives
    from that one stands before the cut. -/
theorem Admitted.before_of_derives (hh : h.Admitted) (ht : h.Has t) (ha : h.IsA t a)
    (hb : h.Derives a b) {before after : List ClassId}
    (hcut : t.lineage = before ++ b.head.id :: after) : a.head.id ∈ before := by
  have hpair : [a.head.id, b.head.id].Sublist (before ++ b.head.id :: after) := by
    have hline : [a.head, b.head].Sublist t.line :=
      (List.Sublist.cons_cons a.head (List.singleton_sublist.mpr
        ((hh.sublist_of_derives hb).subset List.mem_cons_self))).trans (hh.sublist_of_isA ha)
    rw [← hcut]
    exact hline.map Head.id
  have hnodup : (before ++ b.head.id :: after).Nodup := hcut ▸ hh.nodup_lineage ht
  obtain ⟨front, back, hparts, hfront, hback⟩ := List.sublist_append_iff.mp hpair
  cases front with
  | cons x rest =>
      obtain ⟨rfl, -⟩ := List.cons.inj hparts
      exact hfront.subset List.mem_cons_self
  | nil =>
      -- otherwise the other class would stand a second time, behind the cut
      obtain rfl : [a.head.id, b.head.id] = back := hparts
      have hagain : b.head.id ∈ after := hback.tail.subset List.mem_cons_self
      have hafter := (List.nodup_append.mp hnodup).2.1
      exact absurd hagain (List.nodup_cons.mp hafter).1

end Hierarchy

end FaultResponse
