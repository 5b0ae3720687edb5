import FaultResponse.Category
import FaultResponse.Proofs.Hierarchy
/-! # Precedence — the category of a class with several bases

    The tests of the categories ask what a class derives from, and a class derives from
    what one of its bases is or derives from.  So a category admits a defined class
    exactly if it admits one of the bases (`admits_iff_base`), and what comes first among
    the categories that admit a class (`admits_ofClass`, `rank_ofClass_le`) comes first
    among those of its bases.

    `first_category_of_the_bases` says so for every class that a program can define.
    Nothing in it depends on the order of the bases, and no step down the hierarchy ever
    leads to a category that comes later. -/

namespace FaultResponse

/-! ## The first category -/

namespace Category

variable {k : Category} {c : Class}

/-- The place of a category in the order of precedence, the first one at zero. -/
def rank (k : Category) : Nat :=
  all.idxOf k

/-- The known classes that a category asks for, one of which a class has to derive from.
    The last category asks for none. -/
def roots : Category → List Known
  | accessDenied => [.accessDenied]
  | notFound => [.notFound]
  | invalidRequest => [.invalidRequest, .userError, .valueError]
  | illegalState => [.illegalState]
  | remoteFailure => [.remoteCallError, .httpError]
  | generic => []

theorem admits_iff_root : k.admits c = true ↔ k = .generic ∨ ∃ j ∈ k.roots, c.is j = true := by
  cases k <;> simp [admits, roots, Class.isRemote, or_assoc]

theorem mem_all (k : Category) : k ∈ all := by
  cases k <;> decide

theorem eq_of_rank_eq {j : Category} (h : j.rank = k.rank) : j = k :=
  (List.idxOf_inj j.mem_all).mp h

/-- The category of a class is the first one in the list that admits it. -/
theorem find?_all (c : Class) : all.find? (fun k => k.admits c) = some (ofClass c) := by
  unfold ofClass all
  simp only [List.find?_cons]
  cases accessDenied.admits c with
  | true => rfl
  | false =>
      cases notFound.admits c with
      | true => rfl
      | false =>
          cases invalidRequest.admits c with
          | true => rfl
          | false =>
              cases illegalState.admits c with
              | true => rfl
              | false =>
                  cases remoteFailure.admits c with
                  | true => rfl
                  | false => rfl

/-- Nothing that passes a test stands before the first that does. -/
theorem idxOf_le_of_find? {α : Type} [DecidableEq α] {p : α → Bool} {l : List α} {x a : α}
    (hx : l.find? p = some x) (ha : p a = true) : l.idxOf x ≤ l.idxOf a := by
  induction l with
  | nil => exact nomatch hx
  | cons b rest ih =>
      cases hb : p b with
      | true =>
          rw [List.find?_cons_of_pos hb] at hx
          obtain rfl := Option.some.inj hx
          rw [List.idxOf_cons_self]
          exact Nat.zero_le _
      | false =>
          rw [List.find?_cons_of_neg (Bool.eq_false_iff.mp hb)] at hx
          have hpass : p x = true := List.find?_some hx
          have hbx : b ≠ x := fun h => nomatch (h ▸ hb).symm.trans hpass
          have hba : b ≠ a := fun h => nomatch (h ▸ hb).symm.trans ha
          rw [List.idxOf_cons_ne _ hbx, List.idxOf_cons_ne _ hba]
          exact Nat.succ_le_succ (ih hx)

theorem admits_ofClass (c : Class) : (ofClass c).admits c = true :=
  List.find?_some (p := fun k : Category => k.admits c) (find?_all c)

theorem rank_ofClass_le (h : k.admits c = true) : (ofClass c).rank ≤ k.rank :=
  idxOf_le_of_find? (find?_all c) h

/-- Whatever is admitted where another class is admitted comes no later. -/
theorem rank_le_of_admits {a : Class} (h : ∀ k, admits k a = true → admits k c = true) :
    (ofClass c).rank ≤ (ofClass a).rank :=
  rank_ofClass_le (h _ (admits_ofClass a))

end Category

/-! ## What a class derives from -/

theorem Class.is_iff_mem {c : Class} {k : Known} :
    c.is k = true ↔ .known k ∈ c.lineage :=
  List.contains_iff_mem

namespace Hierarchy

variable {h : Hierarchy} {d : Definition} {a b c : Class}

/-- A defined class bears a number. -/
theorem Admitted.exists_number (hh : h.Admitted) (hd : d ∈ h) :
    ∃ n, d.cls.head.id = .defined n := by
  induction hh with
  | known => exact nomatch hd
  | @define h s _ _ _ _ ih =>
      rcases List.mem_cons.mp hd with rfl | hd
      · exact ⟨h.length, rfl⟩
      · exact ih hd

/-- A defined class has a base, if only the root of all classes. -/
theorem Admitted.exists_base (hh : h.Admitted) (hd : d ∈ h) : ∃ b, b ∈ d.bases := by
  induction hh with
  | known => exact nomatch hd
  | @define h s _ _ _ _ ih =>
      rcases List.mem_cons.mp hd with rfl | hd
      · show ∃ b, b ∈ s.parents
        unfold ClassSpec.parents
        cases hs : s.bases with
        | nil => exact ⟨_, List.mem_cons_self⟩
        | cons b rest => exact ⟨b, List.mem_cons_self⟩
      · exact ih hd

/-- **A CLASS IS WHAT ITS BASES ARE**: it derives from a known class if one of its bases
    does, and only then. -/
theorem Admitted.is_iff_base (hh : h.Admitted) (hd : d ∈ h) {k : Known} :
    d.cls.is k = true ↔ ∃ b ∈ d.bases, b.is k = true := by
  have hkeeps := hh.keeps (Or.inr hd)
  constructor
  · intro hk
    obtain ⟨x, hx, hid⟩ := List.mem_map.mp (Class.is_iff_mem.mp hk)
    rcases List.mem_cons.mp hx with rfl | hx
    · -- the class itself is none of the known ones
      obtain ⟨n, hn⟩ := hh.exists_number hd
      exact nomatch hn.symm.trans hid
    · obtain ⟨row, hrow, hmem⟩ := hkeeps.members x hx
      rcases List.mem_append.mp hrow with hrow | hrow
      · obtain ⟨b, hb, rfl⟩ := List.mem_map.mp hrow
        exact ⟨b, hb, Class.is_iff_mem.mpr (List.mem_map.mpr ⟨x, hmem, hid⟩)⟩
      · obtain rfl := List.mem_singleton.mp hrow
        obtain ⟨b, hb, rfl⟩ := List.mem_map.mp hmem
        exact ⟨b, hb, Class.is_iff_mem.mpr (List.mem_map.mpr ⟨_, List.mem_cons_self, hid⟩)⟩
  · rintro ⟨b, hb, hk⟩
    have hline : b.line.Sublist d.cls.ancestors :=
      hkeeps.order _ (List.mem_append_left _ (List.mem_map_of_mem hb))
    obtain ⟨x, hx, hid⟩ := List.mem_map.mp (Class.is_iff_mem.mp hk)
    exact Class.is_iff_mem.mpr
      (List.mem_map.mpr ⟨x, List.mem_cons_of_mem _ (hline.subset hx), hid⟩)

/-- What a class derives from, its descendants derive from. -/
theorem Admitted.is_of_isA (hh : h.Admitted) (ha : h.IsA c a) {k : Known}
    (hk : a.is k = true) : c.is k = true := by
  obtain ⟨x, hx, hid⟩ := List.mem_map.mp (Class.is_iff_mem.mp hk)
  exact Class.is_iff_mem.mpr (List.mem_map.mpr ⟨x, (hh.sublist_of_isA ha).subset hx, hid⟩)

/-- A class that derives from a known one derives from all that this one derives from. -/
theorem Admitted.is_of_is (hh : h.Admitted) (hc : h.Has c) {k j : Known}
    (hk : c.is k = true) (hj : j ∈ k.line) : c.is j = true := by
  obtain ⟨x, hx, hid⟩ := List.mem_map.mp (Class.is_iff_mem.mp hk)
  obtain ⟨a, ha, hisA, rfl⟩ := hh.exists_of_mem_line hc hx
  obtain rfl : a = k.toClass := hh.eq_of_id ha (.known h k) hid
  refine hh.is_of_isA hisA (Class.is_iff_mem.mpr (List.mem_map.mpr ⟨j.head, ?_, rfl⟩))
  exact List.mem_map_of_mem hj

/-! ## What a category admits -/

/-- **A CATEGORY ADMITS WHAT IT ADMITS OF THE BASES.** -/
theorem Admitted.admits_iff_base (hh : h.Admitted) (hd : d ∈ h) (k : Category) :
    k.admits d.cls = true ↔ ∃ b ∈ d.bases, k.admits b = true := by
  constructor
  · intro hk
    rcases Category.admits_iff_root.mp hk with rfl | ⟨j, hj, hcls⟩
    · obtain ⟨b, hb⟩ := hh.exists_base hd
      exact ⟨b, hb, rfl⟩
    · obtain ⟨b, hb, hbase⟩ := (hh.is_iff_base hd).mp hcls
      exact ⟨b, hb, Category.admits_iff_root.mpr (Or.inr ⟨j, hj, hbase⟩)⟩
  · rintro ⟨b, hb, hk⟩
    rcases Category.admits_iff_root.mp hk with rfl | ⟨j, hj, hbase⟩
    · rfl
    · exact Category.admits_iff_root.mpr
        (Or.inr ⟨j, hj, (hh.is_iff_base hd).mpr ⟨b, hb, hbase⟩⟩)

theorem Admitted.admits_of_isA (hh : h.Admitted) (ha : h.IsA c a) {k : Category}
    (hk : k.admits a = true) : k.admits c = true := by
  rcases Category.admits_iff_root.mp hk with rfl | ⟨j, hj, hcls⟩
  · rfl
  · exact Category.admits_iff_root.mpr (Or.inr ⟨j, hj, hh.is_of_isA ha hcls⟩)

/-- Every category but the last asks for an exception. -/
theorem Admitted.isException_of_admits (hh : h.Admitted) (hc : h.Has c) {k : Category}
    (hk : k.admits c = true) (hne : k ≠ .generic) : c.is .baseException = true := by
  have hroots : ∀ k ∈ Category.all, ∀ j ∈ k.roots, Known.baseException ∈ j.line := by decide
  rcases Category.admits_iff_root.mp hk with hgeneric | ⟨j, hj, hcls⟩
  · exact absurd hgeneric hne
  · exact hh.is_of_is hc hcls (hroots k k.mem_all j hj)

/-- A class that is no exception counts as one without a policy of its own. -/
theorem Admitted.generic_of_mixin (hh : h.Admitted) (hc : h.Has c)
    (hmixin : c.is .baseException = false) : Category.ofClass c = .generic := by
  by_cases hk : Category.ofClass c = .generic
  · exact hk
  · exact nomatch hmixin.symm.trans
      (hh.isException_of_admits hc (Category.admits_ofClass c) hk)

/-- The category of a defined class comes no later than those of its bases, and it is one
    of them. -/
theorem Admitted.ofClass_base (hh : h.Admitted) (hd : d ∈ h) :
    (∀ b ∈ d.bases, (Category.ofClass d.cls).rank ≤ (Category.ofClass b).rank) ∧
    ∃ b ∈ d.bases, Category.ofClass d.cls = .ofClass b := by
  have hle : ∀ b ∈ d.bases, (Category.ofClass d.cls).rank ≤ (Category.ofClass b).rank := by
    intro b hb
    exact Category.rank_le_of_admits fun k hk => (hh.admits_iff_base hd k).mpr ⟨b, hb, hk⟩
  obtain ⟨b, hb, hk⟩ := (hh.admits_iff_base hd _).mp (Category.admits_ofClass d.cls)
  exact ⟨hle, b, hb,
    Category.eq_of_rank_eq (Nat.le_antisymm (hle b hb) (Category.rank_ofClass_le hk))⟩

end Hierarchy

/-- **THE FIRST CATEGORY OF THE BASES.**  In every hierarchy that merging admits, the
    category of an exception of a defined class is one that a base of the class has, and
    none of the bases has one that comes before it; a base that is no exception counts as
    one without a policy of its own.  A class defined from the same bases in another order
    has the same category, and the category of an ancestor never comes before that of the
    class. -/
theorem first_category_of_the_bases {h : Hierarchy} (hh : h.Admitted) {d : Definition}
    (hd : d ∈ h) :
    (∀ e : Fault, e.cls = d.cls →
      (∃ b ∈ d.bases, e.category = .ofClass b) ∧
      ∀ b ∈ d.bases, e.category.rank ≤ (Category.ofClass b).rank) ∧
    (∀ b ∈ d.bases, b.is .baseException = false → Category.ofClass b = .generic) ∧
    (∀ {h' : Hierarchy} {d' : Definition}, h'.Admitted → d' ∈ h' → d'.bases.Perm d.bases →
      Category.ofClass d'.cls = .ofClass d.cls) ∧
    ∀ a, h.IsA d.cls a → (Category.ofClass d.cls).rank ≤ (Category.ofClass a).rank := by
  refine ⟨?_, ?_, ?_, ?_⟩
  · intro e he
    obtain ⟨hle, hone⟩ := hh.ofClass_base hd
    unfold Fault.category
    rw [he]
    exact ⟨hone, hle⟩
  · intro b hb hmixin
    exact hh.generic_of_mixin (hh.has_base (Or.inr hd) hb) hmixin
  · intro h' d' hh' hd' hperm
    -- either class is at least as early as the bases, of which the other one has one
    obtain ⟨hle, b, hb, hone⟩ := hh.ofClass_base hd
    obtain ⟨hle', b', hb', hone'⟩ := hh'.ofClass_base hd'
    refine Category.eq_of_rank_eq (Nat.le_antisymm ?_ ?_)
    · rw [hone]
      exact hle' b (hperm.mem_iff.mpr hb)
    · rw [hone']
      exact hle b' (hperm.mem_iff.mp hb')
  · intro a ha
    exact Category.rank_le_of_admits fun k hk => hh.admits_of_isA ha hk

/-! ## A class of mixed descent -/

namespace MixedDescent

/-- A class that is no exception. -/
def labelled : ClassSpec where
  name := "Labelled"
  bases := []

def labelledClass : Class :=
  ⟨labelled.head 0, [Known.object.head]⟩

/-- A wrong value and a resource that is not there, with a label. -/
def report : ClassSpec where
  name := "StaleReport"
  bases := [labelledClass, Known.valueError.toClass, Known.notFound.toClass]

def reportClass : Class :=
  ⟨report.head 1, labelledClass.head ::
    [Known.valueError, .notFound, .domainError, .exception, .baseException, .object].map Known.head⟩

/-- The same bases the other way round. -/
def reversed : ClassSpec where
  name := "ReportGone"
  bases := [Known.notFound.toClass, Known.valueError.toClass, labelledClass]

def reversedClass : Class :=
  ⟨reversed.head 2,
    [Known.notFound, .domainError, .valueError, .exception, .baseException].map Known.head
      ++ [labelledClass.head, Known.object.head]⟩

def hierarchy : Hierarchy :=
  [⟨reversedClass, reversed.parents⟩, ⟨reportClass, report.parents⟩,
    ⟨labelledClass, labelled.parents⟩]

theorem hierarchy_admitted : hierarchy.Admitted := by
  have hlabelled : ∀ h : Hierarchy,
      Hierarchy.Has (h ++ [⟨labelledClass, labelled.parents⟩]) labelledClass := fun h =>
    ⟨_, Or.inr (List.mem_append_right h List.mem_cons_self), rfl⟩
  refine .of_define (.of_define (.of_define .known ?_
    (show Class.define 0 labelled = .ok labelledClass from rfl)) ?_
    (show Class.define 1 report = .ok reportClass from rfl)) ?_
    (show Class.define 2 reversed = .ok reversedClass from rfl)
  · intro b hb
    obtain rfl := List.mem_singleton.mp hb
    exact .known _ _
  · intro b hb
    rcases List.mem_cons.mp hb with rfl | hb
    · exact hlabelled []
    rcases List.mem_cons.mp hb with rfl | hb
    · exact .known _ _
    obtain rfl := List.mem_singleton.mp hb
    exact .known _ _
  · intro b hb
    rcases List.mem_cons.mp hb with rfl | hb
    · exact .known _ _
    rcases List.mem_cons.mp hb with rfl | hb
    · exact .known _ _
    obtain rfl := List.mem_singleton.mp hb
    exact hlabelled [_]

end MixedDescent

open MixedDescent in
/-- A wrong value that is also a missing resource counts as the latter, whichever base is
    listed first, and the label counts for nothing. -/
theorem mixed_reports_are_not_found :
    (∀ e : Fault, e.cls = reportClass → e.category = .notFound) ∧
    Category.ofClass labelledClass = .generic ∧
    Category.ofClass reversedClass = .ofClass reportClass ∧
    (Category.ofClass reportClass).rank ≤ (Category.ofClass Known.valueError.toClass).rank := by
  have hreport : (⟨reportClass, report.parents⟩ : Definition) ∈ hierarchy :=
    List.mem_cons_of_mem _ List.mem_cons_self
  have hreversed : (⟨reversedClass, reversed.parents⟩ : Definition) ∈ hierarchy :=
    List.mem_cons_self
  obtain ⟨hcategory, hmixin, horder, hancestor⟩ :=
    first_category_of_the_bases hierarchy_admitted hreport
  refine ⟨?_, ?_, ?_, ?_⟩
  · intro e he
    obtain ⟨⟨b, hb, hone⟩, hfirst⟩ := hcategory e he
    -- the last base has this category, and only a denied access would come before it
    have hle : e.category.rank ≤ Category.rank .notFound :=
      hfirst Known.notFound.toClass
        (List.mem_cons_of_mem _ (List.mem_cons_of_mem _ List.mem_cons_self))
    rcases List.mem_cons.mp hb with rfl | hb
    · rw [hone] at hle
      exact absurd hle (by decide)
    rcases List.mem_cons.mp hb with rfl | hb
    · rw [hone] at hle
      exact absurd hle (by decide)
    obtain rfl := List.mem_singleton.mp hb
    exact hone
  · exact hmixin labelledClass List.mem_cons_self rfl
  · refine horder hierarchy_admitted hreversed ?_
    exact (List.Perm.swap _ _ _).trans ((List.Perm.cons _ (List.Perm.swap _ _ _)).trans
      (List.Perm.swap _ _ _))
  · refine hancestor Known.valueError.toClass (.single ⟨_, Or.inr hreport, rfl, ?_⟩)
    exact List.mem_cons_of_mem _ List.mem_cons_self

end FaultResponse
