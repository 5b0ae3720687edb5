import FaultResponse.Declaration
/-! # Registrations — what a history of declarations leaves

    Declarations are made one after another, by a call on a registry or by a mark on a
    class definition.  A declaration of a number that is no status is refused and leaves
    every registry as it was (`run_cases`); any other one writes one place, that of its
    class on its registry (`run_apply`).  So a place holds what was made last for it:

    * `lastMade` is what a history leaves in a place that was empty, and `after_apply` that
      it leaves just this in every place, by induction on the history;
    * `lastMade_eq_some_iff`, `lastMade_eq_none_iff`: which call that is, in terms of the
      history alone;
    * `after_congr`: a place is asked about its own class only, so calls for different
      classes can be exchanged;
    * `declared_by_history`: what is held was put there by a call that was not refused. -/

namespace FaultResponse

/-- One declaration, as it is asked for. -/
inductive Registration
  /-- A call on a registry. -/
  | call (registry : RegistryName) (cls : ClassId) (status : Int) (reason : Text)
  /-- A mark on a class definition, which need not name a registry. -/
  | mark (registry : Option RegistryName) (cls : ClassId) (status : Int) (reason : Text)

namespace Registration

/-- The registry that the declaration goes to. -/
def registry : Registration → RegistryName
  | call n .. => n
  | mark n .. => n.getD .shared

/-- The class that it is about. -/
def cls : Registration → ClassId
  | call _ c .. | mark _ c .. => c

/-- The number that is to be the status. -/
def status : Registration → Int
  | call _ _ s _ | mark _ _ s _ => s

/-- The reason that is to be given. -/
def reason : Registration → Text
  | call _ _ _ t | mark _ _ _ t => t

/-- Make the declaration. -/
def run (rs : Registries) : Registration → Except Failure Registries
  | call n c s t => rs.register n c s t
  | mark n c s t => rs.annotate n c s t

end Registration

/-- The registries after declarations one by one; a refused one changes nothing. -/
def Registries.after (rs : Registries) : List Registration → Registries
  | [] => rs
  | a :: rest =>
    match a.run rs with
    | .ok next => after next rest
    | .error _ => after rs rest

/-! ## One declaration -/

theorem Http.isStatus_iff {status : Int} :
    isStatus status = true ↔ 100 ≤ status ∧ status ≤ 599 := by
  unfold isStatus
  rw [Bool.and_eq_true, decide_eq_true_eq, decide_eq_true_eq]

namespace Registration

/-- Whether a declaration is the one that a call asks for. -/
structure Makes (a : Registration) (name : RegistryName) (c : ClassId) (d : Declaration) :
    Prop where
  registry : a.registry = name
  cls : a.cls = c
  status : a.status = d.status
  reason : a.reason = d.reason

/-- Both ways to declare come to the same. -/
theorem run_eq_register (a : Registration) (rs : Registries) :
    a.run rs = rs.register a.registry a.cls a.status a.reason := by
  cases a with
  | call n c s t => rfl
  | mark n c s t => rfl

/-- **ONE DECLARATION** is written in its one place if its number is a status, and else it
    is refused. -/
theorem run_cases (a : Registration) (rs : Registries) :
    (∃ h : Http.isStatus a.status = true,
      a.run rs = .ok (rs.set a.registry
        ((rs a.registry).set a.cls (some ⟨a.status, a.reason, h⟩)))) ∨
    Http.isStatus a.status = false ∧ a.run rs = .error (.statusOutOfRange a.status) := by
  rw [run_eq_register]
  unfold Registries.register Registry.register Declaration.make
  by_cases h : Http.isStatus a.status = true
  · refine Or.inl ⟨h, ?_⟩
    rw [dif_pos h]
  · refine Or.inr ⟨Bool.not_eq_true _ ▸ h, ?_⟩
    rw [dif_neg h]

variable {a : Registration} {name : RegistryName} {c : ClassId}

/-- What a call makes for a class on a registry; one that is refused makes nothing. -/
def made? (a : Registration) (name : RegistryName) (c : ClassId) : Option Declaration :=
  if a.registry = name ∧ a.cls = c then (Declaration.make a.status a.reason).toOption else none

theorem made?_eq_some_iff {d : Declaration} : a.made? name c = some d ↔ a.Makes name c d := by
  unfold made?
  constructor
  · intro h
    by_cases hplace : a.registry = name ∧ a.cls = c
    · rw [if_pos hplace] at h
      unfold Declaration.make at h
      by_cases hs : Http.isStatus a.status = true
      · rw [dif_pos hs] at h
        obtain rfl := Option.some.inj h
        exact ⟨hplace.1, hplace.2, rfl, rfl⟩
      · rw [dif_neg hs] at h
        exact nomatch h
    · rw [if_neg hplace] at h
      exact nomatch h
  · rintro ⟨hname, hcls, hstatus, hreason⟩
    obtain ⟨status, reason, hs⟩ := d
    obtain rfl : a.status = status := hstatus
    obtain rfl : a.reason = reason := hreason
    rw [if_pos ⟨hname, hcls⟩, Declaration.make, dif_pos hs]
    rfl

theorem made?_eq_none_iff : a.made? name c = none ↔ ∀ d, ¬ a.Makes name c d := by
  rw [Option.eq_none_iff_forall_ne_some]
  exact forall_congr' fun d => not_congr made?_eq_some_iff

/-- What is refused makes nothing anywhere. -/
theorem made?_of_refused (h : Http.isStatus a.status = false) (name : RegistryName)
    (c : ClassId) : a.made? name c = none := by
  refine made?_eq_none_iff.mpr fun d hd => ?_
  rw [hd.status, d.isStatus] at h
  exact nomatch h

/-- Another class is not spoken of. -/
theorem made?_of_ne (h : a.cls ≠ c) (name : RegistryName) : a.made? name c = none :=
  if_neg fun hplace => h hplace.2

/-- **ONE REGISTRATION, PLACE BY PLACE**: it writes what it makes. -/
theorem run_apply {rs next : Registries} (h : a.run rs = .ok next) (name : RegistryName)
    (c : ClassId) : next name c = (a.made? name c).or (rs name c) := by
  rcases a.run_cases rs with ⟨hs, hr⟩ | ⟨-, hr⟩
  · obtain rfl := Except.ok.inj (hr.symm.trans h)
    by_cases hname : name = a.registry
    · subst hname
      rw [Store.set_self]
      by_cases hc : c = a.cls
      · subst hc
        have hmade : a.made? a.registry a.cls = some ⟨a.status, a.reason, hs⟩ :=
          made?_eq_some_iff.mpr ⟨rfl, rfl, rfl, rfl⟩
        rw [Store.set_self, hmade, Option.some_or]
      · rw [Store.set_of_ne _ _ hc, made?_of_ne (Ne.symm hc), Option.none_or]
    · have hnone : a.made? name c = none := if_neg fun hplace => hname hplace.1.symm
      rw [Store.set_of_ne _ _ hname, hnone, Option.none_or]
  · exact nomatch hr.symm.trans h

end Registration

/-! ## A history -/

/-- What a history makes last for a class on a registry. -/
def lastMade (name : RegistryName) (c : ClassId) : List Registration → Option Declaration
  | [] => none
  | a :: rest => (lastMade name c rest).or (a.made? name c)

/-- The declaration is made for the class on the registry by a call of the history, and by
    no later one. -/
def MadeLast (calls : List Registration) (name : RegistryName) (c : ClassId)
    (d : Declaration) : Prop :=
  ∃ earlier a later, calls = earlier ++ a :: later ∧ a.Makes name c d ∧
    ∀ b ∈ later, ∀ d', ¬ b.Makes name c d'

/-- No call of the history makes a declaration for the class on the registry. -/
def Unmade (calls : List Registration) (name : RegistryName) (c : ClassId) : Prop :=
  ∀ a ∈ calls, ∀ d, ¬ a.Makes name c d

section

variable {name : RegistryName} {c : ClassId} {calls : List Registration}

theorem lastMade_append (earlier later : List Registration) :
    lastMade name c (earlier ++ later) = (lastMade name c later).or (lastMade name c earlier) := by
  induction earlier with
  | nil => exact Option.or_none.symm
  | cons a rest ih =>
      rw [List.cons_append, lastMade, ih, Option.or_assoc]
      rfl

theorem lastMade_eq_none_iff : lastMade name c calls = none ↔ Unmade calls name c := by
  induction calls with
  | nil => exact iff_of_true rfl fun a ha => nomatch ha
  | cons a rest ih =>
      unfold Unmade
      rw [lastMade, Option.or_eq_none_iff, ih, Registration.made?_eq_none_iff,
        List.forall_mem_cons]
      exact and_comm

theorem lastMade_eq_some_iff {d : Declaration} :
    lastMade name c calls = some d ↔ MadeLast calls name c d := by
  constructor
  · intro h
    induction calls with
    | nil => exact nomatch h
    | cons a rest ih =>
        cases hrest : lastMade name c rest with
        | none =>
            rw [lastMade, hrest, Option.none_or] at h
            exact ⟨[], a, rest, rfl, Registration.made?_eq_some_iff.mp h,
              lastMade_eq_none_iff.mp hrest⟩
        | some d' =>
            rw [lastMade, hrest, Option.some_or] at h
            obtain ⟨earlier, b, later, rfl, hb, hlater⟩ := ih (hrest.trans h)
            exact ⟨a :: earlier, b, later, rfl, hb, hlater⟩
  · rintro ⟨earlier, a, later, rfl, ha, hlater⟩
    rw [lastMade_append, lastMade, lastMade_eq_none_iff.mpr hlater,
      Registration.made?_eq_some_iff.mpr ha]
    rfl

/-- Only the calls for the class are asked about. -/
theorem lastMade_filter (name : RegistryName) (c : ClassId) (calls : List Registration) :
    lastMade name c (calls.filter fun a => a.cls = c) = lastMade name c calls := by
  induction calls with
  | nil => rfl
  | cons a rest ih =>
      by_cases hc : a.cls = c
      · rw [List.filter_cons_of_pos (by simpa using hc), lastMade, lastMade, ih]
      · rw [List.filter_cons_of_neg (by simpa using hc), ih, lastMade,
          Registration.made?_of_ne hc, Option.or_none]

end

namespace Registries

/-- **A HISTORY, PLACE BY PLACE**: what was made last stands there, and what stood there
    before if nothing was made. -/
theorem after_apply (rs : Registries) (calls : List Registration) (name : RegistryName)
    (c : ClassId) : rs.after calls name c = (lastMade name c calls).or (rs name c) := by
  induction calls generalizing rs with
  | nil => rfl
  | cons a rest ih =>
      unfold after lastMade
      cases hr : a.run rs with
      | ok next =>
          show next.after rest name c = _
          rw [ih next, Option.or_assoc, Registration.run_apply hr]
      | error f =>
          show rs.after rest name c = _
          rcases a.run_cases rs with ⟨_, hr'⟩ | ⟨hs, -⟩
          · exact nomatch hr.symm.trans hr'
          · rw [ih rs, Registration.made?_of_refused hs, Option.or_none]

/-- **A REFUSED CALL** might as well not have been made. -/
theorem after_of_refused {a : Registration} (h : Http.isStatus a.status = false)
    (rs : Registries) (earlier later : List Registration) :
    rs.after (earlier ++ a :: later) = rs.after (earlier ++ later) := by
  funext name c
  rw [after_apply, after_apply, lastMade_append, lastMade_append, lastMade,
    Registration.made?_of_refused h, Option.or_none]

/-- Two histories with the same calls for every class, in the same order, come to the same. -/
theorem after_congr {calls calls' : List Registration}
    (h : ∀ c, calls.filter (fun a => a.cls = c) = calls'.filter fun a => a.cls = c)
    (rs : Registries) : rs.after calls = rs.after calls' := by
  funext name c
  rw [after_apply, after_apply, ← lastMade_filter name c calls, h, lastMade_filter]

/-- Calls for different classes can be made in any order. -/
theorem after_perm {calls calls' : List Registration} (h : calls.Perm calls')
    (hdistinct : (calls.map Registration.cls).Nodup) (rs : Registries) :
    rs.after calls = rs.after calls' := by
  refine after_congr (fun c => ?_) rs
  have hperm := h.filter fun a => a.cls = c
  -- there is one call for the class at most, so there is nothing to exchange
  have hone : (calls.filter fun a => a.cls = c).Pairwise fun a b => a.cls ≠ b.cls :=
    (List.pairwise_map.mp hdistinct).filter _
  have hcls : ∀ a ∈ calls.filter fun a => a.cls = c, a.cls = c := fun a ha =>
    of_decide_eq_true (List.mem_filter.mp ha).2
  generalize calls.filter (fun a => a.cls = c) = own at hperm hone hcls ⊢
  cases own with
  | nil => exact (List.nil_perm.mp hperm).symm
  | cons a rest =>
      cases rest with
      | nil => exact List.singleton_perm.mp hperm
      | cons b rest =>
          have hsame : a.cls = b.cls :=
            (hcls a List.mem_cons_self).trans
              (hcls b (List.mem_cons_of_mem a List.mem_cons_self)).symm
          exact absurd hsame ((List.pairwise_cons.mp hone).1 b List.mem_cons_self)

end Registries

/-! ## What a history leaves -/

namespace Registries

variable {name : RegistryName} {c : ClassId} {d : Declaration}

/-- **WHAT A HISTORY LEAVES** was there before, or a call of the history has made it. -/
theorem declared_by_history {calls : List Registration} {rs : Registries}
    (hd : rs.after calls name c = some d) :
    rs name c = some d ∨ ∃ a ∈ calls, a.Makes name c d := by
  rw [after_apply, Option.or_eq_some_iff] at hd
  rcases hd with h | ⟨-, h⟩
  · obtain ⟨earlier, a, later, rfl, ha, -⟩ := lastMade_eq_some_iff.mp h
    exact Or.inr ⟨a, List.mem_append_right _ List.mem_cons_self, ha⟩
  · exact Or.inl h

/-- What is found for a lineage after a history was declared for one of its members, by a
    call of the history. -/
theorem found_by_history {calls : List Registration} {lineage : List ClassId}
    (hd : (empty.after calls name).find lineage = some d) :
    ∃ c ∈ lineage, ∃ a ∈ calls, a.Makes name c d := by
  obtain ⟨c, hc, h⟩ := List.exists_of_findSome?_eq_some hd
  rcases declared_by_history h with h | ⟨a, ha, hm⟩
  · exact nomatch h
  · exact ⟨c, hc, a, ha, hm⟩

end Registries

end FaultResponse
