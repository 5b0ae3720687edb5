import FaultResponse.Session
import FaultResponse.Proofs.NearestDeclaration
import FaultResponse.Proofs.Registration
/-! # Histories of registrations — what a lookup finds after any number of them

    A lookup asks the places of a lineage one by one, and each of them holds what was made
    last for it.  Together this says what is found after a history, by the history alone
    (`find_after_eq_some_iff`).

    The histories are those of sessions: a session moves the registries by the steps that
    declare a status, also where a class is defined, and by no others
    (`registries_step`, and `registries_after` by induction on the steps). -/

namespace FaultResponse

/-! ## Lookups -/

namespace Registries

variable {calls : List Registration} {name : RegistryName}

theorem after_one (rs : Registries) (a : Registration) :
    rs.after [a] = (a.run rs).toOption.getD rs := by
  unfold after
  cases a.run rs with
  | ok next => rfl
  | error f => rfl

theorem after_append (rs : Registries) (earlier later : List Registration) :
    rs.after (earlier ++ later) = (rs.after earlier).after later := by
  funext name c
  rw [after_apply, after_apply, after_apply, lastMade_append, Option.or_assoc]

theorem empty_after_apply (calls : List Registration) (name : RegistryName) (c : ClassId) :
    empty.after calls name c = lastMade name c calls := by
  rw [after_apply]
  exact Option.or_none

/-- **THE LAST ONE OF THE NEAREST** is found: the class that is reached is the first of the
    lineage for which the history makes anything. -/
theorem find_after_eq_some_iff {lineage : List ClassId} {d : Declaration} :
    (empty.after calls name).find lineage = some d ↔
      ∃ before c further, lineage = before ++ c :: further ∧ MadeLast calls name c d ∧
        ∀ b ∈ before, Unmade calls name b := by
  constructor
  · intro h
    obtain ⟨c, ⟨before, further, hcut, hnone⟩, hc⟩ := Registry.exists_of_find_eq_some h
    rw [empty_after_apply] at hc
    refine ⟨before, c, further, hcut, lastMade_eq_some_iff.mp hc, ?_⟩
    intro b hb
    have hb := hnone b hb
    rw [empty_after_apply] at hb
    exact lastMade_eq_none_iff.mp hb
  · rintro ⟨before, c, further, rfl, hlast, hnone⟩
    refine List.findSome?_eq_some_iff.mpr ⟨before, c, further, rfl, ?_, ?_⟩
    · rw [empty_after_apply]
      exact lastMade_eq_some_iff.mpr hlast
    · intro b hb
      rw [empty_after_apply]
      exact lastMade_eq_none_iff.mpr (hnone b hb)

theorem find_after_eq_none_iff {lineage : List ClassId} :
    (empty.after calls name).find lineage = none ↔ ∀ c ∈ lineage, Unmade calls name c := by
  rw [Registry.find_eq_none_iff]
  refine forall_congr' fun c => forall_congr' fun _ => ?_
  rw [empty_after_apply]
  exact lastMade_eq_none_iff

end Registries

/-! ## One registration -/

namespace Registration

variable {a : Registration} (rs : Registries)

/-- What is no status is refused, and might as well not have been asked for. -/
theorem run_of_outside (h : ¬ (100 ≤ a.status ∧ a.status ≤ 599)) :
    a.run rs = .error (.statusOutOfRange a.status) ∧
      ∀ earlier later, rs.after (earlier ++ a :: later) = rs.after (earlier ++ later) := by
  rcases a.run_cases rs with ⟨hs, -⟩ | ⟨hs, hr⟩
  · exact absurd (Http.isStatus_iff.mp hs) h
  · exact ⟨hr, rs.after_of_refused hs⟩

/-- What is a status is written in its place, and every other place is as it was. -/
theorem run_of_inside (h : 100 ≤ a.status ∧ a.status ≤ 599) :
    ∃ next d, a.run rs = .ok next ∧ a.Makes a.registry a.cls d ∧
      next a.registry a.cls = some d ∧
      ∀ name c, (name, c) ≠ (a.registry, a.cls) → next name c = rs name c := by
  have hs : Http.isStatus a.status = true := Http.isStatus_iff.mpr h
  have hmakes : a.Makes a.registry a.cls ⟨a.status, a.reason, hs⟩ := ⟨rfl, rfl, rfl, rfl⟩
  rcases a.run_cases rs with ⟨_, hr⟩ | ⟨hs', -⟩
  · refine ⟨_, _, hr, hmakes, ?_, ?_⟩
    · rw [run_apply hr, made?_eq_some_iff.mpr hmakes, Option.some_or]
    · intro name c hne
      have hnone : a.made? name c = none :=
        if_neg fun hplace => hne (by rw [hplace.1, hplace.2])
      rw [run_apply hr, hnone, Option.none_or]
  · exact nomatch hs.symm.trans hs'

end Registration

/-! ## Sessions -/

namespace Session

/-- The registration that a step asks for: a call, or the mark of a class that can be
    defined. -/
def registration? (s : Session) : Step → Option Registration
  | .register cls status reason registry => some (.call registry cls.head.id status reason)
  | .define spec (some a) =>
    match s.catalog.define spec with
    | .ok (c, _) => some (.mark a.registry c.head.id a.status a.reason)
    | .error _ => none
  | _ => none

/-- The session after steps one by one. -/
def after (s : Session) (now : String) : List Step → Session
  | [] => s
  | x :: rest => after (s.step now x).session now rest

/-- The registrations that the steps ask for, each in the session in which it is run. -/
def history (s : Session) (now : String) : List Step → List Registration
  | [] => []
  | x :: rest => (s.registration? x).toList ++ history (s.step now x).session now rest

variable (s : Session) (now : String)

/-- Building an exception leaves the registries alone. -/
theorem registries_resolve {source : FaultSource} {e : Fault} {t : Session}
    (h : s.resolve source = .ok (e, t)) : t.registries = s.registries := by
  cases source with
  | named name =>
      unfold resolve at h
      cases hf : s.faults.get? name with
      | none =>
          simp only [hf] at h
          exact nomatch h
      | some e' =>
          simp only [hf] at h
          obtain ⟨-, rfl⟩ := Prod.mk.inj (Except.ok.inj h)
          rfl
  | fresh spec =>
      unfold resolve at h
      cases hb : Fault.build spec ⟨s.next, s.world.bodies⟩ with
      | error m =>
          simp only [hb] at h
          exact nomatch h
      | ok built =>
          simp only [hb] at h
          obtain ⟨-, rfl⟩ := Prod.mk.inj (Except.ok.inj h)
          rfl

theorem registries_withFault {source : FaultSource} {next : Fault → Session → StepEffect}
    (h : ∀ e t, (next e t).session.registries = t.registries) :
    (s.withFault source next).session.registries = s.registries := by
  unfold withFault
  cases hr : s.resolve source with
  | error f => rfl
  | ok built =>
      obtain ⟨e, t⟩ := built
      exact (h e t).trans (s.registries_resolve hr)

theorem registries_resolveVerdict {v : VerdictSpec} {told : Verdict} {t : Session}
    (h : s.resolveVerdict v = .ok (told, t)) : t.registries = s.registries := by
  unfold resolveVerdict at h
  cases hv : v.subject with
  | none =>
      simp only [hv] at h
      obtain ⟨-, rfl⟩ := Prod.mk.inj (Except.ok.inj h)
      rfl
  | some source =>
      simp only [hv] at h
      cases hr : s.resolve source with
      | error f =>
          simp only [hr] at h
          exact nomatch h
      | ok built =>
          simp only [hr] at h
          obtain ⟨-, rfl⟩ := Prod.mk.inj (Except.ok.inj h)
          exact s.registries_resolve hr

/-- A class that is defined takes its mark with it; a mark that is refused takes the class
    with it. -/
theorem registries_define (spec : ClassSpec) (declare : Option Annotation) :
    (s.step now (.define spec declare)).session.registries
      = s.registries.after (s.registration? (.define spec declare)).toList := by
  cases hd : s.catalog.define spec with
  | error f =>
      have hclass : defineClass s.catalog s.registries spec declare = .error f := by
        simp only [defineClass, hd]
      have hnone : s.registration? (.define spec declare) = none := by
        cases declare with
        | none => rfl
        | some a => simp only [registration?, hd]
      simp only [step, hclass, hnone]
      rfl
  | ok defined =>
      cases declare with
      | none =>
          simp only [step, defineClass, hd]
          rfl
      | some a =>
          simp only [registration?, hd, Option.toList_some, Registries.after_one]
          show _ = (s.registries.annotate a.registry defined.1.head.id a.status
            a.reason).toOption.getD s.registries
          cases ha : s.registries.annotate a.registry defined.1.head.id a.status a.reason with
          | ok rs =>
              simp only [step, defineClass, hd, ha]
              rfl
          | error f =>
              simp only [step, defineClass, hd, ha]
              rfl

theorem registries_register (cls : Class) (status : Int) (reason : Text)
    (registry : RegistryName) :
    (s.step now (.register cls status reason registry)).session.registries
      = s.registries.after [.call registry cls.head.id status reason] := by
  rw [Registries.after_one]
  show _ = (s.registries.register registry cls.head.id status reason).toOption.getD s.registries
  cases hr : s.registries.register registry cls.head.id status reason with
  | ok rs =>
      simp only [step, hr]
      rfl
  | error f =>
      simp only [step, hr]
      rfl

theorem registries_emit (v : VerdictSpec) (channel : String) :
    (s.step now (.emit v channel)).session.registries = s.registries := by
  cases hv : s.resolveVerdict v with
  | error f => simp only [step, hv]
  | ok told =>
      simp only [step, hv]
      show told.2.registries = s.registries
      exact s.registries_resolveVerdict hv

/-- **ONE STEP** moves the registries by the registration that it asks for. -/
theorem registries_step (x : Step) :
    (s.step now x).session.registries = s.registries.after (s.registration? x).toList := by
  cases x with
  | define spec declare => exact s.registries_define now spec declare
  | register cls status reason registry =>
      exact s.registries_register now cls status reason registry
  | emit v channel => exact s.registries_emit now v channel
  | bind | classify | handle | record | keep => exact s.registries_withFault fun _ _ => rfl
  | find | contains | openScope | openChannel | operate => rfl

end Session

/-- **ANY NUMBER OF STEPS** moves the registries by the history of their registrations. -/
theorem Session.registries_after (s : Session) (now : String) (steps : List Step) :
    (s.after now steps).registries = s.registries.after (s.history now steps) := by
  induction steps generalizing s with
  | nil => rfl
  | cons x rest ih =>
      show ((s.step now x).session.after now rest).registries = _
      rw [ih, s.registries_step, ← Registries.after_append]
      rfl

/-! ## The whole -/

/-- **THE LAST VALID REGISTRATION IS FOUND**, in every history of calls on registries and
    of marks on class definitions.  A call for a number outside the range is refused as an
    error of value and leaves every registry as if it had not been made; any other one is
    accepted and writes its own place only.  What is found for a class on a registry is the
    declaration that was made last there for the first class of its lineage for which one
    was made at all.  Calls for different classes can be exchanged, as long as those for
    each class keep their order.  A mark that names a registry writes there, whatever that
    one holds, and leaves the shared registry alone; a mark that names none writes on the
    shared one.  And the registries of a session are those of the history that its steps
    ask for. -/
theorem last_valid_registration_is_found :
    (∀ (a : Registration) (rs : Registries),
      (¬ (100 ≤ a.status ∧ a.status ≤ 599) →
        a.run rs = .error (.statusOutOfRange a.status) ∧
        (Failure.statusOutOfRange a.status).kind = Known.valueError.kind ∧
        ∀ earlier later, rs.after (earlier ++ a :: later) = rs.after (earlier ++ later)) ∧
      (100 ≤ a.status ∧ a.status ≤ 599 →
        ∃ next d, a.run rs = .ok next ∧ a.Makes a.registry a.cls d ∧
          next a.registry a.cls = some d ∧
          ∀ name c, (name, c) ≠ (a.registry, a.cls) → next name c = rs name c)) ∧
    (∀ (calls : List Registration) (name : RegistryName) (t : Class),
      let found := (Registries.empty.after calls name).find t.lineage
      (∀ d, found = some d ↔
        ∃ before c further, t.lineage = before ++ c :: further ∧ MadeLast calls name c d ∧
          ∀ b ∈ before, Unmade calls name b) ∧
      (found = none ↔ ∀ c ∈ t.lineage, Unmade calls name c)) ∧
    (∀ (rs : Registries) (calls calls' : List Registration),
      ((∀ c, calls.filter (fun a => a.cls = c) = calls'.filter fun a => a.cls = c) ∨
        (calls.Perm calls' ∧ (calls.map Registration.cls).Nodup)) →
      rs.after calls = rs.after calls') ∧
    (∀ (rs : Registries) (name : RegistryName) (c : ClassId) (status : Int) (reason : Text),
      100 ≤ status ∧ status ≤ 599 → name ≠ .shared →
      (∃ next d, (Registration.mark (some name) c status reason).run rs = .ok next ∧
        d.status = status ∧ d.reason = reason ∧ next name c = some d ∧
        next .shared = rs .shared) ∧
      ∃ next d, (Registration.mark none c status reason).run rs = .ok next ∧
        d.status = status ∧ d.reason = reason ∧ next .shared c = some d ∧
        next name = rs name) ∧
    ∀ (s : Session) (now : String) (steps : List Step),
      (s.after now steps).registries = s.registries.after (s.history now steps) := by
  refine ⟨?_, ?_, ?_, ?_, Session.registries_after⟩
  · intro a rs
    refine ⟨?_, fun h => Registration.run_of_inside rs h⟩
    intro h
    obtain ⟨hrefused, hleft⟩ := Registration.run_of_outside rs h
    exact ⟨hrefused, rfl, hleft⟩
  · intro calls name t found
    exact ⟨fun d => Registries.find_after_eq_some_iff, Registries.find_after_eq_none_iff⟩
  · rintro rs calls calls' (hsame | ⟨hperm, hdistinct⟩)
    · exact Registries.after_congr hsame rs
    · exact Registries.after_perm hperm hdistinct rs
  · intro rs name c status reason h hname
    constructor
    · obtain ⟨next, d, hr, hd, hwritten, hleft⟩ :=
        Registration.run_of_inside (a := .mark (some name) c status reason) rs h
      refine ⟨next, d, hr, hd.status.symm, hd.reason.symm, hwritten, funext fun c' => ?_⟩
      exact hleft .shared c' fun hplace => hname (Prod.mk.inj hplace).1.symm
    · obtain ⟨next, d, hr, hd, hwritten, hleft⟩ :=
        Registration.run_of_inside (a := .mark none c status reason) rs h
      refine ⟨next, d, hr, hd.status.symm, hd.reason.symm, hwritten, funext fun c' => ?_⟩
      exact hleft name c' fun hplace => hname (Prod.mk.inj hplace).1

/-- A history in which the own class of a timeout is refused a status twice and its
    ancestor is declared twice: the second declaration is found, also when one of the
    refused calls is left out, and nothing of it reaches the shared registry. -/
theorem second_declaration_is_found :
    let busy := Registration.mark (some (.own 0)) (.known .osError) 409 "busy"
    let refused := Registration.call (.own 0) (.known .timeoutError) 600 ""
    let down := Registration.call (.own 0) (.known .osError) 503 "down"
    let late := Registration.mark (some (.own 0)) (.known .timeoutError) 99 ""
    let rs := Registries.empty.after [busy, refused, down, late]
    (∃ d, (rs (.own 0)).find Known.timeoutError.toClass.lineage = some d ∧
      d.status = 503 ∧ d.reason = "down") ∧
    rs = Registries.empty.after [busy, down, late] ∧
    (rs .shared).find Known.timeoutError.toClass.lineage = none := by
  intro busy refused down late rs
  obtain ⟨hcall, hlookup, -⟩ := last_valid_registration_is_found
  have hlast : MadeLast [busy, refused, down, late] (.own 0) (.known .osError)
      ⟨503, "down", rfl⟩ := lastMade_eq_some_iff.mp rfl
  have hunmade : ∀ b ∈ [ClassId.known .timeoutError],
      Unmade [busy, refused, down, late] (.own 0) b := by
    intro b hb
    obtain rfl := List.mem_singleton.mp hb
    exact lastMade_eq_none_iff.mp rfl
  obtain ⟨hfound, -⟩ := hlookup [busy, refused, down, late] (.own 0) Known.timeoutError.toClass
  obtain ⟨-, hnone⟩ := hlookup [busy, refused, down, late] .shared Known.timeoutError.toClass
  refine ⟨⟨_, (hfound _).mpr ⟨_, _, _, rfl, hlast, hunmade⟩, rfl, rfl⟩, ?_, ?_⟩
  · obtain ⟨-, -, hleft⟩ := (hcall refused Registries.empty).1 (by decide)
    exact hleft [busy] [down, late]
  · refine hnone.mpr fun c _ => lastMade_eq_none_iff.mp ?_
    rfl

end FaultResponse
