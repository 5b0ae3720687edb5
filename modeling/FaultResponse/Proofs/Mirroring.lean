import FaultResponse.Handling
import FaultResponse.Proofs.Rereading
/-! # Mirroring — how a failed remote call is answered

    A failed remote call is answered in one of two ways, and the response decides between
    them, whatever classes the exception has besides:

    * a received response is mirrored (`mirrors_of_drafts`).  What it carries for a status
      is a field of any kind, and `status?_eq_some_iff` says which fields count;
    * without a response the declared lookup answers, as it does for an exception of any
      other category (`declared_withCategory`), only that the log entry is a warning
      (`warns_of_declared`).

    `remote_failure_is_mirrored` puts the two together. -/

namespace FaultResponse

/-! ## The status of a response -/

namespace Response

/-- The status field of the response holds that integer, and HTTP knows it.  A truth
    value, a text or any other value is no integer. -/
def CarriesStatus (r : Response) (n : Int) : Prop :=
  r.statusField = .value (.int n) ∧ 100 ≤ n ∧ n ≤ 599

/-- Truth values count as one and zero, which are no statuses. -/
theorem httpStatus?_eq_some_iff {v : Option Value} {n : Int} :
    httpStatus? v = some n ↔ v = some (.int n) ∧ 100 ≤ n ∧ n ≤ 599 := by
  cases v with
  | none => exact iff_of_false nofun nofun
  | some w =>
      cases w with
      | int k =>
          show (if 100 ≤ k ∧ k ≤ 599 then some k else none) = some n ↔ _
          rw [Option.ite_none_right_eq_some, Option.some.injEq, Option.some.injEq,
            Value.int.injEq]
          constructor
          · rintro ⟨hk, rfl⟩
            exact ⟨rfl, hk⟩
          · rintro ⟨rfl, hk⟩
            exact ⟨hk, rfl⟩
      | bool b => cases b <;> exact iff_of_false nofun nofun
      | null | text s | list items | object fields => exact iff_of_false nofun nofun

/-- A status is found exactly where one is carried. -/
theorem status?_eq_some_iff {r : Response} {n : Int} :
    r.status? = .ok (some n) ↔ r.CarriesStatus n := by
  show r.statusField.get?.map httpStatus? = .ok (some n) ↔ _
  rw [mapped_eq_ok_iff]
  simp only [httpStatus?_eq_some_iff]
  constructor
  · rintro ⟨field, hfield, rfl, hn⟩
    refine ⟨?_, hn⟩
    cases hs : r.statusField with
    | absent => rw [hs] at hfield; exact nomatch hfield
    | value a =>
        rw [hs] at hfield
        exact congrArg Field.value (Option.some.inj (Except.ok.inj hfield))
    | failing f =>
        -- a look that fails finds no value, if it finds anything
        rw [hs] at hfield
        have hcaught : (if f.kind.is .attributeError then Except.ok none else .error f)
            = Except.ok (some (Value.int n)) := hfield
        split at hcaught
        · exact nomatch hcaught
        · exact nomatch hcaught
  · rintro ⟨hs, hn⟩
    exact ⟨some (.int n), by rw [hs]; rfl, rfl, hn⟩

end Response

/-! ## Two ways to answer -/

/-- A verdict that passes on what the response of a failed remote call says, through an
    exception that carries the message and the context.  The context is the one that the
    exception tells, and tells again after its body was read. -/
structure Verdict.Mirrors (v : Verdict) (e : Fault) (bodies : Bodies) (response : Response) :
    Prop where
  status : ∀ n, response.CarriesStatus n → v.status = n
  badGateway : (∀ n, ¬ response.CarriesStatus n) → v.status = 502
  context : ∃ x, (e.remoteContext bodies).outcome = .ok x ∧
    (e.remoteContext (e.remoteContext bodies).bodies).outcome = .ok x ∧
    v.context = x.toAttributes
  carrier : ∃ kept, v.subject = some kept ∧ kept.cls = Known.remoteContextError.toClass ∧
    kept.message = e.message ∧ kept.attributes? = some v.context
  unlogged : ∀ sink, (v.emit sink).2 = []

/-- A verdict that answers as a declared lookup does, and warns of a call that got no
    response. -/
structure Verdict.Warns (v : Verdict) (e : Fault) (lookup : Verdict) : Prop where
  status : v.status = lookup.status
  message : v.message = lookup.message
  context : v.context = []
  subject : v.subject = some e
  level : v.log.level = .warning
  traceback : v.log.traceback = true

namespace Classifier

variable {c : Classifier} {r : Registry} {e : Fault} {bodies : Bodies} {d : Draft} {v : Verdict}

/-! ## With a response -/

/-- **A RESPONSE IS MIRRORED** by whatever is made of the draft of its exception. -/
theorem mirrors_of_drafts {response : Response} (hc : e.category = .remoteFailure)
    (hr : e.response? = .ok (some response)) (hd : c.Drafts r e bodies d)
    (hf : c.finish d = .ok v) : v.Mirrors e bodies response := by
  obtain ⟨x, m, status, hx, hm, hs, rfl⟩ := drafts_of_response hc hr hd
  obtain ⟨answer, -, rfl⟩ := c.finish_eq_ok_iff.mp hf
  have hagain := Fault.remoteContext_again hr hx (.refl _)
  refine ⟨?_, ?_, ⟨x, hx, hagain, rfl⟩, ⟨carrier m x, rfl, rfl, ?_, attributes_carrier m x⟩, ?_⟩
  · intro n hn
    obtain rfl := Except.ok.inj (hs.symm.trans (Response.status?_eq_some_iff.mpr hn))
    rfl
  · intro hnone
    cases status with
    | none => rfl
    | some n => exact absurd (Response.status?_eq_some_iff.mp hs) (hnone n)
  · rw [message_carrier, hm]
  · intro sink
    rfl

/-! ## Without a response -/

/-- Finishing does not look at the category. -/
theorem finish_withCategory (c : Classifier) (d : Draft) (category : Category) :
    c.finish { d with category := category }
      = (c.finish d).map fun v => { v with category := category } := by
  show c.conclude category d.subject d.status d.message d.log d.context
    = (c.conclude d.category d.subject d.status d.message d.log d.context).map _
  unfold conclude
  cases c.decorator.decorate d.subject d.message with
  | error f => rfl
  | ok m => rfl

theorem declaredDraft_withCategory (c : Classifier) (r : Registry) (e : Fault)
    (m : Option Text) (category other : Category) :
    c.declaredDraft r category e m = { c.declaredDraft r other e m with category := category } := by
  cases hd : r.find e.cls.lineage with
  | none => rw [c.declaredDraft_of_none hd, c.declaredDraft_of_none hd]
  | some d => rw [c.declaredDraft_of_find hd, c.declaredDraft_of_find hd]

/-- **THE DECLARED LOOKUP ANSWERS ALIKE** for every category. -/
theorem declared_withCategory (c : Classifier) (r : Registry) (e : Fault)
    (category other : Category) :
    c.declared r category e
      = (c.declared r other e).map fun v => { v with category := category } := by
  rw [declared_eq_bind, declared_eq_bind]
  cases e.message with
  | error f => rfl
  | ok m =>
      show c.finish (c.declaredDraft r category e m)
        = (c.finish (c.declaredDraft r other e m)).map _
      rw [c.declaredDraft_withCategory r e m _ other, finish_withCategory]

/-- What the lookup answers with, whatever the decorator makes of the message. -/
theorem parts_of_declared {category : Category} (h : c.declared r category e = .ok v) :
    v.status = (r.find e.cls.lineage).elim 500 Declaration.status ∧ v.context = [] ∧
      v.subject = some e := by
  obtain ⟨m, -, hf⟩ := c.declared_eq_ok_iff.mp h
  obtain ⟨answer, -, rfl⟩ := c.finish_eq_ok_iff.mp hf
  cases hd : r.find e.cls.lineage with
  | none =>
      rw [c.declaredDraft_of_none hd]
      exact ⟨rfl, rfl, rfl⟩
  | some d =>
      rw [c.declaredDraft_of_find hd]
      exact ⟨rfl, rfl, rfl⟩

/-- Without a response classification is the lookup, and a warning in the place of what
    the lookup would log. -/
theorem classify_of_unanswered (hc : e.category = .remoteFailure)
    (hr : e.response? = .ok none) (c : Classifier) (r : Registry) (bodies : Bodies)
    (category : Category) :
    (c.classify r e bodies).outcome = (c.declared r category e).map
      fun w => { w with category := .remoteFailure, log := noResponseLog } := by
  have hrule : (c.classify r e bodies).outcome = c.unanswered r e := by
    simp only [classify, hc, hr]
  rw [hrule, unanswered_eq_map, c.declared_withCategory r e .remoteFailure category]
  cases c.declared r category e with
  | error f => rfl
  | ok w => rfl

end Classifier

/-! ## The whole -/

/-- **A FAILED REMOTE CALL IS ANSWERED FAITHFULLY**, under any decorator.  With a received
    response of any kind the verdict mirrors it.  Without one there is a verdict exactly
    when the declared lookup gives one, and it has the status and the message of that
    lookup, as if the exception were of any other category; it keeps the exception itself,
    has no context, and warns with the traceback whatever status is declared. -/
theorem remote_failure_is_mirrored (c : Classifier) (r : Registry) (e : Fault) (bodies : Bodies)
    (hc : e.category = .remoteFailure) :
    (∀ response v, e.response? = .ok (some response) →
      (c.classify r e bodies).outcome = .ok v → v.Mirrors e bodies response) ∧
    (e.response? = .ok none → ∀ category,
      ((∃ v, (c.classify r e bodies).outcome = .ok v) ↔ ∃ w, c.declared r category e = .ok w) ∧
      ∀ v w, (c.classify r e bodies).outcome = .ok v → c.declared r category e = .ok w →
        v.Warns e w ∧ w.status = (r.find e.cls.lineage).elim 500 Declaration.status) := by
  constructor
  · intro response v hr hv
    obtain ⟨d, hd, hf⟩ := c.classify_eq_ok_iff.mp hv
    exact Classifier.mirrors_of_drafts hc hr hd hf
  · intro hr category
    rw [Classifier.classify_of_unanswered hc hr c r bodies category]
    constructor
    · constructor
      · rintro ⟨v, hv⟩
        obtain ⟨w, hw, -⟩ := mapped_eq_ok_iff.mp hv
        exact ⟨w, hw⟩
      · rintro ⟨w, hw⟩
        exact ⟨_, mapped_eq_ok_iff.mpr ⟨w, hw, rfl⟩⟩
    · intro v w hv hw
      obtain ⟨w', hw', rfl⟩ := mapped_eq_ok_iff.mp hv
      obtain rfl := Except.ok.inj (hw.symm.trans hw')
      obtain ⟨hstatus, hcontext, hsubject⟩ := Classifier.parts_of_declared hw
      exact ⟨⟨rfl, rfl, hcontext, hsubject, rfl, rfl⟩, hstatus⟩

/-- A truth value in the place of a status is answered with 502; and a call that was refused
    is warned of although 404 is declared for it, which would not be logged. -/
theorem truth_is_no_status :
    let c : Classifier := {}
    let answered : Fault := ⟨Known.remoteCallError.toClass,
      { Details.ofMessage (some "quota service failed") with
        url := some (some "https://quota.test/check")
        response := some (some (.foreign
          { typeName := "RelayResponse", status := .value (.bool true), url := .absent
            headers := .absent, read := .absent })) }⟩
    let refused : Fault := .ofText .connectError "refused"
    let registry := Registry.empty.set (.known .connectError) (some ⟨404, "", rfl⟩)
    (answered.category = .remoteFailure ∧
      ∃ v, (c.classify registry answered fun _ => .closed).outcome = .ok v ∧ v.status = 502) ∧
    refused.category = .remoteFailure ∧ refused.response? = .ok none ∧
      ∃ v w, (c.classify registry refused fun _ => .closed).outcome = .ok v ∧
        c.declared registry .generic refused = .ok w ∧ w.log.level = .none ∧ v.Warns refused w := by
  intro c answered refused registry
  have hanswered : (c.classify registry answered fun _ => .closed).outcome = .ok _ := rfl
  have hrefused : (c.classify registry refused fun _ => .closed).outcome = .ok _ := rfl
  have hlookup : c.declared registry .generic refused = .ok _ := rfl
  have hmirrors := (remote_failure_is_mirrored c registry answered (fun _ => .closed) rfl).1
    _ _ rfl hanswered
  have hwarns := ((remote_failure_is_mirrored c registry refused (fun _ => .closed) rfl).2
    rfl .generic).2 _ _ hrefused hlookup
  refine ⟨⟨rfl, _, hanswered, hmirrors.badGateway ?_⟩, rfl, rfl, _, _, hrefused, hlookup, rfl,
    hwarns.1⟩
  rintro n ⟨hn, -⟩
  exact nomatch Field.value.inj hn

end FaultResponse
