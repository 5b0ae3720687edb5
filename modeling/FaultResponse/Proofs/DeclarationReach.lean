import FaultResponse.Proofs.Draft
import FaultResponse.Proofs.NearestDeclaration
/-! # The reach of declarations — what a registry can change about an answer

    Classification asks a registry one question only: what is declared nearest for the
    class of the exception.  Two registries that answer it alike are alike for the
    exception (`classify_congr_find`), and under a fixed policy it is not even asked
    (`classify_of_fixed`).  Where it is asked, the answer decides about the status, the
    message and the log entry, but not about whether there is a verdict
    (`ending_classify`).

    Together with what a write to a registry does to lookups this tells of every single
    registration what it can change: `registration_acts_where_it_reaches`. -/

namespace FaultResponse

/-- Whether an exception is answered by a policy that no declaration changes: its category
    has a status of its own, or a received response gives the status. -/
def Fault.HasFixedPolicy (e : Fault) : Prop :=
  e.category = .accessDenied ∨ e.category = .notFound ∨ e.category = .invalidRequest ∨
    e.isRelayed = true

theorem Decorator.ending_decorate (d : Decorator) (e : Fault) (m n : Option Text) :
    ending (d.decorate e m) = ending (d.decorate e n) := by
  cases d with
  | guidance g => rfl
  | constant s => rfl
  | failing f => rfl

namespace Classifier

variable (c : Classifier) {r r' : Registry} {e : Fault}

/-! ## The one question -/

theorem declared_congr (h : r.find e.cls.lineage = r'.find e.cls.lineage) (category : Category) :
    c.declared r category e = c.declared r' category e := by
  unfold declared
  rw [h]

/-- **ONE QUESTION**: a registry counts only for what is found for the exception's class. -/
theorem classify_congr_find (h : r.find e.cls.lineage = r'.find e.cls.lineage)
    (bodies : Bodies) : c.classify r e bodies = c.classify r' e bodies := by
  unfold classify
  cases e.category with
  | accessDenied => rfl
  | notFound => rfl
  | invalidRequest => rfl
  | illegalState => simp only [c.declared_congr h]
  | generic => simp only [c.declared_congr h]
  | remoteFailure =>
      cases e.response? with
      | error f => rfl
      | ok held =>
          cases held with
          | none => simp only [unanswered, c.declared_congr h]
          | some response => rfl

/-- Under a fixed policy the question is not asked. -/
theorem classify_of_fixed (h : e.HasFixedPolicy) (r r' : Registry) (bodies : Bodies) :
    c.classify r e bodies = c.classify r' e bodies := by
  unfold classify
  rcases h with hc | hc | hc | hrelayed
  · rw [hc]
  · rw [hc]
  · rw [hc]
  · obtain ⟨hc, response, hresponse⟩ := Fault.response_of_isRelayed hrelayed
    rw [hc, hresponse]

/-! ## Whether there is a verdict -/

theorem ending_conclude (category : Category) (e : Fault) (status status' : Int)
    (m m' : Option Text) (log log' : LogPlan) :
    ending (c.conclude category e status m log [])
      = ending (c.conclude category e status' m' log' []) := by
  have hdecorated := c.decorator.ending_decorate e m m'
  unfold conclude
  cases hm : c.decorator.decorate e m with
  | error f =>
      cases hm' : c.decorator.decorate e m' with
      | error f' =>
          rw [hm, hm'] at hdecorated
          exact hdecorated
      | ok a => rw [hm, hm'] at hdecorated; exact nomatch hdecorated
  | ok a =>
      cases hm' : c.decorator.decorate e m' with
      | error f' => rw [hm, hm'] at hdecorated; exact nomatch hdecorated
      | ok b => rfl

theorem ending_declared (r r' : Registry) (category : Category) (e : Fault) :
    ending (c.declared r category e) = ending (c.declared r' category e) := by
  unfold declared
  cases e.message with
  | error f => rfl
  | ok m =>
      cases r.find e.cls.lineage <;> cases r'.find e.cls.lineage <;>
        exact c.ending_conclude category e _ _ _ _ _ _

/-- **NO DECLARATION STOPS A CLASSIFICATION**, nor does it let one go on. -/
theorem ending_classify (r r' : Registry) (e : Fault) (bodies : Bodies) :
    ending (c.classify r e bodies).outcome = ending (c.classify r' e bodies).outcome := by
  unfold classify
  cases e.category with
  | accessDenied => rfl
  | notFound => rfl
  | invalidRequest => rfl
  | illegalState => exact c.ending_declared r r' .illegalState e
  | generic => exact c.ending_declared r r' .generic e
  | remoteFailure =>
      cases e.response? with
      | error f => rfl
      | ok held =>
          cases held with
          | none =>
              simp only [unanswered_eq_map, ending_map]
              exact c.ending_declared r r' .remoteFailure e
          | some response => rfl

/-! ## The status -/

theorem declaredDraft_status {d : Declaration} (h : r.find e.cls.lineage = some d)
    (category : Category) (m : Option Text) :
    (c.declaredDraft r category e m).status = d.status := by
  rw [c.declaredDraft_of_find h]

/-- Where no policy is fixed, the status is the one that is found. -/
theorem status_of_found {d : Declaration} (hfree : ¬ e.HasFixedPolicy)
    (hd : r.find e.cls.lineage = some d) {bodies : Bodies} {v : Verdict}
    (hv : (c.classify r e bodies).outcome = .ok v) : v.status = d.status := by
  obtain ⟨draft, hdraft, hfinish⟩ := c.drafts_of_classify hv
  obtain ⟨m, -, rfl⟩ := c.finish_eq_ok_iff.mp hfinish
  cases hdraft with
  | denied hc => exact absurd (Or.inl hc) hfree
  | outright hs _ =>
      refine absurd ?_ hfree
      rcases Category.outright_cases hs with ⟨hc, -⟩ | ⟨hc, -⟩
      · exact Or.inr (Or.inl hc)
      · exact Or.inr (Or.inr (Or.inl hc))
  | declared _ _ => exact c.declaredDraft_status hd e.category _
  | unanswered _ _ _ => exact c.declaredDraft_status hd .remoteFailure _
  | relayed hc hr _ _ _ =>
      exact absurd (Or.inr (Or.inr (Or.inr (Fault.isRelayed_of_response hc hr)))) hfree

end Classifier

/-! ## One registration -/

theorem Registry.register_of_isStatus {status : Int} (h : Http.isStatus status = true)
    (r : Registry) (cls : ClassId) (reason : Text) :
    r.register cls status reason = .ok (r.set cls (some ⟨status, reason, h⟩)) := by
  unfold register Declaration.make
  rw [dif_pos h]

/-- **A REGISTRATION ACTS WHERE IT REACHES.**  Under a fixed policy any two registries give
    the same classification, be it a verdict or a failure, with the same reads and the same
    records.  Any other exception is classified as before the registration of a status
    unless the class stands in the lineage of the exception's class and nothing before it
    is declared.  If it does, there is a verdict exactly when there was one before, and its
    status is the registered one. -/
theorem registration_acts_where_it_reaches (c : Classifier) (e : Fault) (bodies : Bodies) :
    (e.HasFixedPolicy → ∀ r r' : Registry, c.classify r e bodies = c.classify r' e bodies) ∧
    (¬ e.HasFixedPolicy → ∀ (r : Registry) (cls : ClassId) (status : Int) (reason : Text),
      Http.isStatus status = true →
      ∃ r', r.register cls status reason = .ok r' ∧
        (¬ r.Reaches cls e.cls.lineage → c.classify r' e bodies = c.classify r e bodies) ∧
        (r.Reaches cls e.cls.lineage →
          ending (c.classify r' e bodies).outcome = ending (c.classify r e bodies).outcome ∧
          ∀ v, (c.classify r' e bodies).outcome = .ok v → v.status = status)) := by
  constructor
  · intro hfixed r r'
    exact c.classify_of_fixed hfixed r r' bodies
  · intro hfree r cls status reason hstatus
    refine ⟨_, r.register_of_isStatus hstatus cls reason, ?_, ?_⟩
    · intro hshadowed
      exact c.classify_congr_find (Registry.find_set_of_not_reaches hshadowed _) bodies
    · intro hreaches
      refine ⟨c.ending_classify _ r e bodies, ?_⟩
      intro v hv
      exact c.status_of_found hfree (Registry.find_set_of_reaches hreaches _) hv

/-- A registration for `Exception` reaches an error of the runtime while nothing nearer is
    declared, and is shadowed as soon as something is; a denied access ignores both. -/
theorem nearer_registration_shadows :
    let c : Classifier := {}
    let bodies : Bodies := fun _ => .closed
    let late := Fault.ofText .runtimeError "late"
    let denied := Fault.ofText .accessDenied "late"
    let nearer : Registry := Registry.empty.set (.known .runtimeError) (some ⟨423, "", rfl⟩)
    (∀ r r', c.classify r denied bodies = c.classify r' denied bodies) ∧
      (∃ r', Registry.empty.register (.known .exception) 409 "busy" = .ok r' ∧
        ∀ v, (c.classify r' late bodies).outcome = .ok v → v.status = 409) ∧
      ∃ r', nearer.register (.known .exception) 409 "busy" = .ok r' ∧
        c.classify r' late bodies = c.classify nearer late bodies := by
  intro c bodies late denied nearer
  have hfree : ¬ late.HasFixedPolicy := by
    rintro (h | h | h | h) <;> exact nomatch h
  refine ⟨?_, ?_, ?_⟩
  · exact (registration_acts_where_it_reaches c denied bodies).1 (Or.inl rfl)
  · obtain ⟨r', hr', -, hreached⟩ := (registration_acts_where_it_reaches c late bodies).2 hfree
      .empty (.known .exception) 409 "busy" rfl
    refine ⟨r', hr', (hreached ?_).2⟩
    refine ⟨[.known .runtimeError], [.known .baseException, .known .object], rfl, ?_⟩
    intro b _
    rfl
  · obtain ⟨r', hr', hshadowed, -⟩ := (registration_acts_where_it_reaches c late bodies).2 hfree
      nearer (.known .exception) 409 "busy" rfl
    refine ⟨r', hr', hshadowed ?_⟩
    intro hreaches
    rcases Registry.reaches_cons_iff.mp hreaches with h | ⟨h, -⟩
    · exact nomatch h
    · exact nomatch h

end FaultResponse
