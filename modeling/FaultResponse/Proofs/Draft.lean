import FaultResponse.Classifier
import FaultResponse.Proofs.Outcome
import Mathlib.Data.List.Find
/-! # Drafts — what each rule decides before a message is decorated

    Classification chooses a rule by the category, and every rule ends in the same
    step: decorate a message and put the verdict together.  A draft is what is known
    just before that step.  This file says once which drafts there are:

    * `Drafts` has one constructor for each rule, with everything the rule needs;
    * `classify_eq_ok_iff`: the verdicts of a classifier are its finished drafts;
    * `classify_guided_iff`: with guidance for a decorator finishing cannot fail, so
      a verdict is told by its draft alone;
    * `classify_guided`: the same for whole classifications, failures, bodies and records
      included, by way of the step that drafts (`drafted`).  Statements about two runs
      start from it. -/

namespace FaultResponse

/-- What a rule decides before the message is decorated. -/
structure Draft where
  category : Category
  subject : Fault
  status : Int
  message : Option Text
  log : LogPlan := {}
  context : Attributes := []

namespace Draft

/-- A fixed status and the exception's own message. -/
def outright (category : Category) (e : Fault) (status : Int) (m : Option Text) : Draft :=
  ⟨category, e, status, m, {}, []⟩

/-- The status of a response, and a new exception that carries the context. -/
def relayed (m : Option Text) (x : RemoteContext) (status : Option Int) : Draft :=
  ⟨.remoteFailure, Classifier.carrier m x, status.getD 502, m, {}, x.toAttributes⟩

end Draft

/-- The status of the categories that have a fixed one and keep the message. -/
def Category.outrightStatus? : Category → Option Int
  | .notFound => some 404
  | .invalidRequest => some 400
  | _ => none

/-- Only two categories have a status of their own. -/
theorem Category.outright_cases {category : Category} {status : Int}
    (h : category.outrightStatus? = some status) :
    (category = .notFound ∧ status = 404) ∨ (category = .invalidRequest ∧ status = 400) := by
  cases category with
  | notFound => exact Or.inl ⟨rfl, (Option.some.inj h).symm⟩
  | invalidRequest => exact Or.inr ⟨rfl, (Option.some.inj h).symm⟩
  | accessDenied | illegalState | remoteFailure | generic => exact nomatch h

/-- What is appended is told by the text that is found. -/
theorem Guidance.append_of_same_text {g g' : Guidance} {e e' : Fault}
    (h : g.textFor? e = g'.textFor? e') : g.append e = g'.append e' := by
  funext m
  unfold append
  rw [h]

/-- Guidance asks an exception for the classes of its entries, and for nothing else. -/
theorem Guidance.append_of_isA (g : Guidance) {e e' : Fault}
    (h : ∀ entry ∈ g.entries, e.cls.isA entry.1 = e'.cls.isA entry.1) :
    g.append e = g.append e' := by
  refine append_of_same_text ?_
  show (g.entries.find? (speaksTo e)).map (·.2) = (g.entries.find? (speaksTo e')).map (·.2)
  rw [List.find?_congr]
  intro entry hentry
  show (e.cls.isA entry.1 && !entry.2.isEmpty) = (e'.cls.isA entry.1 && !entry.2.isEmpty)
  rw [h entry hentry]

theorem Guidance.append_of_some {g : Guidance} {e : Fault} {x : Text}
    (h : g.textFor? e = some x) (m : Text) : g.append e m = m ++ "\n" ++ x := by
  simp only [append, h]

theorem Guidance.append_of_none {g : Guidance} {e : Fault} (h : g.textFor? e = none)
    (m : Text) : g.append e m = m := by
  simp only [append, h]

/-- The three entries that a declared status can have. -/
theorem Declaration.logPlan_cases (d : Declaration) (e : Fault) (m : Option Text) :
    (500 ≤ d.status ∧ d.logPlan e m = ⟨.error, d.phrase, true⟩) ∨
    ((400 ≤ d.status ∧ d.status ≤ 499 ∧ d.status ≠ 404) ∧
      d.logPlan e m
        = ⟨.warning, d.phrase ++ ": " ++ e.cls.name ++ ": " ++ m.getD "", false⟩) ∨
    ((d.status < 500 ∧ (400 ≤ d.status → d.status = 404)) ∧ d.logPlan e m = {}) := by
  unfold logPlan isServerError
  by_cases hs : 500 ≤ d.status
  · rw [if_pos (decide_eq_true hs)]
    exact Or.inl ⟨hs, rfl⟩
  · rw [if_neg (by simpa using hs)]
    by_cases hw : 400 ≤ d.status ∧ d.status < 500 ∧ d.status ≠ 404
    · rw [if_pos hw]
      exact Or.inr (Or.inl ⟨by omega, rfl⟩)
    · rw [if_neg hw]
      exact Or.inr (Or.inr ⟨by omega, rfl⟩)

/-! ## Whether an exception is relayed -/

namespace Fault

variable {e : Fault}

theorem isRelayed_of_response {response : Response} (hc : e.category = .remoteFailure)
    (hr : e.response? = .ok (some response)) : e.isRelayed = true := by
  unfold isRelayed hasResponse
  rw [hr, hc]
  rfl

theorem response_of_isRelayed (h : e.isRelayed = true) :
    e.category = .remoteFailure ∧ ∃ response, e.response? = .ok (some response) := by
  unfold isRelayed hasResponse at h
  rw [Bool.and_eq_true, decide_eq_true_eq] at h
  obtain ⟨hc, hr⟩ := h
  cases held : e.response? with
  | error f => rw [held] at hr; exact nomatch hr
  | ok response =>
      cases response with
      | none => rw [held] at hr; exact nomatch hr
      | some response => exact ⟨hc, response, rfl⟩

theorem isRelayed_of_no_response (hr : e.response? = .ok none) : e.isRelayed = false := by
  unfold isRelayed hasResponse
  rw [hr]
  exact Bool.and_false _

theorem isRelayed_of_category (hc : e.category ≠ .remoteFailure) : e.isRelayed = false := by
  unfold isRelayed
  rw [decide_eq_false hc]
  rfl

end Fault

namespace Classifier

variable (c : Classifier)

/-- The last step of every rule. -/
def finish (d : Draft) : Except Failure Verdict :=
  c.conclude d.category d.subject d.status d.message d.log d.context

/-- The draft of a denied access: nothing of the exception is asked for. -/
def deniedDraft (e : Fault) : Draft :=
  ⟨.accessDenied, e, 403, some c.accessDenied, {}, []⟩

/-- The draft of the fourth rule, for an exception of a known message. -/
def declaredDraft (r : Registry) (category : Category) (e : Fault) (m : Option Text) : Draft :=
  match r.find e.cls.lineage with
  | none => ⟨category, e, 500, unlessBlank m c.fallback, undeclaredLog, []⟩
  | some d => ⟨category, e, d.status, unlessBlank m d.standIn, d.logPlan e m, []⟩

/-- The same for a remote call without a response, which has a log entry of its own. -/
def unansweredDraft (r : Registry) (e : Fault) (m : Option Text) : Draft :=
  { c.declaredDraft r .remoteFailure e m with log := noResponseLog }

/-- The drafts of an exception, rule by rule. -/
inductive Drafts (r : Registry) (e : Fault) (bodies : Bodies) : Draft → Prop
  | denied : e.category = .accessDenied → Drafts r e bodies (c.deniedDraft e)
  | outright {status : Int} {m : Option Text} :
      e.category.outrightStatus? = some status → e.message = .ok m →
      Drafts r e bodies (.outright e.category e status m)
  | declared {m : Option Text} :
      e.category = .illegalState ∨ e.category = .generic → e.message = .ok m →
      Drafts r e bodies (c.declaredDraft r e.category e m)
  | unanswered {m : Option Text} :
      e.category = .remoteFailure → e.response? = .ok none → e.message = .ok m →
      Drafts r e bodies (c.unansweredDraft r e m)
  | relayed {response : Response} {x : RemoteContext} {m : Option Text}
      {status : Option Int} :
      e.category = .remoteFailure → e.response? = .ok (some response) →
      (e.remoteContext bodies).outcome = .ok x → e.message = .ok m →
      response.status? = .ok status →
      Drafts r e bodies (.relayed m x status)

/-! ## The exception of the third rule -/

/-- The exception that carries a context tells the message that it was made with. -/
theorem message_carrier (m : Option Text) (x : RemoteContext) :
    (carrier m x).message = .ok m := rfl

theorem attributes_carrier (m : Option Text) (x : RemoteContext) :
    (carrier m x).attributes? = some x.toAttributes := rfl

/-! ## The draft of the fourth rule -/

theorem unlessBlank_of_blank {m : Option Text} (h : Text.isBlank? m = true)
    (standIn : Text) : unlessBlank m standIn = some standIn :=
  if_pos h

theorem unlessBlank_of_told {m : Option Text} (h : Text.isBlank? m = false)
    (standIn : Text) : unlessBlank m standIn = m :=
  if_neg (Bool.eq_false_iff.mp h)

section

variable {r : Registry} {e : Fault}

theorem declaredDraft_of_none (h : r.find e.cls.lineage = none) (category : Category)
    (m : Option Text) :
    c.declaredDraft r category e m
      = ⟨category, e, 500, unlessBlank m c.fallback, undeclaredLog, []⟩ := by
  unfold declaredDraft
  rw [h]

theorem declaredDraft_of_find {d : Declaration} (h : r.find e.cls.lineage = some d)
    (category : Category) (m : Option Text) :
    c.declaredDraft r category e m
      = ⟨category, e, d.status, unlessBlank m d.standIn, d.logPlan e m, []⟩ := by
  unfold declaredDraft
  rw [h]

/-- The fourth rule keeps the exception itself. -/
theorem declaredDraft_subject (r : Registry) (category : Category) (e : Fault)
    (m : Option Text) : (c.declaredDraft r category e m).subject = e := by
  cases h : r.find e.cls.lineage with
  | none => rw [c.declaredDraft_of_none h]
  | some d => rw [c.declaredDraft_of_find h]

/-- The fourth rule answers for any category, and keeps it. -/
theorem declaredDraft_category (r : Registry) (category : Category) (e : Fault)
    (m : Option Text) : (c.declaredDraft r category e m).category = category := by
  cases h : r.find e.cls.lineage with
  | none => rw [c.declaredDraft_of_none h]
  | some d => rw [c.declaredDraft_of_find h]

/-- A blank message gives way to the stand-in of what is declared, or to the fallback. -/
theorem declaredDraft_message (r : Registry) (category : Category) (e : Fault)
    (m : Option Text) :
    (c.declaredDraft r category e m).message
      = unlessBlank m ((r.find e.cls.lineage).elim c.fallback Declaration.standIn) := by
  cases h : r.find e.cls.lineage with
  | none => rw [c.declaredDraft_of_none h, Option.elim_none]
  | some d => rw [c.declaredDraft_of_find h, Option.elim_some]

end

/-! ## Finishing -/

/-- A finished draft has a message in every case: what the decorator answers, or else the
    stand-in for its status. -/
theorem finish_eq_ok_iff {d : Draft} {v : Verdict} :
    c.finish d = .ok v ↔
      ∃ m, c.decorator.decorate d.subject d.message = .ok m ∧
        v = ⟨d.category, d.status, m.getD (c.standIn d.status), d.log, d.context,
          some d.subject⟩ := by
  unfold finish conclude
  cases c.decorator.decorate d.subject d.message with
  | error f => simp
  | ok m => simp [eq_comm]

/-- Finishing does not look at the log entry. -/
theorem finish_withLog (d : Draft) (p : LogPlan) :
    c.finish { d with log := p } = (c.finish d).map fun v => { v with log := p } := by
  unfold finish conclude
  cases c.decorator.decorate d.subject d.message with
  | error f => rfl
  | ok m => rfl

/-- A remote call without a response ends like a declared exception, up to the log. -/
theorem finish_unanswered (r : Registry) (e : Fault) (m : Option Text) :
    c.finish (c.unansweredDraft r e m)
      = (c.finish (c.declaredDraft r .remoteFailure e m)).map
          fun v => { v with log := noResponseLog } :=
  c.finish_withLog _ _

/-- The second rule finishes a draft as soon as there is a message. -/
theorem outright_eq_ok_iff {category : Category} {e : Fault} {status : Int} {v : Verdict} :
    c.outright category e status = .ok v ↔
      ∃ m, e.message = .ok m ∧ c.finish (.outright category e status m) = .ok v := by
  unfold outright
  cases e.message with
  | error f => simp
  | ok m => simp [finish, Draft.outright]

/-- The fourth rule finishes a draft as soon as there is a message. -/
theorem declared_eq_bind (r : Registry) (category : Category) (e : Fault) :
    c.declared r category e
      = e.message.bind fun m => c.finish (c.declaredDraft r category e m) := by
  unfold declared declaredDraft
  cases e.message with
  | error f => rfl
  | ok m =>
      cases r.find e.cls.lineage with
      | none => rfl
      | some d => rfl

theorem declared_eq_ok_iff {r : Registry} {category : Category} {e : Fault} {v : Verdict} :
    c.declared r category e = .ok v ↔
      ∃ m, e.message = .ok m ∧ c.finish (c.declaredDraft r category e m) = .ok v := by
  rw [declared_eq_bind]
  cases e.message with
  | error f => simp [Except.bind]
  | ok m => simp [Except.bind]

theorem unanswered_eq_map (r : Registry) (e : Fault) :
    c.unanswered r e
      = (c.declared r .remoteFailure e).map fun v => { v with log := noResponseLog } := by
  unfold unanswered
  cases c.declared r .remoteFailure e with
  | error f => rfl
  | ok v => rfl

/-- The fourth rule for a remote call without a response. -/
theorem unanswered_eq_ok_iff {r : Registry} {e : Fault} {v : Verdict} :
    c.unanswered r e = .ok v ↔
      ∃ m, e.message = .ok m ∧ c.finish (c.unansweredDraft r e m) = .ok v := by
  rw [unanswered_eq_map, mapped_eq_ok_iff]
  constructor
  · rintro ⟨w, hw, hv⟩
    obtain ⟨m, hm, hf⟩ := c.declared_eq_ok_iff.mp hw
    refine ⟨m, hm, ?_⟩
    rw [finish_unanswered, mapped_eq_ok_iff]
    exact ⟨w, hf, hv⟩
  · rintro ⟨m, hm, hf⟩
    rw [finish_unanswered, mapped_eq_ok_iff] at hf
    obtain ⟨w, hw, hv⟩ := hf
    exact ⟨w, c.declared_eq_ok_iff.mpr ⟨m, hm, hw⟩, hv⟩

/-- The third rule needs a context, a message and a status that can be looked at. -/
theorem relayed_eq_ok_iff {e : Fault} {response : Response} {context : RemoteContext}
    {v : Verdict} :
    c.relayed e response context = .ok v ↔
      ∃ m status, e.message = .ok m ∧ response.status? = .ok status ∧
        c.finish (.relayed m context status) = .ok v := by
  unfold relayed
  cases e.message with
  | error f => simp
  | ok m =>
      cases response.status? with
      | error f => simp
      | ok status => simp [finish, Draft.relayed]

/-! ## Classification -/

/-- What classification returns is a finished draft. -/
theorem drafts_of_classify {r : Registry} {e : Fault} {bodies : Bodies} {v : Verdict}
    (h : (c.classify r e bodies).outcome = .ok v) :
    ∃ d, c.Drafts r e bodies d ∧ c.finish d = .ok v := by
  unfold classify at h
  cases hc : e.category with
  | accessDenied =>
      rw [hc] at h
      exact ⟨_, .denied hc, h⟩
  | notFound =>
      rw [hc] at h
      obtain ⟨m, hm, hf⟩ := c.outright_eq_ok_iff.mp h
      refine ⟨_, .outright (show e.category.outrightStatus? = some 404 by rw [hc]; rfl) hm, ?_⟩
      rw [hc]
      exact hf
  | invalidRequest =>
      rw [hc] at h
      obtain ⟨m, hm, hf⟩ := c.outright_eq_ok_iff.mp h
      refine ⟨_, .outright (show e.category.outrightStatus? = some 400 by rw [hc]; rfl) hm, ?_⟩
      rw [hc]
      exact hf
  | illegalState =>
      rw [hc] at h
      obtain ⟨m, hm, hf⟩ := c.declared_eq_ok_iff.mp h
      refine ⟨_, .declared (Or.inl hc) hm, ?_⟩
      rw [hc]
      exact hf
  | generic =>
      rw [hc] at h
      obtain ⟨m, hm, hf⟩ := c.declared_eq_ok_iff.mp h
      refine ⟨_, .declared (Or.inr hc) hm, ?_⟩
      rw [hc]
      exact hf
  | remoteFailure =>
      -- the response decides between the third rule and the fourth
      rw [hc] at h
      cases hr : e.response? with
      | error f => rw [hr] at h; exact nomatch h
      | ok held =>
          rw [hr] at h
          cases held with
          | none =>
              obtain ⟨m, hm, hf⟩ := c.unanswered_eq_ok_iff.mp h
              exact ⟨_, .unanswered hc hr hm, hf⟩
          | some response =>
              obtain ⟨context, hx, hv⟩ := Traced.andThen_eq_ok_iff.mp h
              obtain ⟨m, status, hm, hs, hf⟩ := c.relayed_eq_ok_iff.mp hv
              exact ⟨_, .relayed hc hr hx hm hs, hf⟩

/-- A draft that can be finished is what classification returns. -/
theorem classify_of_drafts {r : Registry} {e : Fault} {bodies : Bodies} {d : Draft}
    {v : Verdict} (hd : c.Drafts r e bodies d) (hf : c.finish d = .ok v) :
    (c.classify r e bodies).outcome = .ok v := by
  unfold classify
  cases hd with
  | denied hc =>
      rw [hc]
      exact hf
  | outright hs hm =>
      rcases Category.outright_cases hs with ⟨hc, rfl⟩ | ⟨hc, rfl⟩ <;> rw [hc] at hf ⊢ <;>
        exact c.outright_eq_ok_iff.mpr ⟨_, hm, hf⟩
  | declared hc hm =>
      rcases hc with hc | hc <;> rw [hc] at hf ⊢ <;>
        exact c.declared_eq_ok_iff.mpr ⟨_, hm, hf⟩
  | unanswered hc hr hm =>
      rw [hc, hr]
      exact c.unanswered_eq_ok_iff.mpr ⟨_, hm, hf⟩
  | relayed hc hr hx hm hs =>
      rw [hc, hr]
      exact Traced.andThen_eq_ok_iff.mpr
        ⟨_, hx, c.relayed_eq_ok_iff.mpr ⟨_, _, hm, hs, hf⟩⟩

/-- **THE VERDICTS OF A CLASSIFIER** are its finished drafts. -/
theorem classify_eq_ok_iff {r : Registry} {e : Fault} {bodies : Bodies} {v : Verdict} :
    (c.classify r e bodies).outcome = .ok v ↔
      ∃ d, c.Drafts r e bodies d ∧ c.finish d = .ok v := by
  constructor
  · intro h
    exact c.drafts_of_classify h
  · rintro ⟨d, hd, hf⟩
    exact c.classify_of_drafts hd hf

/-! ## The drafts of one category -/

section

variable {c : Classifier} {r : Registry} {e : Fault} {bodies : Bodies} {d : Draft}

theorem drafts_of_denied (hc : e.category = .accessDenied) (hd : c.Drafts r e bodies d) :
    d = c.deniedDraft e := by
  cases hd with
  | denied => rfl
  | outright hs => rw [hc] at hs; exact nomatch hs
  | declared hc' => rcases hc' with hc' | hc' <;> exact nomatch hc.symm.trans hc'
  | unanswered hc' => exact nomatch hc.symm.trans hc'
  | relayed hc' => exact nomatch hc.symm.trans hc'

theorem drafts_of_outright {status : Int} (hs : e.category.outrightStatus? = some status)
    (hd : c.Drafts r e bodies d) :
    ∃ m, e.message = .ok m ∧ d = .outright e.category e status m := by
  cases hd with
  | denied hc => rw [hc] at hs; exact nomatch hs
  | outright hs' hm =>
      obtain rfl := Option.some.inj (hs.symm.trans hs')
      exact ⟨_, hm, rfl⟩
  | declared hc => rcases hc with hc | hc <;> (rw [hc] at hs; exact nomatch hs)
  | unanswered hc => rw [hc] at hs; exact nomatch hs
  | relayed hc => rw [hc] at hs; exact nomatch hs

theorem drafts_of_declared (hc : e.category = .illegalState ∨ e.category = .generic)
    (hd : c.Drafts r e bodies d) :
    ∃ m, e.message = .ok m ∧ d = c.declaredDraft r e.category e m := by
  cases hd with
  | denied hc' => rcases hc with hc | hc <;> exact nomatch hc.symm.trans hc'
  | outright hs => rcases hc with hc | hc <;> (rw [hc] at hs; exact nomatch hs)
  | declared _ hm => exact ⟨_, hm, rfl⟩
  | unanswered hc' => rcases hc with hc | hc <;> exact nomatch hc.symm.trans hc'
  | relayed hc' => rcases hc with hc | hc <;> exact nomatch hc.symm.trans hc'

/-- The drafts of a failed remote call: one without a response, and one with it. -/
theorem drafts_of_remote (hc : e.category = .remoteFailure) (hd : c.Drafts r e bodies d) :
    (∃ m, e.response? = .ok none ∧ e.message = .ok m ∧
      d = c.unansweredDraft r e m) ∨
    ∃ response x m status, e.response? = .ok (some response) ∧
      (e.remoteContext bodies).outcome = .ok x ∧ e.message = .ok m ∧
      response.status? = .ok status ∧ d = .relayed m x status := by
  cases hd with
  | denied hc' => exact nomatch hc.symm.trans hc'
  | outright hs => rw [hc] at hs; exact nomatch hs
  | declared hc' => rcases hc' with hc' | hc' <;> exact nomatch hc.symm.trans hc'
  | unanswered _ hr hm => exact Or.inl ⟨_, hr, hm, rfl⟩
  | relayed _ hr hx hm hs => exact Or.inr ⟨_, _, _, _, hr, hx, hm, hs, rfl⟩

/-- The only draft of a remote call with a response is the relayed one. -/
theorem drafts_of_response {response : Response} (hc : e.category = .remoteFailure)
    (hr : e.response? = .ok (some response)) (hd : c.Drafts r e bodies d) :
    ∃ x m status, (e.remoteContext bodies).outcome = .ok x ∧ e.message = .ok m ∧
      response.status? = .ok status ∧ d = .relayed m x status := by
  rcases drafts_of_remote hc hd with ⟨m, hr', -⟩ | ⟨response', x, m, status, hr', hx, hm, hs, rfl⟩
  · exact nomatch hr.symm.trans hr'
  · obtain rfl := Option.some.inj (Except.ok.inj (hr.symm.trans hr'))
    exact ⟨x, m, status, hx, hm, hs, rfl⟩

/-- Every draft but the one of a denied access has a message behind it. -/
theorem message_of_drafts (hc : e.category ≠ .accessDenied) (hd : c.Drafts r e bodies d) :
    ∃ m, e.message = .ok m := by
  cases hd with
  | denied hc' => exact absurd hc' hc
  | outright _ hm => exact ⟨_, hm⟩
  | declared _ hm => exact ⟨_, hm⟩
  | unanswered _ _ hm => exact ⟨_, hm⟩
  | relayed _ _ _ hm _ => exact ⟨_, hm⟩

end

/-! ## Guidance -/

/-- The classifier with an operator's guidance for a decorator. -/
def guided (g : Guidance) : Classifier :=
  { c with decorator := .guidance g }

/-- The verdict that guidance makes of a draft. -/
def issue (g : Guidance) (d : Draft) : Verdict where
  category := d.category
  status := d.status
  message := (d.message.map (g.append d.subject)).getD (c.standIn d.status)
  log := d.log
  context := d.context
  subject := some d.subject

theorem message_issue_of_told {g : Guidance} {d : Draft} {t : Text} (h : d.message = some t) :
    (c.issue g d).message = g.append d.subject t := by
  show (d.message.map (g.append d.subject)).getD _ = _
  rw [h]
  rfl

/-- What is absent is not decorated. -/
theorem message_issue_of_untold {g : Guidance} {d : Draft} (h : d.message = none) :
    (c.issue g d).message = c.standIn d.status := by
  show (d.message.map (g.append d.subject)).getD _ = _
  rw [h]
  rfl

/-- Guidance never stops a draft from being finished. -/
theorem finish_guided (g : Guidance) (d : Draft) :
    (c.guided g).finish d = .ok (c.issue g d) := rfl

/-- The drafts do not depend on the decorator. -/
theorem drafts_guided {g : Guidance} {r : Registry} {e : Fault} {bodies : Bodies} {d : Draft} :
    (c.guided g).Drafts r e bodies d ↔ c.Drafts r e bodies d := by
  constructor
  · intro h
    cases h with
    | denied hc => exact .denied hc
    | outright hs hm => exact .outright hs hm
    | declared hc hm => exact .declared hc hm
    | unanswered hc hr hm => exact .unanswered hc hr hm
    | relayed hc hr hx hm hs => exact .relayed hc hr hx hm hs
  · intro h
    cases h with
    | denied hc => exact .denied hc
    | outright hs hm => exact .outright hs hm
    | declared hc hm => exact .declared hc hm
    | unanswered hc hr hm => exact .unanswered hc hr hm
    | relayed hc hr hx hm hs => exact .relayed hc hr hx hm hs

/-- **WITH GUIDANCE** a verdict is told by its draft alone. -/
theorem classify_guided_iff {g : Guidance} {r : Registry} {e : Fault} {bodies : Bodies}
    {v : Verdict} :
    ((c.guided g).classify r e bodies).outcome = .ok v ↔
      ∃ d, c.Drafts r e bodies d ∧ v = c.issue g d := by
  rw [classify_eq_ok_iff]
  constructor
  · rintro ⟨d, hd, hf⟩
    rw [finish_guided] at hf
    exact ⟨d, c.drafts_guided.mp hd, (Except.ok.inj hf).symm⟩
  · rintro ⟨d, hd, rfl⟩
    exact ⟨d, c.drafts_guided.mpr hd, c.finish_guided g d⟩

/-! ## Drafting as a step -/

/-- The third rule up to its draft. -/
def relayedDraft (e : Fault) (response : Response) (x : RemoteContext) : Except Failure Draft :=
  match e.message, response.status? with
  | .error f, _ | .ok _, .error f => .error f
  | .ok m, .ok status => .ok (.relayed m x status)

/-- All of a classification that comes before the decorator. -/
def drafted (r : Registry) (e : Fault) (bodies : Bodies) : Traced Draft :=
  match e.category with
  | .accessDenied => ⟨.ok (c.deniedDraft e), bodies, []⟩
  | .notFound => ⟨e.message.map (.outright .notFound e 404), bodies, []⟩
  | .invalidRequest => ⟨e.message.map (.outright .invalidRequest e 400), bodies, []⟩
  | .remoteFailure =>
    match e.response? with
    | .error f => ⟨.error f, bodies, []⟩
    | .ok none => ⟨e.message.map (c.unansweredDraft r e), bodies, []⟩
    | .ok (some response) => (e.remoteContext bodies).andThen (relayedDraft e response)
  | .illegalState => ⟨e.message.map (c.declaredDraft r .illegalState e), bodies, []⟩
  | .generic => ⟨e.message.map (c.declaredDraft r .generic e), bodies, []⟩

section

variable (g : Guidance)

theorem outright_guided (category : Category) (e : Fault) (status : Int) :
    (c.guided g).outright category e status
      = (e.message.map (Draft.outright category e status)).map (c.issue g) := by
  unfold outright
  cases e.message with
  | error f => rfl
  | ok m => rfl

theorem declared_guided (r : Registry) (category : Category) (e : Fault) :
    (c.guided g).declared r category e
      = (e.message.map (c.declaredDraft r category e)).map (c.issue g) := by
  rw [declared_eq_bind]
  cases e.message with
  | error f => rfl
  | ok m => rfl

theorem unanswered_guided (r : Registry) (e : Fault) :
    (c.guided g).unanswered r e
      = (e.message.map (c.unansweredDraft r e)).map (c.issue g) := by
  rw [unanswered_eq_map, declared_guided]
  cases e.message with
  | error f => rfl
  | ok m => rfl

theorem relayed_guided (e : Fault) (response : Response) (x : RemoteContext) :
    (c.guided g).relayed e response x = (relayedDraft e response x).map (c.issue g) := by
  unfold relayed relayedDraft
  cases e.message with
  | error f => rfl
  | ok m =>
      cases response.status? with
      | error f => rfl
      | ok status => rfl

/-- **WITH GUIDANCE** a classification is a drafting, and what guidance makes of its draft. -/
theorem classify_guided (r : Registry) (e : Fault) (bodies : Bodies) :
    (c.guided g).classify r e bodies = (c.drafted r e bodies).map (c.issue g) := by
  unfold classify drafted
  cases e.category with
  | accessDenied => rfl
  | notFound => simp only [outright_guided, Traced.map_mk]
  | invalidRequest => simp only [outright_guided, Traced.map_mk]
  | illegalState => simp only [declared_guided, Traced.map_mk]
  | generic => simp only [declared_guided, Traced.map_mk]
  | remoteFailure =>
      cases e.response? with
      | error f => rfl
      | ok held =>
          cases held with
          | none => simp only [unanswered_guided, Traced.map_mk]
          | some response =>
              have hrelayed : (c.guided g).relayed e response
                  = fun x => (relayedDraft e response x).map (c.issue g) :=
                funext fun x => c.relayed_guided g e response x
              simp only [hrelayed, Traced.map_andThen]

end

end Classifier

end FaultResponse
