import FaultResponse.Proofs.Escape
import FaultResponse.Proofs.VerdictShape
import FaultResponse.Proofs.Wording
/-! # The log policy — which verdicts are logged, how loudly and in which words

    A log entry is decided in four places: the rules with a fixed status and the one that
    relays a response have none, a declared status has one that goes by the status, an
    undeclared exception has the one for 500, and a remote call without a response has one
    of its own.  The route:

    * `LogPlan.ByStatus`: what it means that an entry goes by a status, which holds of the
      entries for declared statuses and of the one for 500 alike;
    * `policy_of_drafts`: the policy, rule by rule;
    * `logs_of_coherent`: what is emitted is the planned entry, word for word;
    * `lookup_returns_iff`: an exception whose text cannot be made is looked up all the same. -/

namespace FaultResponse

/-! ## Entries that go by a status -/

/-- A log entry that goes by a status: a server error with its traceback, any other error
    but 404 without one, and nothing else. -/
structure LogPlan.ByStatus (p : LogPlan) (status : Int) : Prop where
  error : p.level = .error ↔ 500 ≤ status
  warning : p.level = .warning ↔ 400 ≤ status ∧ status ≤ 499 ∧ status ≠ 404
  none : p.level = .none ↔ status < 500 ∧ (400 ≤ status → status = 404)
  traceback : p.traceback = true ↔ p.level = .error

theorem undeclaredLog_byStatus : undeclaredLog.ByStatus 500 where
  error := by decide
  warning := by decide
  none := by decide
  traceback := by decide

namespace Declaration

variable {d : Declaration}

theorem logPlan_byStatus (d : Declaration) (e : Fault) (m : Option Text) :
    (d.logPlan e m).ByStatus d.status := by
  rcases d.logPlan_cases e m with ⟨hs, hp⟩ | ⟨hw, hp⟩ | ⟨hn, hp⟩
  · rw [hp]
    exact ⟨iff_of_true rfl hs, iff_of_false nofun (by omega), iff_of_false nofun (by omega),
      iff_of_true rfl rfl⟩
  · rw [hp]
    exact ⟨iff_of_false nofun (by omega), iff_of_true rfl hw, iff_of_false nofun (by omega),
      iff_of_false nofun nofun⟩
  · rw [hp]
    exact ⟨iff_of_false nofun (by omega), iff_of_false nofun (by omega), iff_of_true rfl hn,
      iff_of_false nofun nofun⟩

/-- A warning for a declared status names the class of the exception. -/
theorem text_of_warning {e : Fault} {m : Option Text}
    (h : (d.logPlan e m).level = .warning) :
    (d.logPlan e m).text = Http.phrase d.status ++ ": " ++ e.cls.name ++ ": " ++ m.getD "" := by
  rcases d.logPlan_cases e m with ⟨-, hp⟩ | ⟨-, hp⟩ | ⟨-, hp⟩
  · rw [hp] at h
    exact nomatch h
  · rw [hp]
    rfl
  · rw [hp] at h
    exact nomatch h

end Declaration

/-! ## The policy -/

/-- A verdict on an exception that keeps the log policy. -/
structure Verdict.KeepsPolicy (v : Verdict) (r : Registry) (e : Fault) : Prop where
  /-- What has a status of its own or a response to relay is not logged. -/
  quiet : e.category = .accessDenied ∨ e.PassesOn → v.log.level = .none
  /-- A call without a response is warned of, whatever its status. -/
  network : e.category = .remoteFailure → e.isRelayed = false →
    v.log.level = .warning ∧ v.log.traceback = true
  /-- Every other entry goes by the status. -/
  byStatus : e.category = .illegalState ∨ e.category = .generic → v.log.ByStatus v.status
  /-- There is no other warning than the one for a call without a response, and those for a
      declared status, which name the class of the exception. -/
  warning : v.log.level = .warning →
    (e.category = .remoteFailure ∧ e.response? = .ok none ∧ v.log = noResponseLog) ∨
    ∃ d m, r.find e.cls.lineage = some d ∧ e.message = .ok m ∧
      v.log.text = Http.phrase d.status ++ ": " ++ e.cls.name ++ ": " ++ m.getD ""

namespace Classifier

variable {c : Classifier} {g : Guidance} {r : Registry} {e : Fault} {bodies : Bodies} {d : Draft}

/-- The fourth rule plans by the status that it answers with. -/
theorem declaredDraft_byStatus (c : Classifier) (r : Registry) (category : Category) (e : Fault)
    (m : Option Text) :
    (c.declaredDraft r category e m).log.ByStatus (c.declaredDraft r category e m).status := by
  cases hd : r.find e.cls.lineage with
  | none =>
      rw [c.declaredDraft_of_none hd]
      exact undeclaredLog_byStatus
  | some d =>
      rw [c.declaredDraft_of_find hd]
      exact d.logPlan_byStatus e m

theorem text_of_declaredDraft {category : Category} {m : Option Text}
    (h : (c.declaredDraft r category e m).log.level = .warning) :
    ∃ d, r.find e.cls.lineage = some d ∧ (c.declaredDraft r category e m).log.text
      = Http.phrase d.status ++ ": " ++ e.cls.name ++ ": " ++ m.getD "" := by
  cases hd : r.find e.cls.lineage with
  | none =>
      rw [c.declaredDraft_of_none hd] at h
      exact nomatch h
  | some d =>
      rw [c.declaredDraft_of_find hd] at h ⊢
      exact ⟨d, rfl, Declaration.text_of_warning h⟩

/-- A verdict without a log entry keeps the policy, if nothing else is planned for its
    exception. -/
theorem keepsPolicy_of_silent {v : Verdict} (hv : v.log = {})
    (he : e.category = .accessDenied ∨ e.PassesOn) : v.KeepsPolicy r e where
  quiet := fun _ => by rw [hv]
  network := by
    intro hc hr
    rcases he with hc' | hp
    · exact nomatch hc.symm.trans hc'
    · cases hp with
      | notFound hc' | invalidRequest hc' => exact nomatch hc.symm.trans hc'
      | relayed hr' => exact nomatch hr.symm.trans hr'
  byStatus := by
    intro hc
    have hl : e.LooksUp := hc.elim .illegalState .generic
    rcases he with hc' | hp
    · rcases hc with hc | hc <;> exact nomatch hc.symm.trans hc'
    · exact absurd hl hp.not_looksUp
  warning := fun h => by rw [hv] at h; exact nomatch h

/-- **THE POLICY, RULE BY RULE.** -/
theorem policy_of_drafts (hd : c.Drafts r e bodies d) : (c.issue g d).KeepsPolicy r e := by
  cases hd with
  | denied hc => exact keepsPolicy_of_silent rfl (Or.inl hc)
  | outright hs hm =>
      refine keepsPolicy_of_silent rfl (Or.inr ?_)
      exact passesOn_of_outright hs
  | relayed hc hr =>
      exact keepsPolicy_of_silent rfl (Or.inr (.relayed (Fault.isRelayed_of_response hc hr)))
  | @declared m hc hm =>
      have hl : e.LooksUp := hc.elim .illegalState .generic
      refine ⟨?_, ?_, fun _ => c.declaredDraft_byStatus r e.category e m, ?_⟩
      · rintro (hc' | hp)
        · rcases hc with hc | hc <;> exact nomatch hc.symm.trans hc'
        · exact absurd hl hp.not_looksUp
      · intro hc'
        rcases hc with hc | hc <;> exact nomatch hc.symm.trans hc'
      · intro hw
        obtain ⟨d, hd, htext⟩ := text_of_declaredDraft hw
        exact Or.inr ⟨d, m, hd, hm, htext⟩
  | unanswered hc hr hm =>
      refine ⟨?_, fun _ _ => ⟨rfl, rfl⟩, ?_, fun _ => Or.inl ⟨hc, hr, rfl⟩⟩
      · rintro (hc' | hp)
        · exact nomatch hc.symm.trans hc'
        · exact absurd (.unanswered hc hr) hp.not_looksUp
      · rintro (hc' | hc') <;> exact nomatch hc.symm.trans hc'

end Classifier

/-! ## What is emitted -/

/-- The records that a verdict on a kept exception leaves when it is emitted: none without
    a level, and else one at that level, with the planned text and the status, and with the
    class of the exception exactly if a traceback is planned. -/
inductive Verdict.Logs (v : Verdict) (kept : Fault) : List LogRecord → Prop
  | nothing : v.log.level = .none → Logs v kept []
  | record {record : LogRecord} : v.log.level.severity? = some record.severity →
      record.logger = .emitter →
      record.text = v.log.text ++ " [status=" ++ toString v.status ++ "]" →
      record.raised = (if v.log.traceback then some kept.cls.name else none) →
      Logs v kept [record]

/-- **WHAT IS PLANNED IS EMITTED**, whatever becomes of the answer itself. -/
theorem Verdict.logs_of_coherent {v : Verdict} {kept : Fault} (h : v.log.Coherent)
    (hs : v.subject = some kept) (sink : Sink) : v.Logs kept (v.emit sink).2 := by
  show v.Logs kept v.records
  have hone : ∀ severity, v.log.level.severity? = some severity → v.Logs kept v.records := by
    intro severity hl
    have hlevel : v.log.level ≠ .none := by
      intro hn
      rw [hn] at hl
      exact nomatch hl
    have htext : v.logText = v.log.text ++ " [status=" ++ toString v.status ++ "]" := by
      have hne : v.log.text.isEmpty = false := by
        rw [Bool.eq_false_iff, ne_eq, Text.isEmpty_iff]
        exact h.text.mpr hlevel
      show (if v.log.text.isEmpty then (subjectName v.subject : Text) else v.log.text)
        ++ _ ++ _ ++ _ = _
      rw [hne]
      rfl
    have hrecords : v.records = [{ logger := .emitter, severity := severity, text := v.logText
                                   raised := if v.log.traceback then some kept.cls.name
                                     else none }] := by
      simp only [records, hl, hs]
      rfl
    rw [hrecords]
    exact .record hl rfl htext rfl
  cases hl : v.log.level with
  | none =>
      have hrecords : v.records = [] := by
        simp only [records, hl, LogLevel.severity?]
      rw [hrecords]
      exact .nothing hl
  | warning => exact hone .warning (by rw [hl]; rfl)
  | error => exact hone .error (by rw [hl]; rfl)

/-! ## Exceptions without a text -/

/-- The text of the exception cannot be made, for an ordinary reason. -/
def Fault.Unprintable (e : Fault) : Prop :=
  ∃ f, e.text = .error f ∧ f.isOrdinary = true

/-- Such an exception tells a message all the same, unless it was to be one of its own and
    was never set. -/
theorem Fault.Unprintable.told_iff {e : Fault} (h : e.Unprintable) :
    (∃ m, e.message = .ok m) ↔ ¬ (e.is .domainError = true ∧ e.details.message = none) := by
  obtain ⟨f, hf, hordinary⟩ := h
  constructor
  · rintro ⟨m, hm⟩ ⟨hd, hn⟩
    exact nomatch hm.symm.trans (message_eq_error_iff.mpr (.unset hd hn))
  · intro hset
    cases hm : e.message with
    | ok m => exact ⟨m, rfl⟩
    | error f' =>
        cases message_eq_error_iff.mp hm with
        | unset hd hn => exact absurd ⟨hd, hn⟩ hset
        | broken _ hf' hnot =>
            obtain rfl := Except.error.inj (hf.symm.trans hf')
            exact nomatch hordinary.symm.trans hnot

theorem Classifier.lookup_returns_iff {c : Classifier} {g : Guidance} {r : Registry} {e : Fault}
    {bodies : Bodies} (h : e.LooksUp) :
    (∃ v, ((c.guided g).classify r e bodies).outcome = .ok v) ↔ ∃ m, e.message = .ok m := by
  constructor
  · rintro ⟨v, hv⟩
    obtain ⟨d, hd, -⟩ := c.classify_guided_iff.mp hv
    refine message_of_drafts ?_ hd
    cases h with
    | illegalState hc | generic hc | unanswered hc =>
        rw [hc]
        decide
  · rintro ⟨m, hm⟩
    obtain ⟨d, hd⟩ := exists_drafts (Or.inl h) hm c r bodies
    exact ⟨_, c.classify_guided_iff.mpr ⟨d, hd, rfl⟩⟩

/-! ## The whole -/

/-- **THE LOG POLICY**, for every exception, registry and guidance.  Every verdict keeps the
    policy and leaves the records that it plans, on any sink.  And an exception whose text
    cannot be made for an ordinary reason is looked up and logged as any other: that fails
    only where the message of a library error was never set. -/
theorem log_policy (c : Classifier) (g : Guidance) (r : Registry) (e : Fault) (bodies : Bodies) :
    (∀ v, ((c.guided g).classify r e bodies).outcome = .ok v →
      v.KeepsPolicy r e ∧
        ∃ kept, v.subject = some kept ∧ ∀ sink, v.Logs kept (v.emit sink).2) ∧
    (e.LooksUp → e.Unprintable →
      ((∃ v, ((c.guided g).classify r e bodies).outcome = .ok v) ↔
        ¬ (e.is .domainError = true ∧ e.details.message = none))) := by
  constructor
  · intro v hv
    obtain ⟨d, hd, rfl⟩ := c.classify_guided_iff.mp hv
    have hlog : (c.issue g d).log.Coherent := Classifier.log_of_drafts hd
    refine ⟨Classifier.policy_of_drafts hd, d.subject, rfl, ?_⟩
    intro sink
    exact Verdict.logs_of_coherent hlog rfl sink
  · intro hl hu
    exact (Classifier.lookup_returns_iff hl).trans hu.told_iff

/-- An exception class whose text cannot be made. -/
def unprintableClass : Class :=
  ⟨{ id := .defined 0, name := "UnprintableConflict", home := "app.errors"
     qualname := "UnprintableConflict"
     text := some (.failing (.raised Known.typeError.kind "boom")), attributes := none },
    [Known.exception, .baseException, .object].map Known.head⟩

/-- With 409 declared for all exceptions it is warned of by the name of its class. -/
theorem unprintable_conflict_is_named :
    let c : Classifier := {}
    let r := Registry.empty.set (.known .exception) (some ⟨409, "", rfl⟩)
    let e : Fault := ⟨unprintableClass, {}⟩
    e.LooksUp ∧ e.Unprintable ∧
      ∃ v kept, ((c.guided {}).classify r e fun _ => .closed).outcome = .ok v ∧
        v.KeepsPolicy r e ∧ v.log.level = .warning ∧
        v.log.text = "Conflict: UnprintableConflict: " ∧
        ∀ sink, v.Logs kept (v.emit sink).2 := by
  intro c r e
  have hl : e.LooksUp := .generic rfl
  have hu : e.Unprintable := ⟨_, rfl, by decide⟩
  obtain ⟨hpolicy, hreturns⟩ := log_policy c {} r e fun _ => .closed
  obtain ⟨v, hv⟩ := (hreturns hl hu).mpr (by decide)
  obtain ⟨hkeeps, kept, -, hlogs⟩ := hpolicy v hv
  have htold : ((c.guided {}).classify r e fun _ => .closed).outcome = .ok _ := rfl
  obtain rfl := Except.ok.inj (htold.symm.trans hv)
  exact ⟨hl, hu, _, kept, hv, hkeeps, rfl, by decide, hlogs⟩

end FaultResponse
