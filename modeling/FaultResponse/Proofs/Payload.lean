import FaultResponse.Proofs.Noninterference
import FaultResponse.Proofs.QuietLog
import FaultResponse.Service.Dispatcher
/-! # Payloads — what a failed remote call keeps to itself

    Two failures are twins when they differ in the payload at most: in the address, in
    the headers of the response, in its body and in how that can be read.  The payload
    reaches the context of the verdict, and through it the exception that is kept and
    the DEBUG report on the request.  The route:

    * `drafts_twins`: whatever rule applies, the drafts of twins are alike, and the
      exceptions behind them tell the same message;
    * `logReport_congr`: a report fails by the message of what is kept, and otherwise
      adds one DEBUG record;
    * `payload_stays_hidden` follows twins through handling and through a request. -/

namespace FaultResponse

/-! ## Twins -/

/-- The status field of the response that an exception holds, if it holds one. -/
def Fault.shownStatus (e : Fault) : Except Failure (Option (Field Value)) :=
  e.response?.map (Option.map Response.statusField)

/-- Two failures that differ in nothing but their payload. -/
structure Fault.Twins (e e' : Fault) : Prop where
  cls : e.cls = e'.cls
  message : e.message = e'.message
  status : e.shownStatus = e'.shownStatus

namespace Fault.Twins

variable {e e' : Fault}

theorem refl (e : Fault) : e.Twins e := ⟨rfl, rfl, rfl⟩

theorem symm (h : e.Twins e') : e'.Twins e :=
  ⟨h.cls.symm, h.message.symm, h.status.symm⟩

theorem category (h : e.Twins e') : e.category = e'.category := by
  unfold Fault.category
  rw [h.cls]

/-- If one of two twins got no response, neither did the other. -/
theorem no_response (h : e.Twins e') (hr : e.response? = .ok none) (response : Response) :
    e'.response? ≠ .ok (some response) := by
  intro hr'
  have hs := h.status
  unfold Fault.shownStatus at hs
  rw [hr, hr'] at hs
  exact nomatch hs

/-- If both got one, the responses show the same status. -/
theorem status_of_response (h : e.Twins e') {response response' : Response}
    (hr : e.response? = .ok (some response)) (hr' : e'.response? = .ok (some response')) :
    response.status? = response'.status? := by
  have hs := h.status
  unfold Fault.shownStatus at hs
  rw [hr, hr'] at hs
  have hfield : response.statusField = response'.statusField :=
    Option.some.inj (Except.ok.inj hs)
  unfold Response.status?
  rw [hfield]

end Fault.Twins

/-! ## The drafts of twins -/

theorem Classifier.declaredDraft_alike (c : Classifier) (r : Registry) (category : Category)
    {e e' : Fault} (m : Option Text) (h : e.cls = e'.cls) :
    (c.declaredDraft r category e m).Alike (c.declaredDraft r category e' m) := by
  cases hd : r.find e.cls.lineage with
  | none =>
      rw [c.declaredDraft_of_none hd, c.declaredDraft_of_none (h ▸ hd)]
      exact ⟨rfl, rfl, rfl, rfl, h⟩
  | some d =>
      rw [c.declaredDraft_of_find hd, c.declaredDraft_of_find (h ▸ hd)]
      refine ⟨rfl, rfl, rfl, ?_, h⟩
      show d.logPlan e m = d.logPlan e' m
      unfold Declaration.logPlan
      rw [h]

/-- **TWINS HAVE ALIKE DRAFTS**, and the exceptions that these keep tell the same. -/
theorem Classifier.drafts_twins {c : Classifier} {r : Registry} {e e' : Fault}
    {bodies bodies' : Bodies} {d d' : Draft} (h : e.Twins e') (hd : c.Drafts r e bodies d)
    (hd' : c.Drafts r e' bodies' d') :
    d.Alike d' ∧ d.subject.message = d'.subject.message := by
  cases hd with
  | denied hc =>
      obtain rfl := drafts_of_denied (h.category.symm.trans hc) hd'
      exact ⟨⟨rfl, rfl, rfl, rfl, h.cls⟩, h.message⟩
  | @outright status m hs hm =>
      rw [h.category] at hs
      obtain ⟨m', hm', rfl⟩ := drafts_of_outright hs hd'
      obtain rfl : m = m' := Except.ok.inj (hm.symm.trans (h.message.trans hm'))
      exact ⟨⟨h.category, rfl, rfl, rfl, h.cls⟩, h.message⟩
  | @declared m hc hm =>
      rw [h.category] at hc
      obtain ⟨m', hm', rfl⟩ := drafts_of_declared hc hd'
      obtain rfl : m = m' := Except.ok.inj (hm.symm.trans (h.message.trans hm'))
      rw [h.category, c.declaredDraft_subject, c.declaredDraft_subject]
      exact ⟨c.declaredDraft_alike r _ m h.cls, h.message⟩
  | @unanswered m hc hr hm =>
      rcases drafts_of_remote (h.category.symm.trans hc) hd' with
        ⟨m', -, hm', rfl⟩ | ⟨response, -, -, -, hr', -⟩
      · obtain rfl : m = m' := Except.ok.inj (hm.symm.trans (h.message.trans hm'))
        have halike := c.declaredDraft_alike r .remoteFailure m h.cls
        refine ⟨⟨halike.category, halike.status, halike.message, rfl, halike.cls⟩, ?_⟩
        show (c.declaredDraft r .remoteFailure e m).subject.message
          = (c.declaredDraft r .remoteFailure e' m).subject.message
        rw [c.declaredDraft_subject, c.declaredDraft_subject]
        exact h.message
      · exact absurd hr' (h.no_response hr response)
  | @relayed response x m status hc hr hx hm hs =>
      rcases drafts_of_remote (h.category.symm.trans hc) hd' with
        ⟨m', hr', -⟩ | ⟨response', x', m', status', hr', -, hm', hs', rfl⟩
      · exact absurd hr (h.symm.no_response hr' response)
      · obtain rfl : m = m' := Except.ok.inj (hm.symm.trans (h.message.trans hm'))
        obtain rfl : status = status' :=
          Except.ok.inj (hs.symm.trans ((h.status_of_response hr hr').trans hs'))
        -- the contexts differ, but only the attributes of the carriers show them
        exact ⟨⟨rfl, rfl, rfl, rfl, rfl⟩,
          (message_carrier m x).trans (message_carrier m x').symm⟩

/-! ## Handling -/

/-- An exception that was judged is handled as its verdict is delivered, so alike
    verdicts are handled alike. -/
theorem Judge.handle_alike {j : Judge} {rs : Registries} {e e' : Fault} {v v' : Verdict}
    {slot slot' : Slot} {sink : Sink} {bodies bodies' : Bodies}
    (hv : (j.classify rs e bodies).outcome = .ok v)
    (hv' : (j.classify rs e' bodies').outcome = .ok v') (h : v.Alike v')
    (hlog : SeenAlike (j.classify rs e bodies).log (j.classify rs e' bodies').log)
    (hs : slot.Alike slot') :
    let a := j.handle rs e slot sink bodies
    let a' := j.handle rs e' slot' sink bodies'
    a.sink = a'.sink ∧ ending a.outcome = ending a'.outcome ∧ SeenAlike a.log a'.log := by
  intro a a'
  have ha : a = _ := handle_of_classified hv
  have ha' : a' = _ := handle_of_classified hv'
  obtain ⟨hsink, ⟨o, ho, ho'⟩, written, hw, hw'⟩ :=
    h.deliver hs e e' sink (j.classify rs e bodies).bodies (j.classify rs e' bodies').bodies
      (j.classify rs e bodies).log (j.classify rs e' bodies').log
  rw [ha, ha', hw, hw', ho, ho']
  refine ⟨hsink, ?_, hlog.append (.refl written)⟩
  cases o with
  | error f => rfl
  | ok u => rfl

/-! ## Requests -/

/-- Two scopes that are both open, or both finalized with exceptions that tell the
    same. -/
structure Scope.Alike (s s' : Scope) : Prop where
  finalized : s.finalized = s'.finalized
  told : s.finalized = true → s.exception.map Fault.message = s'.exception.map Fault.message

theorem Scope.Alike.keeping {s s' : Scope} (h : s.Alike s') {e e' : Fault}
    (hm : e.message = e'.message) :
    (s.keeping e).exception.map Fault.message = (s'.keeping e').exception.map Fault.message := by
  unfold Scope.keeping
  rw [← h.finalized]
  cases hf : s.finalized with
  | true => exact h.told hf
  | false => exact congrArg some hm

/-- What a new channel renders of a verdict that it took. -/
def Verdict.rendered (v : Verdict) : Except Failure Http.Response :=
  Channel.render { sent := some (v.status, v.message) }

/-- What is rendered is composed of a message that is a string. -/
theorem Verdict.rendered_eq_ok_iff {v : Verdict} {r : Http.Response} :
    v.rendered = .ok r ↔ ∃ body : String, v.message = body ∧
      r = Http.compose v.status [] (some Http.plainType) body := by
  constructor
  · intro h
    obtain ⟨status, body, hsent, rfl⟩ := Channel.render_eq_ok_iff.mp h
    obtain ⟨rfl, hbody⟩ := Prod.mk.inj (Option.some.inj hsent)
    exact ⟨body, hbody, rfl⟩
  · rintro ⟨body, hbody, rfl⟩
    exact Channel.render_of_string (congrArg (fun m => some (v.status, m)) hbody)

theorem Verdict.Alike.rendered {v v' : Verdict} (h : v.Alike v') : v.rendered = v'.rendered := by
  unfold Verdict.rendered
  rw [h.status, h.message]

namespace Dispatcher

/-- The answer to an exception that was judged: the channel of a request takes every
    verdict, so the report can fail, and after it the rendering. -/
theorem answer_of_classified {d : Dispatcher} {e : Fault} {path : String} {scope : Scope}
    {i : Intake} {v : Verdict}
    (h : (d.judge.classify d.registries e i.bodies).outcome = .ok v) :
    let judged := d.judge.classify d.registries e i.bodies
    let kept := scope.keeping (v.subject.getD e)
    let log := judged.log ++ scope.keepingLog (v.subject.getD e) ++ v.records
    d.answer e path scope i =
      match d.logReport kept v.status path log with
      | .error f =>
        ⟨.error (f.leaving requestPlace), some kept.finalize,
          { i with bodies := judged.bodies }, log⟩
      | .ok all =>
        ⟨v.rendered, some kept.finalize, { i with bodies := judged.bodies }, all⟩ := by
  intro judged kept log
  have hh : d.judge.handle d.registries e (.sound scope) (.sound {}) i.bodies = _ :=
    (Judge.handle_of_classified h).trans (Verdict.deliver_of_kept (Slot.keep_sound scope _))
  unfold answer
  rw [hh]
  rfl

/-- Reports on scopes whose exceptions tell the same fail alike, and else they add one
    DEBUG record at most. -/
theorem logReport_alike {d d' : Dispatcher} (hl : d.level = d'.level) {s s' : Scope}
    (hk : s.exception.map Fault.message = s'.exception.map Fault.message) (status : Int)
    (path path' : String) {log log' : List LogRecord} (hlog : SeenAlike log log') :
    (∃ f, d.logReport s status path log = .error f ∧
        d'.logReport s' status path' log' = .error f) ∨
      ∃ all all', d.logReport s status path log = .ok all ∧
        d'.logReport s' status path' log' = .ok all' ∧ SeenAlike all all' := by
  have hr : d.reports = d'.reports := by
    unfold reports
    rw [hl]
  have hadd : ∀ a a', SeenAlike (log ++ [reportRecord a]) (log' ++ [reportRecord a']) := by
    intro a a'
    exact hlog.append (DebugOnly.seenAlike (.singleton rfl) (.singleton rfl))
  unfold logReport
  rw [hr]
  -- time, path and attributes may differ, but they stand in the added record only
  cases d'.reports with
  | false => exact Or.inr ⟨log, log', rfl, rfl, hlog⟩
  | true =>
      rw [if_pos rfl, if_pos rfl]
      unfold Scope.report
      cases hs : s.exception with
      | none =>
          rw [hs] at hk
          cases hs' : s'.exception with
          | none => exact Or.inr ⟨_, _, rfl, rfl, hadd _ _⟩
          | some k' => rw [hs'] at hk; exact nomatch hk
      | some k =>
          rw [hs] at hk
          cases hs' : s'.exception with
          | none => rw [hs'] at hk; exact nomatch hk
          | some k' =>
              rw [hs'] at hk
              have hm : k.message = k'.message := Option.some.inj hk
              simp only [hm]
              cases k'.message with
              | error f => exact Or.inl ⟨f, rfl, rfl⟩
              | ok m => exact Or.inr ⟨_, _, rfl, rfl, hadd _ _⟩

/-- Alike verdicts on alike scopes are answered alike. -/
theorem answer_alike (d d' : Dispatcher) (hl : d.level = d'.level) {e e' : Fault}
    {s s' : Scope} (hs : s.Alike s') {i i' : Intake} (path path' : String) {v v' : Verdict}
    (hv : (d.judge.classify d.registries e i.bodies).outcome = .ok v)
    (hv' : (d'.judge.classify d'.registries e' i'.bodies).outcome = .ok v') (h : v.Alike v')
    (hm : (v.subject.getD e).message = (v'.subject.getD e').message)
    (hlog : SeenAlike (d.judge.classify d.registries e i.bodies).log
      (d'.judge.classify d'.registries e' i'.bodies).log) :
    let x := d.answer e path s i
    let x' := d'.answer e' path' s' i'
    x.outcome = x'.outcome ∧ SeenAlike x.log x'.log := by
  intro x x'
  have hx : x = _ := answer_of_classified hv
  have hx' : x' = _ := answer_of_classified hv'
  have hkeep : s.keepingLog (v.subject.getD e) = s'.keepingLog (v'.subject.getD e') :=
    Scope.keepingLog_congr hs.finalized (h.cls_getD e e')
  have hwritten : SeenAlike
      ((d.judge.classify d.registries e i.bodies).log ++ s.keepingLog (v.subject.getD e)
        ++ v.records)
      ((d'.judge.classify d'.registries e' i'.bodies).log ++ s'.keepingLog (v'.subject.getD e')
        ++ v'.records) := by
    rw [hkeep, h.records]
    exact (hlog.append (.refl _)).append (.refl _)
  rw [hx, hx']
  rcases logReport_alike hl (hs.keeping hm) v.status path path' hwritten with
    ⟨f, hf, hf'⟩ | ⟨all, all', ha, ha', hall⟩
  · rw [← h.status]
    simp only [hf, hf', true_and]
    exact hwritten
  · rw [← h.status, ← h.rendered]
    simp only [ha, ha', true_and]
    exact hall

end Dispatcher

/-! ## Twins are answered alike -/

namespace Classifier

variable {c : Classifier} {g : Guidance} {r : Registry} {e e' : Fault} {bodies bodies' : Bodies}
  {v v' : Verdict}

theorem classify_alike (h : e.Twins e')
    (hv : ((c.guided g).classify r e bodies).outcome = .ok v)
    (hv' : ((c.guided g).classify r e' bodies').outcome = .ok v') :
    v.Alike v' ∧ (v.subject.getD e).message = (v'.subject.getD e').message := by
  obtain ⟨d, hd, rfl⟩ := c.classify_guided_iff.mp hv
  obtain ⟨d', hd', rfl⟩ := c.classify_guided_iff.mp hv'
  obtain ⟨halike, hm⟩ := drafts_twins h hd hd'
  exact ⟨c.issue_alike g halike, hm⟩

theorem classify_seenAlike (c : Classifier) (r : Registry) (e e' : Fault)
    (bodies bodies' : Bodies) :
    SeenAlike (c.classify r e bodies).log (c.classify r e' bodies').log :=
  (c.classify_log_debug r e bodies).seenAlike (c.classify_log_debug r e' bodies')

/-- The exception for a missing response can always be classified. -/
theorem classify_noAnswer (c : Classifier) (g : Guidance) (r : Registry) (bodies : Bodies) :
    ∃ v, ((c.guided g).classify r Relay.noAnswer bodies).outcome = .ok v := by
  have hc : Relay.noAnswer.category = .generic := by decide
  have hm : Relay.noAnswer.message = .ok (some Failure.noResponse.message) := by rfl
  exact ⟨_, c.classify_guided_iff.mpr ⟨_, .declared (Or.inr hc) hm, rfl⟩⟩

end Classifier

namespace Dispatcher

variable {c : Classifier} {g : Guidance} {name : RegistryName} {rs : Registries}

/-- Twins that are classified in both runs are answered alike. -/
theorem answer_twins (level : Int) {e e' : Fault} (h : e.Twins e') {s s' : Scope} (hs : s.Alike s')
    {i i' : Intake} {v v' : Verdict}
    (hv : ((c.guided g).classify (rs name) e i.bodies).outcome = .ok v)
    (hv' : ((c.guided g).classify (rs name) e' i'.bodies).outcome = .ok v')
    (now now' path path' : String) :
    let x := answer ⟨.classifier (c.guided g) name, rs, level, now⟩ e path s i
    let x' := answer ⟨.classifier (c.guided g) name, rs, level, now'⟩ e' path' s' i'
    x.outcome = x'.outcome ∧ SeenAlike x.log x'.log := by
  obtain ⟨halike, hm⟩ := Classifier.classify_alike h hv hv'
  exact answer_alike ⟨_, _, level, now⟩ ⟨_, _, level, now'⟩ rfl hs path path' hv hv' halike hm
    ((c.guided g).classify_seenAlike (rs name) e e' i.bodies i'.bodies)

theorem recover_twins (level : Int) {e e' : Fault} (h : e.Twins e') {s s' : Scope} (hs : s.Alike s')
    {i i' : Intake} {v v' : Verdict}
    (hv : ((c.guided g).classify (rs name) e i.bodies).outcome = .ok v)
    (hv' : ((c.guided g).classify (rs name) e' i'.bodies).outcome = .ok v')
    (now now' path path' : String) :
    let x := recover ⟨.classifier (c.guided g) name, rs, level, now⟩ e path s i
    let x' := recover ⟨.classifier (c.guided g) name, rs, level, now'⟩ e' path' s' i'
    x.outcome.toOption = x'.outcome.toOption ∧ SeenAlike x.log x'.log := by
  have hordinary : e.is .exception = e'.is .exception := by
    unfold Fault.is
    rw [h.cls]
  cases he : e'.is .exception with
  | true =>
      rw [recover_of_ordinary (hordinary.trans he), recover_of_ordinary he]
      obtain ⟨hx, hlog⟩ := answer_twins level h hs hv hv' now now' path path'
      exact ⟨congrArg Except.toOption hx, hlog⟩
  | false =>
      rw [recover_of_other (hordinary.trans he), recover_of_other he]
      exact ⟨rfl, .refl []⟩

/-- Requests in which one or the other of two twins is raised. -/
theorem dispatch_twins (level : Int) {e e' : Fault} (h : e.Twins e') {s s' : Scope}
    (hs : s.Alike s') {i i' : Intake} {v v' : Verdict}
    (hv : ((c.guided g).classify (rs name) e i.bodies).outcome = .ok v)
    (hv' : ((c.guided g).classify (rs name) e' i'.bodies).outcome = .ok v')
    (now now' path path' : String) {id id' : String} {inner inner' : Scope → Inner}
    (hi : inner { requestId := id } = ⟨.error e, s, i⟩)
    (hi' : inner' { requestId := id' } = ⟨.error e', s', i'⟩) :
    let x := dispatch ⟨.classifier (c.guided g) name, rs, level, now⟩ id path inner
    let x' := dispatch ⟨.classifier (c.guided g) name, rs, level, now'⟩ id' path' inner'
    x.outcome.toOption = x'.outcome.toOption ∧ SeenAlike x.log x'.log := by
  have ho : (inner { requestId := id }).outcome = .error e := congrArg Inner.outcome hi
  have ho' : (inner' { requestId := id' }).outcome = .error e' := congrArg Inner.outcome hi'
  have hlets : Relay.lets e = Relay.lets e' := by
    unfold Relay.lets Fault.is
    rw [h.cls]
  cases he : Relay.lets e' with
  | true =>
      rw [dispatch_of_lets (hlets.trans he) ho, dispatch_of_lets he ho', hi, hi']
      exact recover_twins level h hs hv hv' now now' path path'
  | false =>
      -- both answers are lost, and both were made of the same missing response
      rw [dispatch_of_torn (hlets.trans he) ho, dispatch_of_torn he ho', hi, hi']
      obtain ⟨w, hw⟩ := c.classify_noAnswer g (rs name) i.bodies
      obtain ⟨w', hw'⟩ := c.classify_noAnswer g (rs name) i'.bodies
      obtain ⟨-, hlog⟩ := answer_twins level (.refl _) hs hw hw' now now' path path'
      exact ⟨(Relay.toOption_escape e _).trans (Relay.toOption_escape e' _).symm, hlog⟩

end Dispatcher

/-- **PAYLOADS STAY HIDDEN**: when both of two twins are classified, their verdicts
    agree, handling sends the same, ends the same and shows the same above DEBUG, and so
    does a request in which one or the other is raised. -/
theorem payload_stays_hidden (c : Classifier) (g : Guidance) (name : RegistryName)
    (rs : Registries) {e e' : Fault} {bodies bodies' : Bodies} {v v' : Verdict}
    (h : e.Twins e')
    (hv : ((c.guided g).classify (rs name) e bodies).outcome = .ok v)
    (hv' : ((c.guided g).classify (rs name) e' bodies').outcome = .ok v') :
    let j := Judge.classifier (c.guided g) name
    (v.category = v'.category ∧ v.status = v'.status ∧ v.message = v'.message ∧
        v.log = v'.log) ∧
      (∀ {slot slot' : Slot} (sink : Sink), slot.Alike slot' →
        let a := j.handle rs e slot sink bodies
        let a' := j.handle rs e' slot' sink bodies'
        a.sink = a'.sink ∧ ending a.outcome = ending a'.outcome ∧ SeenAlike a.log a'.log) ∧
      ∀ {s s' : Scope} (level : Int) (now now' id id' path path' : String)
        (inner inner' : Scope → Inner) (n n' : BodyId), s.Alike s' →
        inner { requestId := id } = ⟨.error e, s, ⟨n, bodies⟩⟩ →
        inner' { requestId := id' } = ⟨.error e', s', ⟨n', bodies'⟩⟩ →
        let x := Dispatcher.dispatch ⟨j, rs, level, now⟩ id path inner
        let x' := Dispatcher.dispatch ⟨j, rs, level, now'⟩ id' path' inner'
        x.outcome.toOption = x'.outcome.toOption ∧ SeenAlike x.log x'.log := by
  intro j
  obtain ⟨halike, -⟩ := Classifier.classify_alike h hv hv'
  refine ⟨⟨halike.category, halike.status, halike.message, halike.log⟩, ?_, ?_⟩
  · intro slot slot' sink hs
    exact Judge.handle_alike hv hv' halike
      ((c.guided g).classify_seenAlike (rs name) e e' bodies bodies') hs
  · intro s s' level now now' id id' path path' inner inner' n n' hs hi hi'
    exact Dispatcher.dispatch_twins level h hs hv hv' now now' path path' hi hi'

/-- A failed remote call whose response answered 503 with a JSON document. -/
def Fault.documented (read : ForeignRead) : Fault :=
  ⟨Known.remoteCallError.toClass,
    { Details.ofMessage (some "quota service failed") with
      url := some (some "https://quota.test/check")
      response := some (some (.foreign
        { typeName := "RelayResponse", status := .value (.int 503), url := .absent
          headers := .pairs [(.text "Content-Type", .text "application/json")]
          read := read })) }⟩

/-- A document that can be read and one that cannot: the contexts tell them apart, the
    channel and the client do not. -/
theorem documents_stay_hidden :
    let j := Judge.classifier {} .shared
    let e := Fault.documented (.value (.text "owner: alice"))
    let e' := Fault.documented (.failing (.raised Known.osError.kind "reset"))
    let bodies : Bodies := fun _ => .closed
    e.Twins e' ∧ ∃ v v', (j.classify Registries.empty e bodies).outcome = .ok v ∧
      (j.classify Registries.empty e' bodies).outcome = .ok v' ∧ v.context ≠ v'.context ∧
      v.status = v'.status ∧ v.message = v'.message ∧
      (j.handle Registries.empty e (.sound { requestId := "r-1" }) (.sound {}) bodies).sink
        = (j.handle Registries.empty e' (.sound { requestId := "r-2" }) (.sound {}) bodies).sink ∧
      (Dispatcher.dispatch ⟨j, Registries.empty, 10, "9:00"⟩ "r-1" "/quota"
          fun s => ⟨.error e, s, ⟨0, bodies⟩⟩).outcome.toOption
        = (Dispatcher.dispatch ⟨j, Registries.empty, 10, "9:01"⟩ "r-2" "/quota"
            fun s => ⟨.error e', s, ⟨0, bodies⟩⟩).outcome.toOption := by
  intro j e e' bodies
  have h : e.Twins e' := ⟨rfl, rfl, rfl⟩
  have hv : (j.classify Registries.empty e bodies).outcome = .ok _ := rfl
  have hv' : (j.classify Registries.empty e' bodies).outcome = .ok _ := rfl
  obtain ⟨hanswer, hhandled, hrequest⟩ :=
    payload_stays_hidden {} {} .shared Registries.empty h hv hv'
  refine ⟨h, _, _, hv, hv', by decide, hanswer.2.1, hanswer.2.2.1,
    (hhandled (.sound {}) (.sound rfl)).1, ?_⟩
  have hs : Scope.Alike { requestId := "r-1" } { requestId := "r-2" } :=
    ⟨rfl, fun hf => nomatch hf⟩
  exact (hrequest 10 "9:00" "9:01" "r-1" "r-2" "/quota" "/quota" _ _ 0 0 hs rfl rfl).1

end FaultResponse
