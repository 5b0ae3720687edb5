import FaultResponse.Proofs.Delivery
import FaultResponse.Proofs.Draft
/-! # Noninterference — what a client and a log cannot find out

    Two runs that start from exceptions with different secrets are compared.  The
    route is the same for every secret:

    * `Draft.Alike`: two drafts that differ in nothing that is sent or logged;
    * `issue_alike`: guidance, which asks for a class only, keeps them alike;
    * `Verdict.Alike.deliver`: alike verdicts on alike scopes are sent, logged and
      refused in the same way.

    For a denied access the secret is everything but the class, and it stays where it is
    (`denied_access_reveals_nothing`). -/

namespace FaultResponse

/-! ## Alike drafts and verdicts -/

/-- Two drafts that differ in nothing that is sent or logged. -/
structure Draft.Alike (d d' : Draft) : Prop where
  category : d.category = d'.category
  status : d.status = d'.status
  message : d.message = d'.message
  log : d.log = d'.log
  cls : d.subject.cls = d'.subject.cls

/-- Two verdicts that differ in nothing that is sent or logged. -/
structure Verdict.Alike (v v' : Verdict) : Prop where
  category : v.category = v'.category
  status : v.status = v'.status
  message : v.message = v'.message
  log : v.log = v'.log
  subject : ∃ s s', v.subject = some s ∧ v'.subject = some s' ∧ s.cls = s'.cls

/-- Guidance asks an exception for nothing but its class. -/
theorem Guidance.append_congr (g : Guidance) {e e' : Fault} (h : e.cls = e'.cls) :
    g.append e = g.append e' := by
  refine g.append_of_isA ?_
  intro entry _
  rw [h]

theorem Classifier.issue_alike (c : Classifier) (g : Guidance) {d d' : Draft}
    (h : d.Alike d') : (c.issue g d).Alike (c.issue g d') where
  category := h.category
  status := h.status
  message := by
    show (d.message.map (g.append d.subject)).getD (c.standIn d.status)
      = (d'.message.map (g.append d'.subject)).getD (c.standIn d'.status)
    rw [h.message, h.status, g.append_congr h.cls]
  log := h.log
  subject := ⟨d.subject, d'.subject, rfl, rfl, h.cls⟩

/-- The exceptions that alike verdicts keep are of one class. -/
theorem Verdict.Alike.cls_getD {v v' : Verdict} (h : v.Alike v') (e e' : Fault) :
    (v.subject.getD e).cls = (v'.subject.getD e').cls := by
  obtain ⟨s, s', hs, hs', hc⟩ := h.subject
  rw [hs, hs']
  exact hc

/-- The records of a verdict name its subject by the class only. -/
theorem Verdict.Alike.records {v v' : Verdict} (h : v.Alike v') : v.records = v'.records := by
  obtain ⟨s, s', hs, hs', hc⟩ := h.subject
  unfold Verdict.records Verdict.logText subjectName
  rw [hs, hs', h.log, h.status]
  simp only [Option.map_some, hc]

/-! ## Alike deliveries -/

/-- Two places for exceptions that take or refuse a write alike; what they hold and for
    which request does not count. -/
inductive Slot.Alike : Slot → Slot → Prop
  | sound {s s' : Scope} : s.finalized = s'.finalized → Alike (sound s) (sound s')
  | failing {s s' : Scope} {f : Failure} : Alike (failing s f) (failing s' f)

theorem Slot.Alike.refl (s : Slot) : s.Alike s := by
  cases s with
  | sound t => exact .sound rfl
  | failing t f => exact .failing

/-- The record of a refused write names an exception by its class and a failure by its
    kind. -/
theorem refusedRecord_congr {e e' : Fault} {f f' : Failure} (hc : e.cls = e'.cls)
    (hf : f.name = f'.name) : refusedRecord e f = refusedRecord e' f' := by
  unfold refusedRecord
  rw [hc, hf]

theorem Scope.keepingLog_congr {s s' : Scope} (hf : s.finalized = s'.finalized) {e e' : Fault}
    (hc : e.cls = e'.cls) : s.keepingLog e = s'.keepingLog e' := by
  have hr : refusedRecord e (.scopeFinalized s.requestId)
      = refusedRecord e' (.scopeFinalized s'.requestId) := refusedRecord_congr hc rfl
  unfold keepingLog
  rw [hf, hr]

theorem Slot.Alike.keep {s s' : Slot} (h : s.Alike s') {e e' : Fault} (hc : e.cls = e'.cls) :
    ending (s.keep e).1 = ending (s'.keep e').1 ∧ (s.keep e).2 = (s'.keep e').2 := by
  cases h with
  | @sound t t' hf =>
      rw [keep_sound, keep_sound]
      exact ⟨rfl, Scope.keepingLog_congr hf hc⟩
  | @failing t t' f =>
      rw [keep_failing, keep_failing, refusedRecord_congr hc rfl]
      cases f.isOrdinary with
      | true => exact ⟨rfl, rfl⟩
      | false => exact ⟨rfl, rfl⟩

/-- **ALIKE VERDICTS ARE DELIVERED ALIKE**: the sink, the ending and the records behind
    those of the classification are the same.  What a delivery comes to is either its
    own verdict or a failure that does not depend on it. -/
theorem Verdict.Alike.deliver {v v' : Verdict} (h : v.Alike v') {slot slot' : Slot}
    (hs : slot.Alike slot') (e e' : Fault) (sink : Sink) (bodies bodies' : Bodies)
    (log log' : List LogRecord) :
    let a := v.deliver e slot sink bodies log
    let a' := v'.deliver e' slot' sink bodies' log'
    a.sink = a'.sink ∧
      (∃ o : Except Failure Unit,
        a.outcome = o.map (fun _ => v) ∧ a'.outcome = o.map (fun _ => v')) ∧
      ∃ written, a.log = log ++ written ∧ a'.log = log' ++ written := by
  intro a a'
  obtain ⟨hend, hlog⟩ := hs.keep (h.cls_getD e e')
  rcases slot.keep_cases (v.subject.getD e) with ⟨f, -, hf⟩ | ⟨-, t, written, ht⟩
  · -- the recorder fails in the first run, so it fails in the second one as well
    have hf' : (slot'.keep (v'.subject.getD e')).1 = .error f :=
      mapped_eq_error_iff.mp (hend.symm.trans (mapped_eq_error_iff.mpr hf))
    have ha : a = _ := Verdict.deliver_of_broken hf
    have ha' : a' = _ := Verdict.deliver_of_broken hf'
    rw [ha, ha']
    exact ⟨rfl, ⟨.error f, rfl, rfl⟩, _, rfl, by rw [hlog]⟩
  · rw [ht] at hend hlog
    rcases slot'.keep_cases (v'.subject.getD e') with ⟨f, -, hf⟩ | ⟨-, t', written', ht'⟩
    · rw [hf] at hend
      exact nomatch hend
    · -- both recorders return, so the sink decides, and it is offered the same twice
      rw [ht'] at hlog
      obtain rfl : written = written' := hlog
      have ha : a = _ := Verdict.deliver_of_kept ht
      have ha' : a' = _ := Verdict.deliver_of_kept ht'
      rw [ha, ha', h.status, h.message, h.records]
      refine ⟨rfl, ⟨ending (sink.send v'.status v'.message), ?_⟩, written ++ v'.records,
        List.append_assoc .., List.append_assoc ..⟩
      cases sink.send v'.status v'.message with
      | error f => exact ⟨rfl, rfl⟩
      | ok t => exact ⟨rfl, rfl⟩

/-! ## Denied access -/

/-- A class that derives from the denied ones falls under no other policy. -/
theorem Fault.category_of_denied {e : Fault} (h : e.is .accessDenied = true) :
    e.category = .accessDenied := by
  have ha : Category.accessDenied.admits e.cls = true := h
  unfold Fault.category Category.ofClass
  rw [if_pos ha]

/-- What a denied access comes to, whatever the exception, the registry and the bodies. -/
theorem Classifier.classify_denied (c : Classifier) (g : Guidance) (r : Registry) {e : Fault}
    (bodies : Bodies) (h : e.category = .accessDenied) :
    (c.guided g).classify r e bodies =
      ⟨.ok (c.issue g (c.deniedDraft e)), bodies, []⟩ := by
  unfold classify
  rw [h]
  rfl

/-- Guidance leaves a text as it is, or appends the text of one of its entries. -/
theorem Guidance.append_cases (g : Guidance) (e : Fault) (m : Text) :
    g.append e m = m ∨
      ∃ entry ∈ g.entries, e.cls.isA entry.1 = true ∧ entry.2.isEmpty = false ∧
        g.append e m = m ++ "\n" ++ entry.2 := by
  cases hx : g.textFor? e with
  | none => exact Or.inl (append_of_none hx m)
  | some x =>
      obtain ⟨entry, hf, rfl⟩ := Option.map_eq_some_iff.mp hx
      have hs : speaksTo e entry = true := List.find?_some hf
      rw [speaksTo, Bool.and_eq_true, Bool.not_eq_true'] at hs
      exact Or.inr ⟨entry, List.mem_of_find?_eq_some hf, hs.1, hs.2, append_of_some hx m⟩

/-- **A DENIED ACCESS REVEALS NOTHING**: two exceptions of one class that derives from
    the denied ones are answered, sent, refused and logged alike, whatever they hold
    and whatever is declared; the answer is 403 with the fixed message, and guidance
    behind it at most. -/
theorem denied_access_reveals_nothing (c : Classifier) (g : Guidance) (registry : RegistryName)
    (rs rs' : Registries) {e e' : Fault} (slot : Slot) (sink : Sink) (bodies bodies' : Bodies)
    (hd : e.is .accessDenied = true) (hc : e.cls = e'.cls) :
    let j := Judge.classifier (c.guided g) registry
    let h := j.handle rs e slot sink bodies
    let h' := j.handle rs' e' slot sink bodies'
    (∃ v v', (j.classify rs e bodies).outcome = .ok v ∧
        (j.classify rs' e' bodies').outcome = .ok v' ∧ v.answer = v'.answer ∧
        v.status = 403 ∧
        (v.message = c.accessDenied ∨
          ∃ entry ∈ g.entries, e.cls.isA entry.1 = true ∧ entry.2.isEmpty = false ∧
            v.message = c.accessDenied ++ "\n" ++ entry.2)) ∧
      h.sink = h'.sink ∧ h.outcome.map Verdict.answer = h'.outcome.map Verdict.answer ∧
      h.log = h'.log := by
  intro j h h'
  have hd' : e'.is .accessDenied = true := by
    unfold Fault.is at hd ⊢
    rw [← hc]
    exact hd
  have hj : j.classify rs e bodies = _ :=
    c.classify_denied g (rs registry) bodies (Fault.category_of_denied hd)
  have hj' : j.classify rs' e' bodies' = _ :=
    c.classify_denied g (rs' registry) bodies' (Fault.category_of_denied hd')
  have hv : (j.classify rs e bodies).outcome = .ok _ := congrArg Traced.outcome hj
  have hv' : (j.classify rs' e' bodies').outcome = .ok _ := congrArg Traced.outcome hj'
  have hdraft : (c.deniedDraft e).Alike (c.deniedDraft e') := ⟨rfl, rfl, rfl, rfl, hc⟩
  have halike := c.issue_alike g hdraft
  have hanswer : (c.issue g (c.deniedDraft e)).answer = (c.issue g (c.deniedDraft e')).answer := by
    unfold Verdict.answer
    rw [Verdict.mk.injEq]
    exact ⟨rfl, rfl, halike.message, rfl, rfl, rfl⟩
  refine ⟨⟨_, _, hv, hv', hanswer, rfl, g.append_cases e c.accessDenied⟩, ?_⟩
  obtain ⟨hsink, ⟨o, ho, ho'⟩, written, hl, hl'⟩ :=
    halike.deliver (Slot.Alike.refl slot) e e' sink bodies bodies' [] []
  have hh : h = _ := Judge.handle_of_classified hv
  have hh' : h' = _ := Judge.handle_of_classified hv'
  rw [hj] at hh
  rw [hj'] at hh'
  rw [hh, hh', hl, hl', ho, ho']
  refine ⟨hsink, ?_, rfl⟩
  cases o with
  | error f => rfl
  | ok u => exact congrArg Except.ok hanswer

/-- A class that is both a denied access and a failed remote call, and has no text. -/
def lockedAccount : Class :=
  ⟨{ id := .defined 0, name := "LockedAccount", home := "app.errors", qualname := "LockedAccount"
     text := some (.failing (.raised Known.valueError.kind "no text")), attributes := none },
    [Known.accessDenied, .remoteCallError, .domainError, .exception, .baseException,
      .object].map Known.head⟩

/-- Whose account it is, and where it was looked up, does not show. -/
theorem locked_accounts_look_alike :
    let e : Fault := ⟨lockedAccount, .ofMessage (some "owned by alice")⟩
    let e' : Fault := ⟨lockedAccount,
      { Details.ofMessage (some "owned by bob") with url := some (some "https://ledger.test/bob") }⟩
    let j := Judge.classifier {} .shared
    let bodies : Bodies := fun _ => .closed
    let h := j.handle Registries.empty e (.sound { requestId := "r-1" }) (.sound {}) bodies
    let h' := j.handle Registries.empty e' (.sound { requestId := "r-1" }) (.sound {}) bodies
    e.is .accessDenied = true ∧ e.cls = e'.cls ∧ e.message ≠ e'.message ∧
      h.sink = h'.sink ∧ h.sink.channel.sent = some (403, ("Access is denied" : Text)) ∧
      h.log = h'.log := by
  intro e e' j bodies h h'
  have hd : e.is .accessDenied = true := by decide
  have hm : e.message ≠ e'.message := by
    show (Except.ok (some ("owned by alice" : Text)) : Except Failure (Option Text)) ≠
      Except.ok (some ("owned by bob" : Text))
    intro hm
    exact absurd (Except.ok.inj hm) (by decide)
  obtain ⟨-, hsink, -, hlog⟩ :=
    denied_access_reveals_nothing {} {} .shared Registries.empty Registries.empty
      (.sound { requestId := "r-1" }) (.sound {}) bodies bodies hd (rfl : e.cls = e'.cls)
  exact ⟨hd, rfl, hm, hsink, rfl, hlog⟩

end FaultResponse
