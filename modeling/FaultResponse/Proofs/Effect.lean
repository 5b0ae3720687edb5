import FaultResponse.Proofs.Delivery
import FaultResponse.Proofs.Draft
/-! # Effects — what handling leaves on a scope and on a channel

    Handling can end in four ways: classification fails, or it returns and the scope is
    open or finalized and the channel takes the error or refuses it.  Nothing is left
    half done in any of them:

    * `Classifier.subject_of_classify`: a verdict always names an exception to keep;
    * `Sink.send_sound_cases`: a channel takes an error and holds it, or refuses it and
      stays as it was;
    * `handling_records_then_sends` puts scope, channel, answer and log together.

    The channel has no say in what is kept: every other place to send to, even one that
    refuses whatever comes, would have left the same on the scope. -/

namespace FaultResponse

/-! ## The exception that a verdict names -/

/-- A verdict always names an exception to keep. -/
theorem Classifier.subject_of_classify {c : Classifier} {r : Registry} {e : Fault}
    {bodies : Bodies} {v : Verdict} (h : (c.classify r e bodies).outcome = .ok v) :
    ∃ kept, v.subject = some kept := by
  obtain ⟨d, -, hf⟩ := c.classify_eq_ok_iff.mp h
  obtain ⟨m, -, rfl⟩ := c.finish_eq_ok_iff.mp hf
  exact ⟨d.subject, rfl⟩

/-! ## Taken or refused -/

/-- A channel refuses exactly when it is closed or committed. -/
theorem Channel.refuses_iff {c : Channel} :
    (∃ f, c.Refuses f) ↔ ¬ (c.closed = false ∧ c.committed = false) := by
  constructor
  · rintro ⟨f, hf⟩ ⟨hc, hs⟩
    cases hf with
    | closed h => exact nomatch hc.symm.trans h
    | committed _ h =>
        unfold committed at hs
        rw [h] at hs
        exact nomatch hs
  · intro h
    cases hc : c.closed with
    | true => exact ⟨_, .closed hc⟩
    | false =>
        cases hs : c.sent with
        | some earlier => exact ⟨_, .committed hc hs⟩
        | none => exact absurd ⟨hc, by unfold committed; rw [hs]; rfl⟩ h

/-- **TAKEN OR REFUSED**: an open channel without an error takes the one that is sent and
    then holds it; any other channel refuses it and stays as it was. -/
theorem Sink.send_sound_cases (c : Channel) (status : Int) (message : Text) :
    (c.closed = false ∧ c.committed = false ∧
      (sound c).send status message = .ok (sound { c with sent := some (status, message) })) ∨
    ∃ f, c.Refuses f ∧ (sound c).send status message = .error f := by
  cases hs : c.send status message with
  | error f => exact Or.inr ⟨f, Channel.send_eq_error_iff.mp hs, by rw [send_sound, hs]; rfl⟩
  | ok d =>
      obtain ⟨hc, hn, rfl⟩ := Channel.send_eq_ok_iff.mp hs
      exact Or.inl ⟨hc, hn, by rw [send_sound, hs]; rfl⟩

/-! ## The whole -/

namespace Judge

variable {j : Judge} {rs : Registries} {e : Fault} {bodies : Bodies} {v : Verdict}

/-- What handling leaves on a scope that works, once there is a verdict: the scope has
    seen the exception before the sink is asked. -/
theorem handle_on_scope (h : (j.classify rs e bodies).outcome = .ok v) (s : Scope)
    (sink : Sink) :
    j.handle rs e (.sound s) sink bodies =
      { outcome := (sink.send v.status v.message).map fun _ => v
        slot := .sound (s.keeping (v.subject.getD e))
        sink := sink.after v.status v.message
        bodies := (j.classify rs e bodies).bodies
        log := (j.classify rs e bodies).log ++ s.keepingLog (v.subject.getD e) ++ v.records } :=
  (handle_of_classified h).trans (Verdict.deliver_of_kept (Slot.keep_sound s _))

end Judge

/-- **RECORDED, THEN SENT**: a classification that fails ends handling by its own failure
    and touches neither scope nor channel.  After one that returns, an open scope holds
    the exception that the verdict names and a finalized one is as it was, whatever the
    sink; the recorder never ends handling, and its warning stands before the record of
    the emission.  Then an open channel without an error holds the status and the message
    of the verdict, which is returned; any other channel is as it was, and handling ends
    by its refusal. -/
theorem handling_records_then_sends (c : Classifier) (name : RegistryName) (rs : Registries)
    (e : Fault) (s : Scope) (ch : Channel) (bodies : Bodies) :
    let j := Judge.classifier c name
    let judged := j.classify rs e bodies
    let h := j.handle rs e (.sound s) (.sound ch) bodies
    (∀ f, judged.outcome = .error f →
      h.outcome = .error f ∧ h.slot = .sound s ∧ h.sink = .sound ch) ∧
    ∀ v, judged.outcome = .ok v →
      (∃ kept, v.subject = some kept ∧
        h.slot = .sound (if s.finalized then s else { s with exception := some kept }) ∧
        (∀ sink, (j.handle rs e (.sound s) sink bodies).slot = h.slot) ∧
        h.log = judged.log ++ s.keepingLog kept ++ v.records) ∧
      (ch.closed = false ∧ ch.committed = false →
        h.outcome = .ok v ∧ h.sink = .sound { ch with sent := some (v.status, v.message) }) ∧
      (¬ (ch.closed = false ∧ ch.committed = false) →
        h.sink = .sound ch ∧ ∃ f, h.outcome = .error f ∧ ch.Refuses f ∧
          f.kind = Known.responseCommitted.kind) := by
  intro j judged h
  refine ⟨?_, ?_⟩
  · intro f hf
    have hh : h = _ := Judge.handle_of_failed hf
    rw [hh]
    exact ⟨rfl, rfl, rfl⟩
  · intro v hv
    obtain ⟨kept, hk⟩ := Classifier.subject_of_classify hv
    have hany : ∀ sink, j.handle rs e (.sound s) sink bodies = _ := Judge.handle_on_scope hv s
    have hh : h = _ := hany (.sound ch)
    simp only [hk, Option.getD_some] at hany hh
    refine ⟨⟨kept, hk, ?_, ?_, ?_⟩, ?_⟩
    · rw [hh]
      rfl
    · intro sink
      rw [hany sink, hh]
    · rw [hh]
    · rcases Sink.send_sound_cases ch v.status v.message with ⟨hc, hn, hs⟩ | ⟨f, hr, hs⟩
      · refine ⟨?_, fun hno => absurd ⟨hc, hn⟩ hno⟩
        intro _
        rw [hh]
        simp only [Sink.after, hs, Except.map, and_self]
      · refine ⟨fun ho => absurd ho (Channel.refuses_iff.mp ⟨f, hr⟩), ?_⟩
        intro _
        rw [hh]
        simp only [Sink.after, hs, Except.map, true_and]
        exact ⟨f, rfl, hr, hr.kind⟩

/-- An exception that comes too late for its channel is kept all the same, and a
    decorator that fails keeps even an open scope and an open channel as they were. -/
theorem late_error_is_still_recorded :
    let e : Fault := .ofText .timeoutError "late"
    let s : Scope := { requestId := "r-1" }
    let ch : Channel := { sent := some (404, "gone") }
    let g : Failure := .raised Known.lookupError.kind "no guidance"
    let bodies : Bodies := fun _ => .closed
    let h := (Judge.classifier {} .shared).handle Registries.empty e (.sound s) (.sound ch) bodies
    let h' := (Judge.classifier { decorator := .failing g } .shared).handle Registries.empty e
      (.sound s) (.sound {}) bodies
    (h.slot = .sound { s with exception := some e } ∧ h.sink = .sound ch ∧
        ∃ f, h.outcome = .error f ∧ f.kind = Known.responseCommitted.kind) ∧
      h'.outcome = .error g ∧ h'.slot = .sound s ∧ h'.sink = .sound {} := by
  intro e s ch g bodies h h'
  obtain ⟨-, hreturned⟩ :=
    handling_records_then_sends {} .shared Registries.empty e s ch bodies
  obtain ⟨hfailed, -⟩ :=
    handling_records_then_sends { decorator := .failing g } .shared Registries.empty e s {} bodies
  obtain ⟨⟨kept, hk, hslot, -⟩, -, hrefused⟩ := hreturned _ rfl
  obtain ⟨hsink, f, hf, -, hkind⟩ := hrefused (by decide)
  obtain rfl : e = kept := Option.some.inj hk
  exact ⟨⟨hslot, hsink, f, hf, hkind⟩, hfailed g rfl⟩

end FaultResponse
