import FaultResponse.Handling
import FaultResponse.Proofs.Outcome
/-! # Delivery — what handling leaves behind once there is a verdict

    Keeping, logging and sending each have a way to fail, and each is closed off here
    in one equation: `keep_sound` for a scope that works, `deliver_of_kept` for the
    rest of the way.  From then on nothing has to look inside `deliver`.

    A channel refuses for two reasons only (`send_eq_error_iff`), and a place for
    exceptions breaks the recorder in one way only (`keep_eq_error_iff`). -/

namespace FaultResponse

/-! ## Keeping -/

namespace Scope

/-- The scope after the recorder tried to keep an exception on it. -/
def keeping (s : Scope) (e : Fault) : Scope :=
  if s.finalized then s else { s with exception := some e }

theorem keeping_of_open {s : Scope} (h : s.finalized = false) (e : Fault) :
    s.keeping e = { s with exception := some e } := by
  unfold keeping
  rw [if_neg (Bool.eq_false_iff.mp h)]

/-- What the recorder writes about that. -/
def keepingLog (s : Scope) (e : Fault) : List LogRecord :=
  if s.finalized then [refusedRecord e (.scopeFinalized s.requestId)] else []

end Scope

namespace Slot

/-- On a scope that works the recorder always returns. -/
theorem keep_sound (s : Scope) (e : Fault) :
    (sound s).keep e = (.ok (sound (s.keeping e)), s.keepingLog e) := by
  unfold keep Scope.keeping Scope.keepingLog
  cases hf : s.finalized with
  | true =>
      simp only [record, Scope.record_of_finalized hf]
      rfl
  | false =>
      simp only [record, Scope.record_of_open hf, hf]
      rfl

/-- On a place that refuses every write the recorder catches what is ordinary. -/
theorem keep_failing (s : Scope) (f : Failure) (e : Fault) :
    (failing s f).keep e =
      if f.isOrdinary then (.ok (failing s f), [refusedRecord e f]) else (.error f, []) := rfl

/-- How a place breaks the recorder: by a failure that no guard for ordinary
    exceptions catches. -/
inductive Breaks : Slot → Failure → Prop
  | signal {s : Scope} {f : Failure} : f.isOrdinary = false → Breaks (failing s f) f

/-- The recorder fails on a place that breaks it, and on no other. -/
theorem keep_eq_error_iff {s : Slot} {e : Fault} {f : Failure} :
    (s.keep e).1 = .error f ↔ s.Breaks f := by
  cases s with
  | sound t =>
      rw [keep_sound]
      constructor
      · intro h; exact nomatch h
      · intro h; exact nomatch h
  | failing t g =>
      rw [keep_failing]
      cases hg : g.isOrdinary with
      | true =>
          constructor
          · intro h; exact nomatch h
          · rintro ⟨hf⟩
            rw [hg] at hf
            exact nomatch hf
      | false =>
          constructor
          · intro h
            obtain rfl : g = f := Except.error.inj h
            exact .signal hg
          · rintro ⟨-⟩
            rfl

theorem Breaks.unique {s : Slot} {f f' : Failure} (h : s.Breaks f) (h' : s.Breaks f') :
    f = f' := by
  cases h
  cases h'
  rfl

/-- The recorder is broken, or it returns. -/
theorem keep_cases (s : Slot) (e : Fault) :
    (∃ f, s.Breaks f ∧ (s.keep e).1 = .error f) ∨
      (∀ f, ¬ s.Breaks f) ∧ ∃ t written, s.keep e = (.ok t, written) := by
  cases hk : s.keep e with
  | mk kept written =>
      cases kept with
      | error f => exact Or.inl ⟨f, keep_eq_error_iff.mp (by rw [hk]), rfl⟩
      | ok t =>
          -- a place that breaks the recorder would break it for this exception as well
          refine Or.inr ⟨?_, t, written, rfl⟩
          intro f hf
          have h := keep_eq_error_iff (e := e).mpr hf
          rw [hk] at h
          exact nomatch h

end Slot

/-! ## Sending -/

namespace Channel

/-- Why a channel refuses an error. -/
inductive Refuses (c : Channel) : Failure → Prop
  | closed : c.closed = true → Refuses c .channelClosed
  | committed {earlier : Int × Text} :
      c.closed = false → c.sent = some earlier → Refuses c (.channelCommitted earlier.1)

theorem send_eq_error_iff {c : Channel} {status : Int} {message : Text} {f : Failure} :
    c.send status message = .error f ↔ c.Refuses f := by
  unfold send
  cases hc : c.closed with
  | true =>
      constructor
      · intro h
        obtain rfl := Except.error.inj h
        exact .closed hc
      · intro h
        cases h with
        | closed => rfl
        | committed ho => rw [hc] at ho; exact nomatch ho
  | false =>
      cases hs : c.sent with
      | none =>
          constructor
          · intro h; exact nomatch h
          · intro h
            cases h with
            | closed ho => rw [hc] at ho; exact nomatch ho
            | committed _ he => rw [hs] at he; exact nomatch he
      | some earlier =>
          constructor
          · intro h
            obtain rfl := Except.error.inj h
            exact .committed hc hs
          · intro h
            cases h with
            | closed ho => rw [hc] at ho; exact nomatch ho
            | committed _ he =>
                obtain rfl := Option.some.inj (hs.symm.trans he)
                rfl

/-- Every refusal is an error of one class. -/
theorem Refuses.kind {c : Channel} {f : Failure} (h : c.Refuses f) :
    f.kind = Known.responseCommitted.kind := by
  cases h with
  | closed => rfl
  | committed => rfl

/-- A refusal is an ordinary exception. -/
theorem Refuses.isOrdinary {c : Channel} {f : Failure} (h : c.Refuses f) :
    f.isOrdinary = true := by
  unfold Failure.isOrdinary
  rw [h.kind]
  decide

end Channel

namespace Sink

/-- The sink after an error was sent to it, accepted or not. -/
def after (s : Sink) (status : Int) (message : Text) : Sink :=
  match s.send status message with
  | .ok t => t
  | .error _ => s

theorem send_sound (c : Channel) (status : Int) (message : Text) :
    (sound c).send status message = (c.send status message).map sound := by
  cases hs : c.send status message with
  | error f => simp only [send, hs, Except.map]
  | ok d => simp only [send, hs, Except.map]

theorem send_sound_eq_error_iff {c : Channel} {status : Int} {message : Text} {f : Failure} :
    (sound c).send status message = .error f ↔ c.Refuses f := by
  have hc : c.send status message = .error f ↔ c.Refuses f := Channel.send_eq_error_iff
  rw [send_sound, ← hc]
  exact mapped_eq_error_iff

end Sink

/-! ## The whole -/

/-- **DELIVERY** of a verdict whose exception was kept: the records come in order, and
    the channel alone decides whether it returns. -/
theorem Verdict.deliver_of_kept {v : Verdict} {e : Fault} {slot kept : Slot} {sink : Sink}
    {bodies : Bodies} {log written : List LogRecord}
    (h : slot.keep (v.subject.getD e) = (.ok kept, written)) :
    v.deliver e slot sink bodies log =
      { outcome := (sink.send v.status v.message).map fun _ => v
        slot := kept
        sink := sink.after v.status v.message
        bodies := bodies
        log := log ++ written ++ v.records } := by
  unfold deliver emit Sink.after
  rw [h]
  cases sink.send v.status v.message with
  | error f => rfl
  | ok t => rfl

/-- A recorder that fails ends the delivery before anything is sent. -/
theorem Verdict.deliver_of_broken {v : Verdict} {e : Fault} {slot : Slot} {sink : Sink}
    {bodies : Bodies} {log : List LogRecord} {f : Failure}
    (h : (slot.keep (v.subject.getD e)).1 = .error f) :
    v.deliver e slot sink bodies log =
      ⟨.error f, slot, sink, bodies, log ++ (slot.keep (v.subject.getD e)).2⟩ := by
  unfold deliver
  cases hk : slot.keep (v.subject.getD e) with
  | mk kept written =>
      rw [hk] at h
      obtain rfl : kept = .error f := h
      rfl

/-- A delivery ends by its own verdict, when the recorder is not broken and the sink takes
    the error. -/
theorem Verdict.deliver_eq_ok_iff {v w : Verdict} {e : Fault} {slot : Slot} {sink : Sink}
    {bodies : Bodies} {log : List LogRecord} :
    (v.deliver e slot sink bodies log).outcome = .ok w ↔
      v = w ∧ (∀ f, ¬ slot.Breaks f) ∧ ∃ t, sink.send v.status v.message = .ok t := by
  rcases slot.keep_cases (v.subject.getD e) with ⟨f, hb, hk⟩ | ⟨hb, t, written, hk⟩
  · rw [deliver_of_broken hk]
    constructor
    · intro h; exact nomatch h
    · rintro ⟨-, hn, -⟩; exact absurd hb (hn f)
  · rw [deliver_of_kept hk, mapped_eq_ok_iff]
    constructor
    · rintro ⟨t, ht, hv⟩
      exact ⟨hv, hb, t, ht⟩
    · rintro ⟨hv, -, t, ht⟩
      exact ⟨t, ht, hv⟩

/-- It fails as the recorder does, or else as the sink does. -/
theorem Verdict.deliver_eq_error_iff {v : Verdict} {e : Fault} {slot : Slot} {sink : Sink}
    {bodies : Bodies} {log : List LogRecord} {f : Failure} :
    (v.deliver e slot sink bodies log).outcome = .error f ↔
      slot.Breaks f ∨ (∀ f', ¬ slot.Breaks f') ∧ sink.send v.status v.message = .error f := by
  rcases slot.keep_cases (v.subject.getD e) with ⟨f', hb, hk⟩ | ⟨hb, t, written, hk⟩
  · rw [deliver_of_broken hk]
    constructor
    · intro h
      obtain rfl : f' = f := Except.error.inj h
      exact Or.inl hb
    · rintro (hf | ⟨hn, -⟩)
      · rw [hb.unique hf]
      · exact absurd hb (hn f')
  · rw [deliver_of_kept hk, mapped_eq_error_iff]
    constructor
    · intro h
      exact Or.inr ⟨hb, h⟩
    · rintro (hf | ⟨-, hs⟩)
      · exact absurd hf (hb f)
      · exact hs

namespace Judge

variable {j : Judge} {rs : Registries} {e : Fault} {slot : Slot} {sink : Sink} {bodies : Bodies}

theorem handle_of_classified {v : Verdict} (h : (j.classify rs e bodies).outcome = .ok v) :
    j.handle rs e slot sink bodies =
      v.deliver e slot sink (j.classify rs e bodies).bodies (j.classify rs e bodies).log := by
  unfold handle
  simp only [h]

theorem handle_of_failed {f : Failure} (h : (j.classify rs e bodies).outcome = .error f) :
    j.handle rs e slot sink bodies =
      ⟨.error f, slot, sink, (j.classify rs e bodies).bodies, (j.classify rs e bodies).log⟩ := by
  unfold handle
  simp only [h]

/-- **WHEN HANDLING RETURNS**: when classification does, the recorder is not broken, and
    the sink takes the error. -/
theorem handle_eq_ok_iff {v : Verdict} :
    (j.handle rs e slot sink bodies).outcome = .ok v ↔
      (j.classify rs e bodies).outcome = .ok v ∧ (∀ f, ¬ slot.Breaks f) ∧
        ∃ t, sink.send v.status v.message = .ok t := by
  cases hj : (j.classify rs e bodies).outcome with
  | error f => simp [handle_of_failed hj]
  | ok w =>
      rw [handle_of_classified hj, Verdict.deliver_eq_ok_iff]
      constructor
      · rintro ⟨rfl, hb, ht⟩
        exact ⟨rfl, hb, ht⟩
      · rintro ⟨hv, hb, ht⟩
        obtain rfl : w = v := Except.ok.inj hv
        exact ⟨rfl, hb, ht⟩

/-- Handling fails as classification does, or else as the delivery of its verdict. -/
theorem handle_eq_error_iff {f : Failure} :
    (j.handle rs e slot sink bodies).outcome = .error f ↔
      (j.classify rs e bodies).outcome = .error f ∨
        ∃ v, (j.classify rs e bodies).outcome = .ok v ∧
          (slot.Breaks f ∨
            (∀ f', ¬ slot.Breaks f') ∧ sink.send v.status v.message = .error f) := by
  cases hj : (j.classify rs e bodies).outcome with
  | error f' => simp [handle_of_failed hj]
  | ok w =>
      rw [handle_of_classified hj, Verdict.deliver_eq_error_iff]
      constructor
      · intro h
        exact Or.inr ⟨w, rfl, h⟩
      · rintro (h | ⟨v, hv, h⟩)
        · exact nomatch h
        · obtain rfl : w = v := Except.ok.inj hv
          exact h

end Judge

end FaultResponse
