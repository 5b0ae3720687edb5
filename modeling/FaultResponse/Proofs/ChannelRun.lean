import FaultResponse.Operation
import FaultResponse.Proofs.Effect
/-! # Channels in a run — at most one error, whatever the operations

    Many operations can write to a channel, on behalf of many requests and in any order.
    What a channel is after a run is told by its history alone:

    * `Operation.brings?` is the error that an operation brings to a channel, and
      `Operation.accepted` lists those that were brought and not refused;
    * `run_turn`, the step: whatever the operation, the channel takes what is brought,
      refuses it, is closed, or is left alone (`Turn`);
    * `runAll_history`, the run: by induction over the operations the list of accepted
      errors has one member at most, and that one is what the channel holds.

    `channel_takes_one_error` reads off what a client can rely on. -/

namespace FaultResponse

/-! ## What an operation brings to a channel -/

namespace Operation

/-- The error that an operation brings to a channel.  Handling brings one when it gets as
    far as the emission: classification returns, and so does the recorder. -/
def brings? (j : Judge) (rs : Registries) (w : World) (name : String) :
    Operation → Option (Int × Text)
  | handle e scope channel =>
    if channel = name then
      match (j.classify rs e w.bodies).outcome with
      | .error _ => none
      | .ok v =>
        match ((w.slots scope).keep (v.subject.getD e)).1 with
        | .error _ => none
        | .ok _ => some (v.status, v.message)
    else none
  | emit v channel => if channel = name then some (v.status, v.message) else none
  | send channel status message => if channel = name then some (status, message) else none
  | close _ | render _ | record .. | keep .. | finalize _ | report .. => none

/-- The error that was brought, unless the operation failed. -/
def took? : Option (Int × Text) → Except Failure Unit → Option (Int × Text)
  | some error, .ok _ => some error
  | _, _ => none

/-- The errors that a channel accepted in a run, in order. -/
def accepted (j : Judge) (rs : Registries) (now name : String) :
    World → List Operation → List (Int × Text)
  | _, [] => []
  | w, op :: ops =>
    let effect := op.run j rs now w
    (took? (op.brings? j rs w name) (ending effect.outcome)).toList
      ++ accepted j rs now name effect.world ops

/-! ## One operation -/

/-- What an operation can do to a channel, by what it brings and how it ends. -/
inductive Turn (name : String) (op : Operation) (c : Channel) :
    Option (Int × Text) → Except Failure Unit → Channel → Prop
  | taken {error : Int × Text} : op ≠ .close name → c.closed = false → c.committed = false →
      Turn name op c (some error) (.ok ()) { c with sent := some error }
  | refused {error : Int × Text} {f : Failure} : op ≠ .close name → c.Refuses f →
      Turn name op c (some error) (.error f) c
  | closed : op = .close name → Turn name op c none (.ok ()) c.close
  | left {outcome : Except Failure Unit} : op ≠ .close name → Turn name op c none outcome c

variable {j : Judge} {rs : Registries} {now : String} {w : World} {name : String} {c : Channel}

/-- An error that is sent is taken or refused. -/
theorem turn_of_send {op : Operation} (hop : op ≠ .close name) (c : Channel) (status : Int)
    (message : Text) :
    ∃ d, (Sink.sound c).after status message = .sound d ∧
      op.Turn name c (some (status, message)) (ending ((Sink.sound c).send status message)) d := by
  unfold Sink.after
  rcases Sink.send_sound_cases c status message with ⟨hc, hs, h⟩ | ⟨f, hr, h⟩
  · rw [h]
    exact ⟨_, rfl, .taken hop hc hs⟩
  · rw [h]
    exact ⟨c, rfl, .refused hop hr⟩

/-- Sending leaves behind what the sink makes of the error. -/
theorem run_send (channel : String) (status : Int) (message : Text) :
    (send channel status message).run j rs now w =
      ⟨((w.sinks channel).send status message).map fun _ => .done,
        w.setSink channel ((w.sinks channel).after status message), []⟩ := by
  cases hs : (w.sinks channel).send status message with
  | error f => simp only [run, Sink.after, World.setSink, hs, Store.set_get, Except.map]
  | ok s => simp only [run, Sink.after, World.setSink, hs, Except.map]

/-- Emission leaves behind the same, and the records of the verdict. -/
theorem run_emit (v : Verdict) (channel : String) :
    (emit v channel).run j rs now w =
      ⟨((w.sinks channel).send v.status v.message).map fun _ => .done,
        w.setSink channel ((w.sinks channel).after v.status v.message), v.records⟩ := by
  cases hs : (w.sinks channel).send v.status v.message with
  | error f =>
      simp only [run, Verdict.emit, Sink.after, World.setSink, hs, Store.set_get, Except.map]
  | ok s => simp only [run, Verdict.emit, Sink.after, World.setSink, hs, Except.map]

/-- What an operation that sends an error does to the channel that it sends it to. -/
theorem turn_of_sent {op : Operation} (hop : op ≠ .close name) (hw : w.sinks name = .sound c)
    {status : Int} {message : Text} {x : Effect}
    (hworld : x.world.sinks name = (w.sinks name).after status message)
    (houtcome : ending x.outcome = ending ((w.sinks name).send status message)) :
    ∃ d, x.world.sinks name = .sound d ∧
      op.Turn name c (some (status, message)) (ending x.outcome) d := by
  rw [hworld, houtcome, hw]
  exact turn_of_send hop c status message

/-- The channel that an operation sends nothing to is left alone. -/
theorem turn_of_unsent {op : Operation} (hop : op ≠ .close name) (hw : w.sinks name = .sound c)
    {x : Effect} (hworld : x.world.sinks name = w.sinks name) :
    ∃ d, x.world.sinks name = .sound d ∧ op.Turn name c none (ending x.outcome) d :=
  ⟨c, hworld.trans hw, .left hop⟩

/-- An error that is sent without a classification, to this channel or to another one. -/
theorem turn_of_write {op : Operation} (hop : op ≠ .close name) (hw : w.sinks name = .sound c)
    {channel : String} {status : Int} {message : Text} {x : Effect}
    (hworld : x.world = w.setSink channel ((w.sinks channel).after status message))
    (houtcome : ending x.outcome = ending ((w.sinks channel).send status message)) :
    ∃ d, x.world.sinks name = .sound d ∧
      op.Turn name c (if channel = name then some (status, message) else none)
        (ending x.outcome) d := by
  have hsinks : x.world.sinks = w.sinks.set channel ((w.sinks channel).after status message) :=
    congrArg World.sinks hworld
  by_cases hn : channel = name
  · subst hn
    rw [if_pos rfl]
    exact turn_of_sent hop hw (by rw [hsinks, Store.set_self]) houtcome
  · rw [if_neg hn]
    exact turn_of_unsent hop hw (by rw [hsinks, Store.set_of_ne _ _ (Ne.symm hn)])

/-- Handling meets the channel as its emission does, if it comes to that. -/
theorem handle_turn (e : Fault) (scope : String) (hw : w.sinks name = .sound c) :
    let x := (handle e scope name).run j rs now w
    ∃ d, x.world.sinks name = .sound d ∧
      (handle e scope name).Turn name c ((handle e scope name).brings? j rs w name)
        (ending x.outcome) d := by
  intro x
  have hop : handle e scope name ≠ .close name := fun h => nomatch h
  have hsink : x.world.sinks name
      = (j.handle rs e (w.slots scope) (w.sinks name) w.bodies).sink := Store.set_self _ _ _
  have hend : ending x.outcome
      = ending (j.handle rs e (w.slots scope) (w.sinks name) w.bodies).outcome := ending_map _ _
  cases hj : (j.classify rs e w.bodies).outcome with
  | error f =>
      rw [Judge.handle_of_failed hj] at hsink
      have hb : (handle e scope name).brings? j rs w name = none := by
        simp only [brings?, if_true, hj]
      rw [hb]
      exact turn_of_unsent hop hw hsink
  | ok v =>
      rw [Judge.handle_of_classified hj] at hsink hend
      rcases (w.slots scope).keep_cases (v.subject.getD e) with ⟨f, -, hk⟩ | ⟨-, t, written, hk⟩
      · rw [Verdict.deliver_of_broken hk] at hsink
        have hb : (handle e scope name).brings? j rs w name = none := by
          simp only [brings?, if_true, hj, hk]
        rw [hb]
        exact turn_of_unsent hop hw hsink
      · rw [Verdict.deliver_of_kept hk] at hsink hend
        have hb : (handle e scope name).brings? j rs w name = some (v.status, v.message) := by
          simp only [brings?, if_true, hj, hk]
        rw [hb]
        exact turn_of_sent hop hw hsink (hend.trans (ending_map _ _))

/-- **ONE OPERATION** does one of four things to a channel. -/
theorem run_turn (j : Judge) (rs : Registries) (now : String) (op : Operation)
    (hw : w.sinks name = .sound c) :
    let x := op.run j rs now w
    ∃ d, x.world.sinks name = .sound d ∧
      op.Turn name c (op.brings? j rs w name) (ending x.outcome) d := by
  intro x
  cases op with
  | handle e scope channel =>
      by_cases hn : channel = name
      · subst hn
        exact handle_turn e scope hw
      · have hb : (handle e scope channel).brings? j rs w name = none := if_neg hn
        rw [hb]
        exact turn_of_unsent (by nofun) hw (Store.set_of_ne _ _ (Ne.symm hn))
  | emit v channel =>
      have hx : x = _ := run_emit v channel
      rw [hx]
      exact turn_of_write (by nofun) hw rfl (ending_map _ _)
  | send channel status message =>
      have hx : x = _ := run_send channel status message
      rw [hx]
      exact turn_of_write (by nofun) hw rfl (ending_map _ _)
  | close channel =>
      by_cases hn : channel = name
      · subst hn
        have hclosed : x.world.sinks channel = .sound c.close := by
          show w.sinks.set channel (w.sinks channel).close channel = .sound c.close
          rw [Store.set_self, hw]
          rfl
        exact ⟨c.close, hclosed, .closed rfl⟩
      · have hop : close channel ≠ .close name := fun h => hn (Operation.close.inj h)
        exact turn_of_unsent hop hw (Store.set_of_ne _ _ (Ne.symm hn))
  -- the other operations do not look at any channel, or change none
  | render channel => exact turn_of_unsent (by nofun) hw rfl
  | report scope status path => exact turn_of_unsent (by nofun) hw rfl
  | finalize scope => exact turn_of_unsent (by nofun) hw rfl
  | record scope e =>
      refine turn_of_unsent (by nofun) hw ?_
      cases hs : (w.slots scope).record e with
      | error f => simp only [x, run, hs]
      | ok s => simp only [x, run, hs, World.setSlot]
  | keep scope e =>
      refine turn_of_unsent (by nofun) hw ?_
      cases hs : (w.slots scope).keep e with
      | mk kept written =>
          cases kept with
          | error f => simp only [x, run, hs]
          | ok s => simp only [x, run, hs, World.setSlot]

end Operation

/-- An error that was brought is taken by an open channel without one, and refused by any
    other. -/
theorem Operation.Turn.decided {name : String} {op : Operation} {c d : Channel}
    {error : Int × Text} {outcome : Except Failure Unit}
    (h : op.Turn name c (some error) outcome d) :
    (c.closed = false ∧ c.committed = false →
      outcome = .ok () ∧ d = { c with sent := some error }) ∧
    (¬ (c.closed = false ∧ c.committed = false) →
      d = c ∧ ∃ f, outcome = .error f ∧ c.Refuses f) := by
  cases h with
  | taken _ hc hs => exact ⟨fun _ => ⟨rfl, rfl⟩, fun hno => absurd ⟨hc, hs⟩ hno⟩
  | @refused error f _ hr =>
      exact ⟨fun ho => absurd ho (Channel.refuses_iff.mp ⟨f, hr⟩), fun _ => ⟨rfl, f, rfl, hr⟩⟩

/-! ## A run -/

/-- What operations make of a channel, told by the errors that were accepted. -/
structure Channel.History (name : String) (c d : Channel) (ops : List Operation)
    (accepted : List (Int × Text)) : Prop where
  /-- The channel holds what it held, or else the accepted error. -/
  sent : d.sent = c.sent.or accepted.head?
  closed : d.closed = true ↔ c.closed = true ∨ Operation.close name ∈ ops
  single : accepted.length ≤ 1
  /-- A channel that is closed or committed accepts nothing more. -/
  settled : ¬ (c.closed = false ∧ c.committed = false) → accepted = []

namespace Channel.History

variable {name : String} {c d : Channel} {ops : List Operation} {errors : List (Int × Text)}

/-- What a channel holds, it keeps. -/
theorem sent_of_some (h : c.History name d ops errors) {error : Int × Text}
    (hs : c.sent = some error) : d.sent = some error := by
  rw [h.sent, hs]
  rfl

/-- A closed channel without an error stays without. -/
theorem committed_of_closed (h : c.History name d ops errors) (hc : c.closed = true)
    (hs : c.committed = false) : d.committed = false := by
  have hnone : errors = [] := h.settled fun ho => nomatch hc.symm.trans ho.1
  unfold Channel.committed at hs ⊢
  rw [h.sent, hnone, List.head?_nil, Option.or_none]
  exact hs

end Channel.History

namespace Operation

variable {j : Judge} {rs : Registries} {now : String} {w : World} {name : String} {c : Channel}

/-- One operation in front of a run. -/
theorem Turn.history {op : Operation} {ops : List Operation} {brought : Option (Int × Text)}
    {outcome : Except Failure Unit} {d final : Channel} {errors : List (Int × Text)}
    (h : op.Turn name c brought outcome d) (hrest : d.History name final ops errors) :
    c.History name final (op :: ops) ((took? brought outcome).toList ++ errors) := by
  have hclose : op ≠ .close name → (close name ∈ op :: ops ↔ close name ∈ ops) := by
    intro hop
    rw [List.mem_cons, or_iff_right (Ne.symm hop)]
  cases h with
  | @taken error hop hc hs =>
      -- what was taken settles the channel
      obtain rfl : errors = [] := hrest.settled fun hopen => nomatch hopen.2
      refine ⟨?_, ?_, Nat.le_refl 1, fun hno => absurd ⟨hc, hs⟩ hno⟩
      · have hempty : c.sent = none :=
          Option.isNone_iff_eq_none.mp (Option.isSome_eq_false_iff.mp hs)
        rw [hrest.sent, hempty]
        rfl
      · rw [hclose hop]
        exact hrest.closed
  | @refused error f hop hr =>
      refine ⟨hrest.sent, ?_, hrest.single, hrest.settled⟩
      rw [hclose hop]
      exact hrest.closed
  | closed hop =>
      obtain rfl : errors = [] := hrest.settled fun hopen => nomatch hopen.1
      refine ⟨hrest.sent, ?_, Nat.zero_le 1, fun _ => rfl⟩
      constructor
      · intro _
        exact Or.inr (hop ▸ List.mem_cons_self)
      · intro _
        exact hrest.closed.mpr (Or.inl rfl)
  | left hop =>
      refine ⟨hrest.sent, ?_, hrest.single, hrest.settled⟩
      rw [hclose hop]
      exact hrest.closed

/-- **A RUN** makes of a channel what its accepted errors tell. -/
theorem runAll_history (j : Judge) (rs : Registries) (now : String) (ops : List Operation)
    (hw : w.sinks name = .sound c) :
    ∃ d, (runAll j rs now w ops).2.sinks name = .sound d ∧
      c.History name d ops (accepted j rs now name w ops) := by
  induction ops generalizing w c with
  | nil =>
      refine ⟨c, hw, (Option.or_none).symm, ?_, Nat.zero_le 1, fun _ => rfl⟩
      rw [or_iff_left List.not_mem_nil]
  | cons op rest ih =>
      obtain ⟨d, hd, hturn⟩ := run_turn j rs now op hw
      obtain ⟨final, hfinal, hrest⟩ := ih hd
      exact ⟨final, hfinal, hturn.history hrest⟩

/-- Operations that follow others start from the world that these leave. -/
theorem runAll_append (before after : List Operation) (w : World) :
    (runAll j rs now w (before ++ after)).2
      = (runAll j rs now (runAll j rs now w before).2 after).2 := by
  induction before generalizing w with
  | nil => rfl
  | cons op rest ih => exact ih (op.run j rs now w).world

end Operation

/-! ## What a client gets -/

/-- A string is composed as a plain text with its status, and as UTF-8: its type says so,
    and its length counts the octets. -/
theorem Http.compose_plain (status : Int) (body : String) :
    let r := compose status [] (some plainType) body
    r.status = status ∧ r.body = body ∧
      ("content-type", "text/plain; charset=utf-8") ∈ r.headers ∧
      (hasLength status = true →
        ("content-length", toString (Text.Utf8.encode body).length) ∈ r.headers) := by
  refine ⟨rfl, rfl, ?_, ?_⟩
  · exact List.mem_append_right _ List.mem_cons_self
  · intro hl
    have hgiven : (hasLength status && !hasHeader [] "content-length") = true := by
      rw [hl]
      rfl
    refine List.mem_append_left _ ?_
    rw [if_pos hgiven]
    exact List.mem_cons_self

/-- Rendering fails with an error of the runtime exactly on a channel that holds nothing. -/
theorem Channel.render_fails_iff (c : Channel) :
    (∃ f, c.render = .error f ∧ f.kind = Known.runtimeError.kind) ↔ c.sent = none := by
  cases h : c.sent with
  | none => exact iff_of_true ⟨.nothingSent, render_of_empty h, rfl⟩ rfl
  | some error =>
      refine iff_of_false ?_ (Option.some_ne_none error)
      rintro ⟨f, hf, hkind⟩
      by_cases hs : error.2.IsString
      · obtain ⟨body, hbody⟩ := hs
        have hsent : c.sent = some (error.1, (body : Text)) := by rw [h, ← hbody]
        exact nomatch hf.symm.trans (render_of_string hsent)
      · -- a text that does not go out fails for another reason
        obtain ⟨u, hu⟩ := render_of_not_isString h hs
        obtain rfl := Except.error.inj (hf.symm.trans hu)
        have hother : Internal.encodeError.kind ≠ Known.runtimeError.kind := by decide
        exact hother hkind

/-- **ONE ERROR FOR EACH CHANNEL**, over any run of operations on any scopes and channels.
    Up to any moment a new channel has accepted one error at most, holds that one, and is
    closed exactly if it was closed.  An error that is brought to it then is accepted if
    it is neither closed nor committed, and else refused without a trace.  What it holds
    stays for the rest of the run; closed without an error it never holds one.  Rendering
    gives the status and the text that were accepted, in UTF-8, if that text is a string,
    and fails to encode it otherwise; it fails for want of an error exactly when none was
    accepted. -/
theorem channel_takes_one_error (j : Judge) (rs : Registries) (now : String) {w : World}
    {name : String} (hw : w.sinks name = .sound {}) (before after : List Operation)
    (op : Operation) :
    let u := (Operation.runAll j rs now w before).2
    let later := (Operation.runAll j rs now w (before ++ after)).2
    let c := (u.sinks name).channel
    let accepted := Operation.accepted j rs now name w before
    let x := op.run j rs now u
    let rendered := ((Operation.render name).run j rs now u).outcome
    (u.sinks name = .sound c ∧ accepted.length ≤ 1 ∧ c.sent = accepted.head? ∧
        (c.closed = true ↔ Operation.close name ∈ before)) ∧
      (∀ error, op.brings? j rs u name = some error →
        (c.closed = false ∧ c.committed = false →
          (∃ a, x.outcome = .ok a) ∧
            x.world.sinks name = .sound { c with sent := some error }) ∧
        (¬ (c.closed = false ∧ c.committed = false) →
          x.world.sinks name = .sound c ∧
            ∃ f, x.outcome = .error f ∧ c.Refuses f ∧
              f.kind = Known.responseCommitted.kind)) ∧
      (∀ error, c.sent = some error → (later.sinks name).channel.sent = some error) ∧
      (c.closed = true → c.committed = false →
        (later.sinks name).channel.committed = false) ∧
      (∀ error, accepted.head? = some error →
        (∀ body : String, error.2 = body →
          ∃ r, rendered = .ok (.response r) ∧ r.status = error.1 ∧ r.body = body ∧
            ("content-type", "text/plain; charset=utf-8") ∈ r.headers ∧
            (Http.hasLength error.1 = true →
              ("content-length", toString (Text.Utf8.encode body).length) ∈ r.headers)) ∧
        (¬ error.2.IsString →
          ∃ f, rendered = .error f ∧ f.kind = Internal.encodeError.kind)) ∧
      ((∃ f, rendered = .error f ∧ f.kind = Known.runtimeError.kind) ↔ accepted = []) := by
  intro u later c accepted x rendered
  obtain ⟨d, hd, hhistory⟩ := Operation.runAll_history j rs now before hw
  have hu : u.sinks name = .sound d := hd
  obtain rfl : c = d := congrArg Sink.channel hu
  have hsent : c.sent = accepted.head? := hhistory.sent
  have hclosed : c.closed = true ↔ Operation.close name ∈ before :=
    hhistory.closed.trans (or_iff_right Bool.false_ne_true)
  have hr : rendered = c.render.map Answer.response := by
    show (u.sinks name).channel.render.map Answer.response = _
    rw [hu]
    rfl
  -- the rest of the run, from here on
  obtain ⟨final, hfinal, hrest⟩ := Operation.runAll_history j rs now after hu
  rw [← Operation.runAll_append] at hfinal
  have hlater : (later.sinks name).channel = final := congrArg Sink.channel hfinal
  refine ⟨⟨hu, hhistory.single, hsent, hclosed⟩, ?_, ?_, ?_, ?_, ?_⟩
  · intro error hb
    obtain ⟨next, hnext, hturn⟩ := Operation.run_turn j rs now op hu
    rw [hb] at hturn
    obtain ⟨htaken, hrefused⟩ := hturn.decided
    constructor
    · intro hopen
      obtain ⟨hend, rfl⟩ := htaken hopen
      obtain ⟨a, ha, -⟩ := mapped_eq_ok_iff.mp hend
      exact ⟨⟨a, ha⟩, hnext⟩
    · intro hno
      obtain ⟨rfl, f, hend, hr⟩ := hrefused hno
      exact ⟨hnext, f, mapped_eq_error_iff.mp hend, hr, hr.kind⟩
  · intro error hs
    rw [hlater]
    exact hrest.sent_of_some hs
  · intro hc hs
    rw [hlater]
    exact hrest.committed_of_closed hc hs
  · rintro ⟨status, text⟩ he
    have hsent : c.sent = some (status, text) := hsent.trans he
    constructor
    · rintro body rfl
      refine ⟨_, ?_, Http.compose_plain status body⟩
      rw [hr, Channel.render_of_string hsent]
      rfl
    · intro hno
      obtain ⟨u, hu⟩ := Channel.render_of_not_isString hsent hno
      refine ⟨.misuse (.unencodable u), ?_, rfl⟩
      rw [hr, hu]
      rfl
  · rw [hr, ← List.head?_eq_none_iff, ← hsent, ← c.render_fails_iff]
    refine exists_congr ?_
    intro f
    rw [mapped_eq_error_iff]

/-- Two channels of one run: the first error on the one outlasts a close, a second error
    and another exception; the other is closed too early to hold any. -/
theorem first_error_stays :
    let j := Judge.classifier {} .shared
    let rs := Registries.empty
    let w : World := {}
    let late : Fault := .ofText .timeoutError "late"
    let before : List Operation :=
      [.record "s" late, .close "early", .handle late "s" "open", .send "early" 410 "gone"]
    let after : List Operation :=
      [.close "open", .finalize "s", .handle (.ofText .keyError "k") "s" "open",
        .send "open" 404 "again", .handle late "s" "early"]
    let u := (Operation.runAll j rs "9:00" w before).2
    let later := (Operation.runAll j rs "9:00" w (before ++ after)).2
    w.sinks "open" = .sound {} ∧ w.sinks "early" = .sound {} ∧
      Operation.accepted j rs "9:00" "open" w before = [(500, ("late" : Text))] ∧
      (later.sinks "open").channel.sent = some (500, ("late" : Text)) ∧
      (later.sinks "early").channel.committed = false ∧
      ∃ r, ((Operation.render "open").run j rs "9:00" u).outcome = .ok (.response r) ∧
        r.status = 500 ∧ r.body = "late" := by
  intro j rs w late before after u later
  have haccepted : Operation.accepted j rs "9:00" "open" w before = [(500, ("late" : Text))] := rfl
  obtain ⟨⟨-, -, hsent, -⟩, -, hstays, -, hrender, -⟩ :=
    channel_takes_one_error j rs "9:00" (rfl : w.sinks "open" = .sound {}) before after
      (.render "open")
  obtain ⟨-, -, -, hearly, -⟩ :=
    channel_takes_one_error j rs "9:00" (rfl : w.sinks "early" = .sound {}) before after
      (.render "early")
  obtain ⟨hsound, -⟩ := hrender (500, "late") (congrArg List.head? haccepted)
  obtain ⟨r, hr, hstatus, hbody, -⟩ := hsound "late" rfl
  exact ⟨rfl, rfl, haccepted, hstays _ (hsent.trans (congrArg List.head? haccepted)),
    hearly rfl rfl, r, hr, hstatus, hbody⟩

/-- A message with half of a pair is accepted and never rendered: rendering fails, and not
    for want of an error.  And a channel that refuses every write refuses one that comes
    while it is neither closed nor committed, for a reason of its own. -/
theorem half_a_pair_and_broken_channel_fall_short :
    let j := Judge.classifier {} .shared
    let message : Text := "user " ++ ⟨[.half 0]⟩ ++ " not found"
    let u := ((Operation.send "open" 404 message).run j .empty "9:00" {}).world
    let rendered := ((Operation.render "open").run j .empty "9:00" u).outcome
    let reset : Failure := .raised Known.connectionResetError.kind "broken pipe"
    let w := World.setSink {} "broken" (.failing {} reset)
    let refused := (Operation.send "broken" 410 "gone").run j .empty "9:00" w
    (Operation.accepted j .empty "9:00" "open" {} [.send "open" 404 message] = [(404, message)] ∧
        (u.sinks "open").channel.sent = some (404, message) ∧
        (∀ a, rendered ≠ .ok a) ∧
        ∃ f, rendered = .error f ∧ f.name = "UnicodeEncodeError" ∧
          f.kind.is .runtimeError = false) ∧
      (w.sinks "broken").channel.closed = false ∧
        (w.sinks "broken").channel.committed = false ∧
        refused.outcome = .error reset ∧ reset.kind.is .responseCommitted = false ∧
        (refused.world.sinks "broken").channel.committed = false := by
  intro j message u rendered reset w refused
  have hhalf : Letter.half 0 ∈ message.letters := by decide
  obtain ⟨lack, hlack⟩ := Channel.render_of_half
    (rfl : (u.sinks "open").channel.sent = some (404, message)) hhalf
  have hr : rendered = .error (.misuse (.unencodable lack)) := by
    show (u.sinks "open").channel.render.map Answer.response = _
    rw [hlack]
    rfl
  refine ⟨⟨rfl, rfl, ?_, ?_⟩, rfl, rfl, rfl, by decide, rfl⟩
  · intro a ha
    exact nomatch hr.symm.trans ha
  · refine ⟨_, hr, rfl, ?_⟩
    show Internal.encodeError.kind.is .runtimeError = false
    decide

end FaultResponse
