import FaultResponse.Proofs.Delivery
import FaultResponse.Proofs.Draft
/-! # Escapes — every way in which a failure gets past the guards

    Classification looks at many things that can fail: a message, the parts that a
    constructor was to set, the fields of a response from another client, a stream.
    Each look has a guard, and each guard lets some failures through.  The route:

    * one predicate for each look (`Mute`, `Unaddressed`, `Unlisted`, `Unread`), in
      terms of the data alone, with the lemma that the look fails exactly then;
    * `Escapes` collects them under the categories that look at all;
    * `classify_guided_returns_iff`: classification returns if and only if nothing
      escapes, and what it fails with is an escape (`escapes_of_classify`);
    * `handle_returns_iff` closes the account for handling as a whole. -/

namespace FaultResponse

/-! ## Guards, fields and parts -/

theorem Field.get?_eq_error_iff {α : Type} {x : Field α} {f : Failure} :
    x.get? = .error f ↔ x = .failing f ∧ f.kind.is .attributeError = false := by
  cases x with
  | absent => simp [get?]
  | value a => simp [get?]
  | failing g =>
      show (if g.kind.is .attributeError then Except.ok none else .error g) = .error f ↔ _
      rw [caught_eq_error_iff]
      constructor
      · rintro ⟨hg, rfl⟩
        exact ⟨rfl, hg⟩
      · rintro ⟨hf, hk⟩
        obtain rfl := Field.failing.inj hf
        exact ⟨hk, rfl⟩

/-- The status of a response cannot be told when the look at it fails, unless it fails
    for want of the attribute. -/
theorem Response.status?_eq_error_iff {r : Response} {f : Failure} :
    r.status? = .error f ↔ r.statusField = .failing f ∧ f.kind.is .attributeError = false := by
  rw [← Field.get?_eq_error_iff]
  exact mapped_eq_error_iff

namespace Fault

theorem part_eq_error_iff {α : Type} {e : Fault} {field : String} {o : Option α} {f : Failure} :
    e.part field o = .error f ↔ o = none ∧ f = .missingField e.cls.name field := by
  cases o with
  | none =>
      constructor
      · intro h; exact ⟨rfl, (Except.error.inj h).symm⟩
      · rintro ⟨-, rfl⟩; rfl
  | some a => simp [part]

/-! ## The message -/

/-- Why an exception cannot tell its message. -/
inductive Mute (e : Fault) : Failure → Prop
  /-- It is an error of this library whose constructor has not run. -/
  | unset : e.is .domainError = true → e.details.message = none →
      Mute e (.missingField e.cls.name "message")
  /-- Making its text fails, and with more than an ordinary exception. -/
  | broken {f : Failure} : e.is .domainError = false → e.text = .error f →
      f.isOrdinary = false → Mute e f

theorem message_eq_error_iff {e : Fault} {f : Failure} : e.message = .error f ↔ e.Mute f := by
  constructor
  · intro h
    unfold message at h
    cases hd : e.is .domainError with
    | true =>
        rw [hd, if_pos rfl, part_eq_error_iff] at h
        obtain ⟨hm, rfl⟩ := h
        exact .unset hd hm
    | false =>
        rw [hd, if_neg Bool.false_ne_true] at h
        cases ht : e.text with
        | ok s => rw [ht] at h; exact nomatch h
        | error g =>
            simp only [ht, caught_eq_error_iff] at h
            obtain ⟨ho, rfl⟩ := h
            exact .broken hd ht ho
  · intro h
    cases h with
    | unset hd hm => simp [message, hd, hm, part]
    | broken hd ht ho => simp [message, hd, ht, ho]

/-! ## The response and its address -/

/-- Whether the class of the exception is one whose constructor sets a response. -/
def holdsResponse (e : Fault) : Bool :=
  e.is .remoteCallError || e.is .httpStatusError

theorem response?_eq_error_iff {e : Fault} {f : Failure} :
    e.response? = .error f ↔
      e.holdsResponse = true ∧ e.details.response = none ∧
        f = .missingField e.cls.name "response" := by
  unfold response?
  rw [← holdsResponse]
  cases e.holdsResponse with
  | true => rw [if_pos rfl, part_eq_error_iff]; simp
  | false => simp

/-- Why the address of a failed call with a response cannot be told. -/
inductive Unaddressed (e : Fault) : Response → Failure → Prop
  /-- The exception was to name it, and its constructor has not run. -/
  | unset {r : Response} : e.is .remoteCallError = true → e.details.url = none →
      Unaddressed e r (.missingField e.cls.name "url")
  /-- The response has none. -/
  | absent {k : ForeignResponse} : e.is .remoteCallError = false → k.url = .absent →
      Unaddressed e (.foreign k) (.missingField k.typeName "url")
  /-- The look at it fails, and not in the one way that is expected. -/
  | failing {k : ForeignResponse} {f : Failure} : e.is .remoteCallError = false →
      k.url = .failing f → f.kind.is .runtimeError = false → Unaddressed e (.foreign k) f

theorem remoteUrl_eq_error_iff {e : Fault} {r : Response} {f : Failure} :
    e.remoteUrl (some r) = .error f ↔ e.Unaddressed r f := by
  constructor
  · intro h
    unfold remoteUrl at h
    cases hc : e.is .remoteCallError with
    | true =>
        rw [hc, if_pos rfl, part_eq_error_iff] at h
        obtain ⟨hu, rfl⟩ := h
        exact .unset hc hu
    | false =>
        rw [hc, if_neg Bool.false_ne_true] at h
        cases r with
        | known k => exact nomatch h
        | foreign k =>
            cases hu : k.url with
            | value v => simp [hu] at h
            | absent =>
                simp only [hu] at h
                obtain rfl := Except.error.inj h
                exact .absent hc hu
            | failing g =>
                simp only [hu, caught_eq_error_iff] at h
                obtain ⟨hk, rfl⟩ := h
                exact .failing hc hu hk
  · intro h
    cases h with
    | unset hc hu => simp [remoteUrl, hc, hu, part]
    | absent hc hu => simp [remoteUrl, hc, hu]
    | failing hc hu hk => simp [remoteUrl, hc, hu, hk]

end Fault

/-! ## The headers and the body -/

namespace Response

/-- Why the content type of a response cannot be told. -/
inductive Unlisted : Response → Failure → Prop
  /-- Listing the headers fails, and not for want of an attribute. -/
  | headers {k : ForeignResponse} {f : Failure} : k.headers = .failing f →
      f.kind.is .attributeError = false → Unlisted (.foreign k) f

theorem contentType_eq_error_iff {r : Response} {f : Failure} :
    r.contentType = .error f ↔ r.Unlisted f := by
  constructor
  · intro h
    cases r with
    | known k => exact nomatch h
    | foreign k =>
        unfold contentType at h
        cases hk : k.headers with
        | absent => simp [hk] at h
        | pairs items => simp [hk] at h
        | failing g =>
            simp only [hk, caught_eq_error_iff] at h
            obtain ⟨ha, rfl⟩ := h
            exact .headers hk ha
  · rintro ⟨hk, ha⟩
    simp [contentType, hk, ha]

/-- Why reading the body of a response fails for good. -/
inductive Unread (bodies : Bodies) : Response → Failure → Prop
  /-- The stream breaks off, and not in a way that is expected of streams. -/
  | stream {k : KnownResponse} {chunks : List (List UInt8)} {f : Failure} :
      bodies k.body = .unread chunks (some f) →
      isReadFailure (f.leaving Body.streamPlace) = false →
      Unread bodies (.known k) (f.leaving Body.streamPlace)
  /-- The reading operation cannot be looked at. -/
  | hidden {k : ForeignResponse} {f : Failure} : k.read = .hidden f →
      f.kind.is .attributeError = false → Unread bodies (.foreign k) f
  /-- The reading operation fails, and not in a way that is expected of streams. -/
  | failing {k : ForeignResponse} {f : Failure} : k.read = .failing f →
      isReadFailure f = false → Unread bodies (.foreign k) f

theorem afterFailure_eq_error_iff {f g : Failure} {bodies : Bodies} :
    (afterFailure g bodies).outcome = .error f ↔ isReadFailure g = false ∧ g = f := by
  unfold afterFailure
  cases isReadFailure g with
  | true => simp
  | false => simp

/-- Of the failures that the body of a known response has itself, all are expected; only
    a stream that breaks off can bring another one. -/
theorem unread_known_of_read {k : KnownResponse} {bodies : Bodies} {f : Failure}
    (h : (bodies k.body).read.1 = .error f) (hf : isReadFailure f = false) :
    Unread bodies (.known k) f := by
  cases hb : bodies k.body with
  | held octets => simp [hb, Body.read] at h
  -- a stop signal leaves a stream under another name, hence the place in the conclusion
  | unread chunks fails =>
      cases fails with
      | none => simp [hb, Body.read] at h
      | some g =>
          obtain rfl : g.leaving Body.streamPlace = f := by simpa [hb, Body.read] using h
          exact .stream hb hf
  | spent =>
      obtain rfl : Failure.bodyConsumed = f := by simpa [hb, Body.read] using h
      exact absurd hf (by decide)
  | closed =>
      obtain rfl : Failure.bodyClosed = f := by simpa [hb, Body.read] using h
      exact absurd hf (by decide)
  | asynchronous =>
      obtain rfl : Failure.bodyAsynchronous = f := by simpa [hb, Body.read] using h
      exact absurd hf (by decide)

theorem readBody_eq_error_iff {r : Response} {bodies : Bodies} {f : Failure} :
    (r.readBody bodies).outcome = .error f ↔ r.Unread bodies f := by
  constructor
  · intro h
    cases r with
    | known k =>
        cases hb : (bodies k.body).read.1 with
        | ok bytes => simp [readBody, hb] at h
        | error g =>
            simp only [readBody, hb, afterFailure_eq_error_iff] at h
            obtain ⟨hg, rfl⟩ := h
            exact unread_known_of_read hb hg
    | foreign k =>
        cases hr : k.read with
        | absent => simp [readBody, hr, withoutBody] at h
        | value v => simp [readBody, hr] at h
        | hidden g =>
            cases hg : g.kind.is .attributeError with
            | true => simp [readBody, hr, hg, withoutBody] at h
            | false =>
                obtain rfl : g = f := by simpa [readBody, hr, hg] using h
                exact .hidden hr hg
        | failing g =>
            simp only [readBody, hr, afterFailure_eq_error_iff] at h
            obtain ⟨hg, rfl⟩ := h
            exact .failing hr hg
  · intro h
    cases h with
    | stream hb hf =>
        simp only [readBody, hb, Body.read]
        exact afterFailure_eq_error_iff.mpr ⟨hf, rfl⟩
    | hidden hr hf => simp [readBody, hr, hf]
    | failing hr hf =>
        simp only [readBody, hr]
        exact afterFailure_eq_error_iff.mpr ⟨hf, rfl⟩

/-- A response that says of itself that its body is a JSON document. -/
def AnnouncesJson (r : Response) : Prop :=
  ∃ type, r.contentType = .ok type ∧ isJson type = true

end Response

/-! ## The context -/

namespace Fault

/-- Why the context of a failed call with a response cannot be told. -/
inductive Untold (e : Fault) (bodies : Bodies) (r : Response) : Failure → Prop
  | address {f : Failure} : e.Unaddressed r f → Untold e bodies r f
  | headers {f : Failure} : r.Unlisted f → Untold e bodies r f
  | body {f : Failure} : r.AnnouncesJson → r.Unread bodies f → Untold e bodies r f

variable {e : Fault} {bodies : Bodies} {r : Response}

theorem untold_of_remoteContext {f : Failure} (hr : e.response? = .ok (some r))
    (h : (e.remoteContext bodies).outcome = .error f) : e.Untold bodies r f := by
  unfold remoteContext at h
  rw [hr] at h
  cases hu : e.remoteUrl (some r) with
  | error g =>
      obtain rfl : g = f := by simpa [hu] using h
      exact .address (remoteUrl_eq_error_iff.mp hu)
  | ok url =>
      cases ht : r.contentType with
      | error g =>
          obtain rfl : g = f := by simpa [hu, ht] using h
          exact .headers (Response.contentType_eq_error_iff.mp ht)
      | ok type =>
          cases hj : Response.isJson type with
          | false => simp [hu, ht, hj] at h
          | true =>
              cases hb : (r.readBody bodies).outcome with
              | ok body => simp [hu, ht, hj, Traced.map, hb] at h
              | error g =>
                  obtain rfl : g = f := by simpa [hu, ht, hj, Traced.map, hb] using h
                  exact .body ⟨type, ht, hj⟩ (Response.readBody_eq_error_iff.mp hb)

/-- A context that is told comes from an address, from headers and, if they announce
    JSON, from a body that was read. -/
theorem remoteContext_parts {x : RemoteContext} (hr : e.response? = .ok (some r))
    (h : (e.remoteContext bodies).outcome = .ok x) :
    ∃ url type, e.remoteUrl (some r) = .ok url ∧ r.contentType = .ok type ∧
      (Response.isJson type = true →
        ∃ body, (r.readBody bodies).outcome = .ok body) := by
  unfold remoteContext at h
  rw [hr] at h
  cases hu : e.remoteUrl (some r) with
  | error g => simp [hu] at h
  | ok url =>
      cases ht : r.contentType with
      | error g => simp [hu, ht] at h
      | ok type =>
          refine ⟨url, type, rfl, rfl, ?_⟩
          intro hj
          cases hb : (r.readBody bodies).outcome with
          | ok body => exact ⟨body, rfl⟩
          | error g => simp [hu, ht, hj, Traced.map, hb] at h

theorem not_untold_of_remoteContext {x : RemoteContext} (hr : e.response? = .ok (some r))
    (h : (e.remoteContext bodies).outcome = .ok x) (f : Failure) : ¬ e.Untold bodies r f := by
  obtain ⟨url, type, hu, ht, hb⟩ := remoteContext_parts hr h
  intro hf
  cases hf with
  | address ha =>
      rw [remoteUrl_eq_error_iff.mpr ha] at hu
      exact nomatch hu
  | headers hh =>
      rw [Response.contentType_eq_error_iff.mpr hh] at ht
      exact nomatch ht
  | body hj hr =>
      obtain ⟨type', ht', hj⟩ := hj
      obtain rfl := Except.ok.inj (ht.symm.trans ht')
      obtain ⟨body, hb⟩ := hb hj
      rw [Response.readBody_eq_error_iff.mpr hr] at hb
      exact nomatch hb

/-! ## Classification -/

/-- The failures that get past every guard of classification. -/
inductive Escapes (e : Fault) (bodies : Bodies) : Failure → Prop
  /-- The message is asked for in every category but one. -/
  | message {f : Failure} : e.category ≠ .accessDenied → e.Mute f → Escapes e bodies f
  /-- The constructor that was to set the response has not run. -/
  | response : e.category = .remoteFailure → e.holdsResponse = true →
      e.details.response = none → Escapes e bodies (.missingField e.cls.name "response")
  | context {r : Response} {f : Failure} : e.category = .remoteFailure →
      e.response? = .ok (some r) → e.Untold bodies r f → Escapes e bodies f
  /-- The look at the status of the response fails. -/
  | status {r : Response} {f : Failure} : e.category = .remoteFailure →
      e.response? = .ok (some r) → r.statusField = .failing f →
      f.kind.is .attributeError = false → Escapes e bodies f

end Fault

namespace Classifier

variable {c : Classifier} {g : Guidance} {r : Registry} {e : Fault} {bodies : Bodies}

/-- With guidance the second rule fails on the message only. -/
theorem mute_of_outright {category : Category} {status : Int} {f : Failure}
    (h : (c.guided g).outright category e status = .error f) : e.Mute f := by
  unfold outright at h
  cases hm : e.message with
  | error f' =>
      obtain rfl : f' = f := by simpa [hm] using h
      exact Fault.message_eq_error_iff.mp hm
  | ok m =>
      rw [hm] at h
      exact nomatch h

/-- With guidance the fourth rule fails on the message only. -/
theorem mute_of_declared {category : Category} {f : Failure}
    (h : (c.guided g).declared r category e = .error f) : e.Mute f := by
  unfold declared at h
  cases hm : e.message with
  | error f' =>
      obtain rfl : f' = f := by simpa [hm] using h
      exact Fault.message_eq_error_iff.mp hm
  | ok m =>
      rw [hm] at h
      cases hd : r.find e.cls.lineage with
      | none => rw [hd] at h; exact nomatch h
      | some d => rw [hd] at h; exact nomatch h

theorem mute_of_unanswered {f : Failure} (h : (c.guided g).unanswered r e = .error f) :
    e.Mute f := by
  rw [unanswered_eq_map, mapped_eq_error_iff] at h
  exact mute_of_declared h

/-- With guidance the third rule fails on the message or on the status. -/
theorem mute_or_status_of_relayed {response : Response} {x : RemoteContext} {f : Failure}
    (h : (c.guided g).relayed e response x = .error f) :
    e.Mute f ∨ response.status? = .error f := by
  unfold relayed at h
  cases hm : e.message with
  | error f' =>
      obtain rfl : f' = f := by simpa [hm] using h
      exact Or.inl (Fault.message_eq_error_iff.mp hm)
  | ok m =>
      cases hs : response.status? with
      | error f' =>
          obtain rfl : f' = f := by simpa [hm, hs] using h
          exact Or.inr rfl
      | ok status =>
          rw [hm, hs] at h
          exact nomatch h

/-- What a classification with guidance fails with is an escape. -/
theorem escapes_of_classify {f : Failure}
    (h : ((c.guided g).classify r e bodies).outcome = .error f) : e.Escapes bodies f := by
  unfold classify at h
  cases hc : e.category with
  | accessDenied => rw [hc] at h; exact nomatch h
  | notFound =>
      rw [hc] at h
      exact .message (by rw [hc]; decide) (mute_of_outright h)
  | invalidRequest =>
      rw [hc] at h
      exact .message (by rw [hc]; decide) (mute_of_outright h)
  | illegalState =>
      rw [hc] at h
      exact .message (by rw [hc]; decide) (mute_of_declared h)
  | generic =>
      rw [hc] at h
      exact .message (by rw [hc]; decide) (mute_of_declared h)
  | remoteFailure =>
      -- the looks come in this order: response, context, message, status
      have hd : e.category ≠ .accessDenied := by rw [hc]; decide
      rw [hc] at h
      cases hr : e.response? with
      | error f' =>
          obtain rfl : f' = f := by simpa [hr] using h
          obtain ⟨hh, hn, rfl⟩ := Fault.response?_eq_error_iff.mp hr
          exact .response hc hh hn
      | ok held =>
          rw [hr] at h
          cases held with
          | none => exact .message hd (mute_of_unanswered h)
          | some response =>
              rcases Traced.andThen_eq_error_iff.mp h with hx | ⟨x, -, hv⟩
              · exact .context hc hr (Fault.untold_of_remoteContext hr hx)
              · rcases mute_or_status_of_relayed hv with hm | hs
                · exact .message hd hm
                · obtain ⟨hs, ha⟩ := Response.status?_eq_error_iff.mp hs
                  exact .status hc hr hs ha

/-- Where there is a draft, nothing escapes. -/
theorem not_escapes_of_drafts {d : Draft} (hd : c.Drafts r e bodies d) (f : Failure) :
    ¬ e.Escapes bodies f := by
  intro hf
  cases hf with
  | message hc hm =>
      obtain ⟨m, h⟩ := message_of_drafts hc hd
      rw [Fault.message_eq_error_iff.mpr hm] at h
      exact nomatch h
  | response hc hh hn =>
      have hr := Fault.response?_eq_error_iff.mpr ⟨hh, hn, rfl⟩
      rcases drafts_of_remote hc hd with ⟨m, hr', -⟩ | ⟨response, x, m, status, hr', -⟩
      · rw [hr] at hr'; exact nomatch hr'
      · rw [hr] at hr'; exact nomatch hr'
  | context hc hr hu =>
      obtain ⟨x, m, status, hx, -⟩ := drafts_of_response hc hr hd
      exact Fault.not_untold_of_remoteContext hr hx f hu
  | status hc hr hs ha =>
      obtain ⟨x, m, status, -, -, h, -⟩ := drafts_of_response hc hr hd
      rw [Response.status?_eq_error_iff.mpr ⟨hs, ha⟩] at h
      exact nomatch h

/-- **WHEN CLASSIFICATION RETURNS**: exactly when nothing escapes. -/
theorem classify_guided_returns_iff :
    (∃ v, ((c.guided g).classify r e bodies).outcome = .ok v) ↔
      ∀ f, ¬ e.Escapes bodies f := by
  constructor
  · rintro ⟨v, hv⟩ f
    obtain ⟨d, hd, -⟩ := c.classify_guided_iff.mp hv
    exact not_escapes_of_drafts hd f
  · intro h
    cases hv : ((c.guided g).classify r e bodies).outcome with
    | ok v => exact ⟨v, rfl⟩
    | error f => exact absurd (escapes_of_classify hv) (h f)

end Classifier

/-! ## Handling -/

/-- **WHEN HANDLING RETURNS OR IS REFUSED**: with guidance for a decorator, handling
    ends by its verdict or by the refusal of the channel exactly when nothing escapes
    from classification and the place for exceptions does not break the recorder.
    Whatever else it ends by is one of the escapes, or what breaks the recorder. -/
theorem handle_returns_iff (c : Classifier) (g : Guidance) (registry : RegistryName)
    (rs : Registries) (e : Fault) (slot : Slot) (ch : Channel) (bodies : Bodies) :
    let j := Judge.classifier (c.guided g) registry
    let h := j.handle rs e slot (.sound ch) bodies
    ((∃ v, (j.classify rs e bodies).outcome = .ok v ∧
        (h.outcome = .ok v ∨
          ∃ f, h.outcome = .error f ∧ ch.Refuses f ∧
            f.kind = Known.responseCommitted.kind)) ↔
      (∀ f, ¬ e.Escapes bodies f) ∧ ∀ f, ¬ slot.Breaks f) ∧
    ∀ f, h.outcome = .error f → ch.Refuses f ∨ e.Escapes bodies f ∨ slot.Breaks f := by
  intro j h
  constructor
  · constructor
    · rintro ⟨v, hv, ho⟩
      refine ⟨Classifier.classify_guided_returns_iff.mp ⟨v, hv⟩, ?_⟩
      rcases ho with ho | ⟨f, hf, hr, -⟩
      · exact (Judge.handle_eq_ok_iff.mp ho).2.1
      · rcases Judge.handle_eq_error_iff.mp hf with he | ⟨w, -, hb | ⟨hb, -⟩⟩
        · exact nomatch hv.symm.trans he
        · -- a refusal is ordinary, and what breaks the recorder is not
          obtain ⟨ho⟩ := hb
          exact nomatch hr.isOrdinary.symm.trans ho
        · exact hb
    · rintro ⟨hn, hb⟩
      obtain ⟨v, hv⟩ : ∃ v, (j.classify rs e bodies).outcome = .ok v :=
        Classifier.classify_guided_returns_iff.mpr hn
      refine ⟨v, hv, ?_⟩
      cases hs : (Sink.sound ch).send v.status v.message with
      | ok t => exact Or.inl (Judge.handle_eq_ok_iff.mpr ⟨hv, hb, t, hs⟩)
      | error f =>
          have hr : ch.Refuses f := Sink.send_sound_eq_error_iff.mp hs
          have hf := Judge.handle_eq_error_iff.mpr (Or.inr ⟨v, hv, Or.inr ⟨hb, hs⟩⟩)
          exact Or.inr ⟨f, hf, hr, hr.kind⟩
  · intro f hf
    rcases Judge.handle_eq_error_iff.mp hf with he | ⟨v, -, hb | ⟨-, hs⟩⟩
    · exact Or.inr (Or.inl (Classifier.escapes_of_classify he))
    · exact Or.inr (Or.inr hb)
    · exact Or.inl (Sink.send_sound_eq_error_iff.mp hs)

/-- A failed remote call whose response answered 503 and does not let its headers be
    listed. -/
def Fault.headless : Fault :=
  ⟨Known.remoteCallError.toClass,
    { Details.ofMessage (some "quota service failed") with
      url := some (some "https://quota.test/check")
      response := some (some (.foreign
        { typeName := "RelayResponse", status := .value (.int 503), url := .absent
          headers := .failing (.raised Known.typeError.kind "no header pairs")
          read := .absent })) }⟩

/-- Such headers escape, although scope and channel take every write. -/
theorem unlistable_headers_escape :
    let j := Judge.classifier {} .shared
    let h := j.handle Registries.empty Fault.headless (.sound { requestId := "r-1" }) (.sound {})
      (fun _ => .closed)
    h.outcome = .error (.raised Known.typeError.kind "no header pairs") ∧
      ∀ f, ¬ ({} : Channel).Refuses f := by
  refine ⟨rfl, ?_⟩
  intro f hf
  cases hf with
  | closed h => exact nomatch h
  | committed _ h => exact nomatch h

end FaultResponse
