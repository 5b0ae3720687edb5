import FaultResponse.Handling
import FaultResponse.Proofs.Draft
import FaultResponse.Proofs.Escape
/-! # Rereading — why a second look at an exception tells the same

    Classification is not a function of the exception alone: it may read the body of the
    response, and the read uses the stream up.  What keeps its answer is that one read
    settles a body for good.  The route:

    * `Body.Later`: a body later on is the same, or what one read leaves of it; two reads
      leave no more than one, so the relation composes (`Later.trans`);
    * `classify_later`: a classification moves every body in this way and in no other, so
      any number of them does (`Trial.allAfter_later`);
    * `readBody_again`: a text that was read once is read again from any later bodies;
    * `drafts_again`: hence the draft of an exception is its draft again, and
      `classification_is_stable` finishes it. -/

namespace FaultResponse

/-! ## One body -/

namespace Body

/-- What can have become of a body: nothing, or what a read leaves of it. -/
inductive Later (b : Body) : Body → Prop
  | same : Later b b
  | read : Later b b.read.2

theorem Later.trans {a b c : Body} (h : a.Later b) (h' : b.Later c) : a.Later c := by
  cases h with
  | same => exact h'
  | read =>
      cases h' with
      | same => exact .read
      | read =>
          rw [read_settled]
          exact .read

/-- A body that was read does not change any more. -/
theorem Later.eq_of_read {b c : Body} (h : b.read.2.Later c) : c = b.read.2 := by
  cases h with
  | same => rfl
  | read => exact read_settled b

/-- After a read that failed the next one fails as well, and in a way that is expected,
    whatever the first failure was. -/
theorem read_after_failure {b : Body} {f : Failure} (h : b.read.1 = .error f) :
    ∃ g, b.read.2.read.1 = .error g ∧ Response.isReadFailure g = true := by
  cases b with
  | held octets => exact nomatch h
  | unread chunks fails =>
      cases fails with
      | none => exact nomatch h
      | some f' => exact ⟨.bodyConsumed, rfl, by decide⟩
  | spent => exact ⟨.bodyConsumed, rfl, by decide⟩
  | closed => exact ⟨.bodyClosed, rfl, by decide⟩
  | asynchronous => exact ⟨.bodyAsynchronous, rfl, by decide⟩

end Body

/-! ## All bodies -/

/-- What can have become of all bodies. -/
def Bodies.Later (bodies later : Bodies) : Prop :=
  ∀ id, (bodies id).Later (later id)

namespace Bodies

theorem Later.refl (bodies : Bodies) : bodies.Later bodies := fun _ => .same

theorem Later.trans {a b c : Bodies} (h : a.Later b) (h' : b.Later c) : a.Later c :=
  fun id => (h id).trans (h' id)

/-- Reading one body leaves the others alone. -/
theorem later_set_read (bodies : Bodies) (id : BodyId) :
    bodies.Later (bodies.set id (bodies id).read.2) := by
  intro other
  by_cases h : other = id
  · subst h
    rw [Store.set_self]
    exact .read
  · rw [Store.set_of_ne _ _ h]
    exact .same

end Bodies

/-! ## Reading a response -/

namespace Response

theorem bodies_afterFailure (f : Failure) (bodies : Bodies) :
    (afterFailure f bodies).bodies = bodies := by
  unfold afterFailure
  cases isReadFailure f with
  | true => rfl
  | false => rfl

/-- A failed read that gives a text at all gives none. -/
theorem text_of_afterFailure {f : Failure} {bodies : Bodies} {text : Option Text}
    (h : (afterFailure f bodies).outcome = .ok text) : text = none := by
  unfold afterFailure at h
  cases hf : isReadFailure f with
  | true =>
      rw [hf] at h
      exact (Except.ok.inj h).symm
  | false =>
      rw [hf] at h
      exact nomatch h

theorem afterFailure_of_expected {f : Failure} (h : isReadFailure f = true) (bodies : Bodies) :
    (afterFailure f bodies).outcome = .ok none := by
  unfold afterFailure
  rw [if_pos h]

theorem readBody_known_of_ok {k : KnownResponse} {bodies : Bodies} {octets : List UInt8}
    (h : (bodies k.body).read.1 = .ok octets) :
    (known k).readBody bodies =
      ⟨.ok (some (Text.Utf8.decode octets)), bodies.set k.body (bodies k.body).read.2, []⟩ := by
  unfold readBody
  simp only [h]

theorem readBody_known_of_error {k : KnownResponse} {bodies : Bodies} {f : Failure}
    (h : (bodies k.body).read.1 = .error f) :
    (known k).readBody bodies = afterFailure f (bodies.set k.body (bodies k.body).read.2) := by
  unfold readBody
  simp only [h]

/-- The bodies after a known response was read. -/
theorem bodies_readBody_known (k : KnownResponse) (bodies : Bodies) :
    ((known k).readBody bodies).bodies = bodies.set k.body (bodies k.body).read.2 := by
  cases hb : (bodies k.body).read.1 with
  | ok octets => rw [readBody_known_of_ok hb]
  | error f => rw [readBody_known_of_error hb, bodies_afterFailure]

/-- Another client's response does not take part in the bodies. -/
theorem bodies_readBody_foreign (k : ForeignResponse) (bodies : Bodies) :
    ((foreign k).readBody bodies).bodies = bodies := by
  unfold readBody
  cases hr : k.read with
  | absent => simp only [hr, withoutBody]
  | value v => simp only [hr]
  | failing f => simp only [hr, bodies_afterFailure]
  | hidden f =>
      simp only [hr]
      cases f.kind.is .attributeError with
      | true => rfl
      | false => rfl

/-- What another client's read gives does not depend on the bodies. -/
theorem outcome_readBody_foreign (k : ForeignResponse) (bodies bodies' : Bodies) :
    ((foreign k).readBody bodies).outcome = ((foreign k).readBody bodies').outcome := by
  unfold readBody
  cases hr : k.read with
  | absent => simp only [hr, withoutBody]
  | value v => simp only [hr]
  | failing f =>
      simp only [hr]
      unfold afterFailure
      cases isReadFailure f with
      | true => rfl
      | false => rfl
  | hidden f =>
      simp only [hr]
      cases f.kind.is .attributeError with
      | true => rfl
      | false => rfl

theorem readBody_later (r : Response) (bodies : Bodies) :
    bodies.Later (r.readBody bodies).bodies := by
  cases r with
  | known k =>
      rw [bodies_readBody_known]
      exact bodies.later_set_read k.body
  | foreign k =>
      rw [bodies_readBody_foreign]
      exact .refl bodies

/-- **A SECOND READING** gives the text of the first one, or again none. -/
theorem readBody_again {r : Response} {bodies later : Bodies} {text : Option Text}
    (h : (r.readBody bodies).outcome = .ok text)
    (hl : (r.readBody bodies).bodies.Later later) : (r.readBody later).outcome = .ok text := by
  cases r with
  | foreign k =>
      rw [outcome_readBody_foreign k later bodies]
      exact h
  | known k =>
      -- the first reading settled the body of this response
      have hbody : later k.body = (bodies k.body).read.2 := by
        have hk := hl k.body
        rw [bodies_readBody_known, Store.set_self] at hk
        exact hk.eq_of_read
      cases hb : (bodies k.body).read.1 with
      | ok octets =>
          have hagain : (later k.body).read.1 = .ok octets := by
            rw [hbody, Body.read_again hb]
            rfl
          rw [readBody_known_of_ok hb] at h
          rw [readBody_known_of_ok hagain]
          exact h
      | error f =>
          obtain ⟨g, hg, hexpected⟩ := Body.read_after_failure hb
          rw [← hbody] at hg
          rw [readBody_known_of_error hb] at h
          rw [readBody_known_of_error hg, text_of_afterFailure h]
          exact afterFailure_of_expected hexpected _

end Response

/-! ## Telling a context -/

namespace Fault

variable {e : Fault} {r : Response} {bodies : Bodies}

/-- Without a response the context is the address. -/
theorem remoteContext_of_unanswered (hr : e.response? = .ok none) (bodies : Bodies) :
    e.remoteContext bodies = ⟨(e.remoteUrl none).map (⟨·, none⟩), bodies, []⟩ := by
  unfold remoteContext
  simp only [hr]
  cases e.remoteUrl none with
  | error f => rfl
  | ok url => rfl

theorem remoteContext_of_unset_response {f : Failure} (hr : e.response? = .error f)
    (bodies : Bodies) : e.remoteContext bodies = ⟨.error f, bodies, []⟩ := by
  unfold remoteContext
  simp only [hr]

/-- The context of a failed call with a response, once address and content type are
    told: a JSON body is read, and any other one is left alone. -/
theorem remoteContext_of_told {url type : Option Text} (hr : e.response? = .ok (some r))
    (hu : e.remoteUrl (some r) = .ok url) (ht : r.contentType = .ok type) (bodies : Bodies) :
    e.remoteContext bodies =
      if Response.isJson type then (r.readBody bodies).map (⟨url, ·⟩)
      else ⟨.ok ⟨url, none⟩, bodies, []⟩ := by
  unfold remoteContext
  simp only [hr, hu, ht]

/-- Before address and content type are told nothing is read and nothing is written. -/
theorem remoteContext_cases (hr : e.response? = .ok (some r)) :
    (∃ f, ∀ bodies, e.remoteContext bodies = ⟨.error f, bodies, []⟩) ∨
      ∃ url type, e.remoteUrl (some r) = .ok url ∧ r.contentType = .ok type := by
  cases hu : e.remoteUrl (some r) with
  | error f =>
      refine Or.inl ⟨f, ?_⟩
      intro bodies
      unfold remoteContext
      simp only [hr, hu]
  | ok url =>
      cases ht : r.contentType with
      | error f =>
          refine Or.inl ⟨f, ?_⟩
          intro bodies
          unfold remoteContext
          simp only [hr, hu, ht]
      | ok type => exact Or.inr ⟨url, type, rfl, rfl⟩

theorem remoteContext_later (hr : e.response? = .ok (some r)) (bodies : Bodies) :
    bodies.Later (e.remoteContext bodies).bodies := by
  rcases remoteContext_cases hr with ⟨f, hf⟩ | ⟨url, type, hu, ht⟩
  · rw [hf]
    exact .refl bodies
  · rw [remoteContext_of_told hr hu ht]
    cases Response.isJson type with
    | true =>
        rw [if_pos rfl, Traced.bodies_map]
        exact r.readBody_later bodies
    | false => exact .refl bodies

/-- What is told about a failed call can be told again. -/
theorem remoteContext_again {x : RemoteContext} {later : Bodies}
    (hr : e.response? = .ok (some r)) (h : (e.remoteContext bodies).outcome = .ok x)
    (hl : (e.remoteContext bodies).bodies.Later later) :
    (e.remoteContext later).outcome = .ok x := by
  obtain ⟨url, type, hu, ht, -⟩ := remoteContext_parts hr h
  rw [remoteContext_of_told hr hu ht] at h hl ⊢
  cases hj : Response.isJson type with
  | false =>
      rw [hj] at h
      exact h
  | true =>
      rw [hj, if_pos rfl] at h hl
      rw [if_pos rfl]
      rw [Traced.bodies_map] at hl
      rw [Traced.outcome_map, mapped_eq_ok_iff] at h ⊢
      obtain ⟨text, htext, hx⟩ := h
      exact ⟨text, Response.readBody_again htext hl, hx⟩

end Fault

/-! ## Classification -/

namespace Classifier

variable {c : Classifier} {r : Registry} {e : Fault} {bodies : Bodies}

/-- The third rule is chosen by the category and the response. -/
theorem classify_of_response {response : Response} (hc : e.category = .remoteFailure)
    (hr : e.response? = .ok (some response)) :
    c.classify r e bodies = (e.remoteContext bodies).andThen (c.relayed e response) := by
  unfold classify
  rw [hc, hr]

/-- No other rule looks at a body or writes a record. -/
theorem classify_of_not_relayed (c : Classifier) (r : Registry) (h : e.isRelayed = false) :
    ∃ outcome, ∀ bodies, c.classify r e bodies = ⟨outcome, bodies, []⟩ := by
  unfold classify
  cases hc : e.category with
  | accessDenied | notFound | invalidRequest | illegalState | generic => exact ⟨_, fun _ => rfl⟩
  | remoteFailure =>
      cases hr : e.response? with
      | error f => exact ⟨_, fun _ => rfl⟩
      | ok held =>
          cases held with
          | none => exact ⟨_, fun _ => rfl⟩
          | some response => exact nomatch (Fault.isRelayed_of_response hc hr).symm.trans h

theorem bodies_classify_of_not_relayed (h : e.isRelayed = false) :
    (c.classify r e bodies).bodies = bodies := by
  obtain ⟨outcome, ho⟩ := c.classify_of_not_relayed r h
  rw [ho]

/-- A classification reads bodies, and does nothing else to them. -/
theorem classify_later (c : Classifier) (r : Registry) (e : Fault) (bodies : Bodies) :
    bodies.Later (c.classify r e bodies).bodies := by
  cases h : e.isRelayed with
  | false =>
      rw [bodies_classify_of_not_relayed h]
      exact .refl bodies
  | true =>
      obtain ⟨hc, response, hr⟩ := Fault.response_of_isRelayed h
      rw [classify_of_response hc hr, Traced.bodies_andThen]
      exact Fault.remoteContext_later hr bodies

/-- **A DRAFT STAYS A DRAFT**, whatever is read after the classification that made it. -/
theorem drafts_again {d : Draft} {later : Bodies} (hd : c.Drafts r e bodies d)
    (hl : (c.classify r e bodies).bodies.Later later) : c.Drafts r e later d := by
  cases hd with
  | denied hc => exact .denied hc
  | outright hs hm => exact .outright hs hm
  | declared hc hm => exact .declared hc hm
  | unanswered hc hr hm => exact .unanswered hc hr hm
  | relayed hc hr hx hm hs =>
      rw [classify_of_response hc hr, Traced.bodies_andThen] at hl
      exact .relayed hc hr (Fault.remoteContext_again hr hx hl) hm hs

end Classifier

/-! ## Any number of classifications -/

/-- One exception before one judge. -/
structure Trial where
  judge : Judge
  registries : Registries
  fault : Fault

namespace Trial

/-- The bodies after one trial. -/
def bodiesAfter (t : Trial) (bodies : Bodies) : Bodies :=
  (t.judge.classify t.registries t.fault bodies).bodies

/-- The bodies after trials one by one. -/
def allAfter (trials : List Trial) (bodies : Bodies) : Bodies :=
  trials.foldl (fun bodies t => t.bodiesAfter bodies) bodies

/-- One trial reads bodies, and does nothing else to them. -/
theorem bodiesAfter_later (t : Trial) (bodies : Bodies) : bodies.Later (t.bodiesAfter bodies) := by
  unfold bodiesAfter
  cases t.judge with
  | classifier c name => exact c.classify_later _ _ bodies
  | fixed v => exact .refl bodies

/-- Any number of trials does no more than one. -/
theorem allAfter_later (trials : List Trial) (bodies : Bodies) :
    bodies.Later (allAfter trials bodies) := by
  induction trials generalizing bodies with
  | nil => exact .refl bodies
  | cons t rest ih => exact (t.bodiesAfter_later bodies).trans (ih (t.bodiesAfter bodies))

end Trial

/-- **CLASSIFICATION IS STABLE**: an exception that was classified once is classified
    again, with the same verdict, after any other classifications by any judges of any
    exceptions, also of those that share its response. -/
theorem classification_is_stable (c : Classifier) (r : Registry) (e : Fault) {bodies : Bodies}
    {v : Verdict} (h : (c.classify r e bodies).outcome = .ok v) (others : List Trial) :
    (c.classify r e (Trial.allAfter others (c.classify r e bodies).bodies)).outcome = .ok v := by
  obtain ⟨d, hd, hf⟩ := c.classify_eq_ok_iff.mp h
  have hl : (c.classify r e bodies).bodies.Later
      (Trial.allAfter others (c.classify r e bodies).bodies) :=
    Trial.allAfter_later others _
  exact c.classify_eq_ok_iff.mpr ⟨d, Classifier.drafts_again hd hl, hf⟩

/-- A failed remote call that holds the first response received, a JSON document that is
    still to be read. -/
def Fault.streaming (k : Known) : Fault :=
  ⟨k.toClass,
    { Details.ofMessage (some "quota service failed") with
      url := some (some "https://quota.test/check")
      response := some (some (.known
        { body := 0, status := 503, headers := [("content-type", "application/json")]
          url := none })) }⟩

/-- Two exceptions share a stream.  When it breaks off, neither of them ever gets a body;
    when it does not, the first reading gives the body and every later one repeats it. -/
theorem shared_stream_is_told_alike :
    let c : Classifier := {}
    let e := Fault.streaming .remoteCallError
    let others : List Trial :=
      [⟨.classifier {} .shared, .empty, Fault.streaming .httpStatusError⟩,
        ⟨.classifier {} .shared, .empty, e⟩]
    let broken : Bodies := fun _ =>
      .unread [[0x7B]] (some (.raised Known.readError.kind "stream failed"))
    let whole : Bodies := fun _ => .unread [[0x7B], [0x7D]] none
    ((c.classify .empty e broken).bodies 0 = .spent ∧
        ∃ v, (c.classify .empty e broken).outcome = .ok v ∧
          v.context = [("url", .text "https://quota.test/check")] ∧
          (c.classify .empty e
            (Trial.allAfter others (c.classify .empty e broken).bodies)).outcome = .ok v) ∧
      ∃ v, (c.classify .empty e whole).outcome = .ok v ∧
        v.context = [("url", .text "https://quota.test/check"), ("body", .text "\x7b\x7d")] ∧
        (c.classify .empty e
          (Trial.allAfter others (c.classify .empty e whole).bodies)).outcome = .ok v := by
  intro c e others broken whole
  have hbroken : (c.classify .empty e broken).outcome = .ok _ := rfl
  have hwhole : (c.classify .empty e whole).outcome = .ok _ := rfl
  exact ⟨⟨rfl, _, hbroken, rfl, classification_is_stable c .empty e hbroken others⟩,
    _, hwhole, by decide, classification_is_stable c .empty e hwhole others⟩

end FaultResponse
