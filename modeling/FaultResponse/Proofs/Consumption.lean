import FaultResponse.Fault.Build
import FaultResponse.Class.Define
import FaultResponse.Proofs.InFlight
import FaultResponse.Proofs.ResponseReading
/-! # Consumption — which body a classification reads

    The one thing that classification changes is the body of the response that an exception
    holds, and a stream that was read is not there for anybody else to stream.  So it has to
    be read where it is told, and nowhere else:

    * `Consumes` says whose body is read: that of a failed remote call, for which the
      response declares JSON and the address is told;
    * `classify_of_consumes` and `classify_of_spared`: this body is read once, and every
      other one is left as it was, also where classification fails;
    * `allAfter_of_consumed` and `allAfter_of_spared`: the same for any number of
      classifications, by induction, since a second read leaves what the first one left. -/

namespace FaultResponse

namespace Fault

/-- Classifying the exception reads this body: the exception is judged as a failed remote
    call, the body is that of its response, and it is told beside the address. -/
structure Consumes (e : Fault) (id : BodyId) : Prop where
  category : e.category = .remoteFailure
  held : ∃ k, e.response? = .ok (some (.known k)) ∧ k.body = id ∧
    (Response.known k).DeclaresJson ∧ ∃ url, e.remoteUrl (some (.known k)) = .ok url

variable {e : Fault} {k : KnownResponse} {bodies : Bodies}

theorem remoteContext_of_json (hr : e.response? = .ok (some (.known k))) {url : Option Text}
    (hu : e.remoteUrl (some (.known k)) = .ok url) (hj : (Response.known k).DeclaresJson) :
    (e.remoteContext bodies).bodies = bodies.set k.body (bodies k.body).read.2 := by
  obtain ⟨type, ht, hjson⟩ := Response.announcesJson_iff.mpr hj
  rw [remoteContext_of_told hr hu ht, if_pos hjson, Traced.bodies_map,
    Response.bodies_readBody_known]

/-- No body is read on the way to a refusal, or for a response that declares something
    else. -/
theorem remoteContext_of_unneeded (hr : e.response? = .ok (some (.known k)))
    (h : ¬ ((Response.known k).DeclaresJson ∧ ∃ url, e.remoteUrl (some (.known k)) = .ok url)) :
    (e.remoteContext bodies).bodies = bodies := by
  rcases remoteContext_cases hr with ⟨f, hf⟩ | ⟨url, type, hu, ht⟩
  · rw [hf]
  · rw [remoteContext_of_told hr hu ht]
    cases hjson : Response.isJson type with
    | true => exact absurd ⟨Response.announcesJson_iff.mp ⟨type, ht, hjson⟩, url, hu⟩ h
    | false => rfl

end Fault

/-! ## One classification -/

namespace Classifier

variable {e : Fault} {id : BodyId} {bodies : Bodies} (c : Classifier) (r : Registry)

/-- **WHAT IS NEEDED IS READ**, once. -/
theorem classify_of_consumes (h : e.Consumes id) :
    (c.classify r e bodies).bodies = bodies.set id (bodies id).read.2 := by
  obtain ⟨hc, k, hr, rfl, hj, url, hu⟩ := h
  rw [classify_of_response hc hr, Traced.bodies_andThen, Fault.remoteContext_of_json hr hu hj]

/-- **NOTHING ELSE IS READ**. -/
theorem classify_of_spared (h : ¬ e.Consumes id) :
    (c.classify r e bodies).bodies id = bodies id := by
  cases hrelayed : e.isRelayed with
  | false => rw [bodies_classify_of_not_relayed hrelayed]
  | true =>
      obtain ⟨hc, response, hr⟩ := Fault.response_of_isRelayed hrelayed
      by_cases hid : response.body? = some id
      · cases response with
        | foreign k => exact nomatch hid
        | known k =>
            obtain rfl : k.body = id := Option.some.inj hid
            rw [classify_of_response hc hr, Traced.bodies_andThen,
              Fault.remoteContext_of_unneeded hr]
            rintro ⟨hj, hu⟩
            exact h ⟨hc, k, hr, rfl, hj, hu⟩
      · exact c.classify_frame r fun hbody => hid (Fault.body?_of_response hr ▸ hbody)

end Classifier

/-! ## Any number of classifications -/

namespace Trial

/-- The trial reads this body; a judge whose verdict is fixed reads none. -/
def Consumes (t : Trial) (id : BodyId) : Prop :=
  match t.judge with
  | .classifier .. => t.fault.Consumes id
  | .fixed _ => False

variable {id : BodyId}

theorem bodiesAfter_of_consumes {t : Trial} (h : t.Consumes id) (bodies : Bodies) :
    t.bodiesAfter bodies id = (bodies id).read.2 := by
  unfold Consumes at h
  unfold bodiesAfter
  cases hj : t.judge with
  | fixed v =>
      rw [hj] at h
      exact h.elim
  | classifier c name =>
      rw [hj] at h
      show (c.classify (t.registries name) t.fault bodies).bodies id = _
      rw [c.classify_of_consumes _ h, Store.set_self]

theorem bodiesAfter_of_spared {t : Trial} (h : ¬ t.Consumes id) (bodies : Bodies) :
    t.bodiesAfter bodies id = bodies id := by
  unfold Consumes at h
  unfold bodiesAfter
  cases hj : t.judge with
  | fixed v => rfl
  | classifier c name =>
      rw [hj] at h
      exact c.classify_of_spared _ h

theorem allAfter_of_spared {trials : List Trial} (h : ∀ t ∈ trials, ¬ t.Consumes id)
    (bodies : Bodies) : allAfter trials bodies id = bodies id := by
  induction trials generalizing bodies with
  | nil => rfl
  | cons t rest ih =>
      show allAfter rest (t.bodiesAfter bodies) id = bodies id
      rw [ih (fun t' ht' => h t' (List.mem_cons_of_mem t ht')),
        bodiesAfter_of_spared (h t List.mem_cons_self)]

/-- However often a body is read, it is as one read leaves it. -/
theorem allAfter_of_consumed {trials : List Trial} {t : Trial} (ht : t ∈ trials)
    (h : t.Consumes id) (bodies : Bodies) : allAfter trials bodies id = (bodies id).read.2 := by
  induction trials generalizing bodies with
  | nil => exact nomatch ht
  | cons t' rest ih =>
      show allAfter rest (t'.bodiesAfter bodies) id = _
      by_cases hfirst : t'.Consumes id
      · -- this one reads it, and the later ones leave what is read
        have hread := bodiesAfter_of_consumes hfirst bodies
        have hlater := allAfter_later rest (t'.bodiesAfter bodies) id
        rw [hread] at hlater
        exact hlater.eq_of_read
      · have hrest : t ∈ rest := by
          rcases List.mem_cons.mp ht with rfl | ht
          · exact absurd h hfirst
          · exact ht
        rw [ih hrest, bodiesAfter_of_spared hfirst]

end Trial

/-- A body that can be read in full can be read in full later on. -/
theorem Body.Later.read_full {b later : Body} (h : b.Later later) {octets : List UInt8}
    (hb : b.read.1 = .ok octets) : later.read.1 = .ok octets := by
  cases h with
  | same => exact hb
  | read =>
      rw [read_again hb]
      rfl

/-! ## The whole -/

/-- **RESPONSES ARE CONSUMED WHEN NEEDED**, for every exception, registry, guidance and
    state of the bodies, whether classification returns or fails; handling leaves the bodies
    as classification does.  A body is left exactly as it was unless the exception is judged
    as a failed remote call, the body is that of its response, and this declares JSON; so a
    stream of any other type, or one that an exception of another category holds, still
    gives all its pieces.  A body that is read is read once, and what could be read in full
    can be read in full again.  All this holds of any number of classifications, by any
    judges, of any exceptions. -/
theorem responses_are_consumed_when_needed (c : Classifier) (name : RegistryName)
    (rs : Registries) (e : Fault) (bodies : Bodies) :
    let j := Judge.classifier c name
    let after : Bodies := (j.classify rs e bodies).bodies
    (∀ slot sink, (j.handle rs e slot sink bodies).bodies = after) ∧
    (∀ id, ¬ e.Consumes id → after id = bodies id) ∧
    (∀ id, e.Consumes id → after id = (bodies id).read.2) ∧
    (∀ (k : KnownResponse) (chunks : List (List UInt8)), e.response? = .ok (some (.known k)) →
      e.category ≠ .remoteFailure ∨ ¬ (Response.known k).DeclaresJson →
      bodies k.body = .unread chunks none →
      after k.body = .unread chunks none ∧ (after k.body).read.1 = .ok chunks.flatten) ∧
    (∀ id octets, (bodies id).read.1 = .ok octets → (after id).read.1 = .ok octets) ∧
    ∀ (trials : List Trial) (id : BodyId),
      let last := Trial.allAfter trials bodies id
      ((∀ t ∈ trials, ¬ t.Consumes id) → last = bodies id) ∧
      ((∃ t ∈ trials, t.Consumes id) → last = (bodies id).read.2) ∧
      ∀ octets, (bodies id).read.1 = .ok octets → last.read.1 = .ok octets := by
  intro j after
  have hspared : ∀ id, ¬ e.Consumes id → after id = bodies id := fun _ h =>
    c.classify_of_spared (rs name) h
  refine ⟨j.bodies_handle rs, hspared, ?_, ?_, ?_, ?_⟩
  · intro id h
    show (c.classify (rs name) e bodies).bodies id = _
    rw [c.classify_of_consumes (rs name) h, Store.set_self]
  · intro k chunks hr hfree hb
    have hnot : ¬ e.Consumes k.body := by
      rintro ⟨hc, k', hr', -, hj, -⟩
      have hsame := Option.some.inj (Except.ok.inj (hr.symm.trans hr'))
      obtain rfl : k = k' := Response.known.inj hsame
      rcases hfree with hc' | hj'
      · exact hc' hc
      · exact hj' hj
    rw [hspared _ hnot, hb]
    exact ⟨rfl, rfl⟩
  · intro id octets hb
    exact (c.classify_later (rs name) e bodies id).read_full hb
  · intro trials id last
    refine ⟨fun h => Trial.allAfter_of_spared h bodies, ?_, ?_⟩
    · rintro ⟨t, ht, h⟩
      exact Trial.allAfter_of_consumed ht h bodies
    · intro octets hb
      exact (Trial.allAfter_later trials bodies id).read_full hb

/-- A failed remote call that is also a denied access, and is judged as that. -/
def deniedCall : Class :=
  ⟨{ id := .defined 0, name := "DeniedCall", home := "app.errors", qualname := "DeniedCall"
     text := none, attributes := none },
    [Known.accessDenied, .remoteCallError, .domainError, .exception, .baseException,
      .object].map Known.head⟩

/-- Its JSON stream is left alone.  A failed call that is judged as one and holds the same
    response reads it, and what was read is there for the next reader. -/
theorem denied_call_leaves_its_stream :
    let arriving : ResponseSpec :=
      .known 503 [("content-type", "application/json")] none (.stream [[0x7B], [0x7D]] none) false
    let response := (({} : Intake).take arriving).1
    let intake := (({} : Intake).take arriving).2
    let call := Fault.streaming .remoteCallError
    let e : Fault := ⟨deniedCall, call.details⟩
    let j := Judge.classifier {} .shared
    Class.define 0 ⟨"DeniedCall", [Known.accessDenied.toClass, Known.remoteCallError.toClass],
        "app.errors", none, none, none⟩ = .ok deniedCall ∧
      Fault.build { cls := deniedCall, message := some "quota service failed"
                    url := some "https://quota.test/check", response := some arriving } {}
        = .ok (e, intake) ∧
      call.response? = .ok (some response) ∧ e.response? = .ok (some response) ∧
      (j.classify .empty e intake.bodies).bodies 0 = .unread [[0x7B], [0x7D]] none ∧
      (j.classify .empty call intake.bodies).bodies 0 = .held [0x7B, 0x7D] ∧
      ((j.classify .empty call intake.bodies).bodies 0).read.1 = .ok [0x7B, 0x7D] := by
  intro arriving response intake call e j
  have hcall : call.Consumes 0 := by
    refine ⟨rfl, _, rfl, rfl, ?_, _, rfl⟩
    exact Response.announcesJson_iff.mp ⟨some "application/json", rfl, by decide⟩
  have hdenied : e.category = .accessDenied := rfl
  obtain ⟨-, -, -, hleft, -⟩ := responses_are_consumed_when_needed {} .shared .empty e
    intake.bodies
  obtain ⟨-, -, hread, -, hfull, -⟩ := responses_are_consumed_when_needed {} .shared .empty call
    intake.bodies
  refine ⟨rfl, rfl, rfl, rfl, ?_, hread 0 hcall, hfull 0 [0x7B, 0x7D] rfl⟩
  exact (hleft _ [[0x7B], [0x7D]] rfl (Or.inl (by rw [hdenied]; decide)) rfl).1

end FaultResponse
