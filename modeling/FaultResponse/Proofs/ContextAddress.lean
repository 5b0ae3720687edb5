import FaultResponse.Proofs.ContextContract
/-! # The address in a context — where it comes from, and when it is lost

    Three places may know the address of a failed call: the error that reports it, the
    response, and the request that a client's error keeps.  A context tells what a single
    look for the address gave (`url_of_remoteContext`), and that look asks one place only:

    * an error of this library names the address itself, whatever the response offers;
    * an error of the client leaves it to the response.  The request is asked only where no
      response was received, so with a response that has no address the context has none
      either: `address_is_lost_iff`. -/

namespace FaultResponse

namespace Fault

/-- The address that is known of a call whose response came to the client of this
    library: that of the response, and else that of the request which the error keeps. -/
def knownAddress (e : Fault) (k : KnownResponse) : Option Text :=
  k.url.or e.details.request.join

variable {e : Fault} {bodies : Bodies} {x : RemoteContext}

/-! ## The look for the address -/

/-- **A CONTEXT TELLS WHAT THE LOOK FOR THE ADDRESS GAVE**, with a response and without. -/
theorem url_of_remoteContext (h : (e.remoteContext bodies).outcome = .ok x) :
    ∃ response, e.response? = .ok response ∧ e.remoteUrl response = .ok x.url := by
  cases hr : e.response? with
  | error f =>
      rw [remoteContext_of_unset_response hr] at h
      exact nomatch h
  | ok held =>
      refine ⟨held, rfl, ?_⟩
      cases held with
      | none =>
          rw [remoteContext_of_unanswered hr, mapped_eq_ok_iff] at h
          obtain ⟨url, hu, rfl⟩ := h
          exact hu
      | some r =>
          obtain ⟨url, type, hu, ht, -⟩ := remoteContext_parts hr h
          rw [remoteContext_of_told hr hu ht] at h
          -- the body that may be read on the way does not change the address
          cases hj : Response.isJson type with
          | false =>
              rw [hj] at h
              obtain rfl := Except.ok.inj h
              exact hu
          | true =>
              rw [hj, if_pos rfl, Traced.outcome_map, mapped_eq_ok_iff] at h
              obtain ⟨body, -, rfl⟩ := h
              exact hu

theorem remoteUrl_of_remoteCall (hc : e.is .remoteCallError = true) (r : Option Response) :
    e.remoteUrl r = e.part "url" e.details.url :=
  if_pos hc

/-- An error of the client does not look beyond the response. -/
theorem remoteUrl_of_known (hc : e.is .remoteCallError = false) (k : KnownResponse) :
    e.remoteUrl (some (.known k)) = .ok k.url :=
  if_neg (Bool.eq_false_iff.mp hc)

/-! ## Both kinds of errors -/

theorem url_of_remoteCall (hc : e.is .remoteCallError = true)
    (h : (e.remoteContext bodies).outcome = .ok x) : e.details.url = some x.url := by
  obtain ⟨response, -, hu⟩ := url_of_remoteContext h
  rw [remoteUrl_of_remoteCall hc] at hu
  cases hd : e.details.url with
  | none =>
      rw [hd] at hu
      exact nomatch hu
  | some url =>
      rw [hd] at hu
      exact congrArg some (Except.ok.inj hu)

theorem url_of_known {k : KnownResponse} (hc : e.is .remoteCallError = false)
    (hr : e.response? = .ok (some (.known k))) (h : (e.remoteContext bodies).outcome = .ok x) :
    x.url = k.url := by
  obtain ⟨response, hr', hu⟩ := url_of_remoteContext h
  obtain rfl := Except.ok.inj (hr.symm.trans hr')
  rw [remoteUrl_of_known hc] at hu
  exact (Except.ok.inj hu).symm

/-- With a response of the known client only the read of a declared document can fail. -/
theorem told_of_known {k : KnownResponse} (hc : e.is .remoteCallError = false)
    (hr : e.response? = .ok (some (.known k))) :
    (∃ x, (e.remoteContext bodies).outcome = .ok x) ↔
      ¬ ∃ f, (Response.known k).DeclaresJson ∧ ((Response.known k).reading bodies).Loses f := by
  constructor
  · rintro ⟨x, hx⟩ ⟨f, hj, hl⟩
    obtain ⟨r, hr', hu⟩ := untold_of_refused (.unread hr hj hl)
    exact not_untold_of_remoteContext hr' hx f hu
  · intro hkeeps
    cases hx : (e.remoteContext bodies).outcome with
    | ok x => exact ⟨x, rfl⟩
    | error f =>
        refine absurd ?_ hkeeps
        cases untold_of_remoteContext hr hx with
        | address ha =>
            cases ha with
            | unset hc' => exact nomatch hc.symm.trans hc'
        | headers hh => exact nomatch hh
        | body hj hu =>
            exact ⟨f, Response.announcesJson_iff.mp hj, Response.unread_iff.mp hu⟩

/-- What is told differs from what is known where only the request has an address. -/
theorem url_ne_knownAddress_iff {k : KnownResponse} :
    k.url ≠ e.knownAddress k ↔ k.url = none ∧ ∃ own, e.details.request = some (some own) := by
  show k.url ≠ k.url.or e.details.request.join ↔ _
  cases k.url with
  | some url => exact iff_of_false (fun h => h rfl) nofun
  | none =>
      rw [Option.none_or, ne_comm, ← Option.isSome_iff_ne_none, Option.isSome_iff_exists]
      simp only [Option.join_eq_some_iff, true_and]

end Fault

/-! ## The whole -/

/-- **THE ADDRESS IN A CONTEXT**, for any body and any headers.  An error of this library
    gives its own address, whatever the response offers.  An error of the client with a
    response of the known client gives the address of the response: the context is told
    unless a declared document is read and that fails unexpectedly, it has no address
    exactly if the response has none, and the known address is lost exactly when the
    response has none but the request has one. -/
theorem address_is_lost_iff (e : Fault) (bodies : Bodies) :
    (∀ x, e.is .remoteCallError = true → (e.remoteContext bodies).outcome = .ok x →
      e.details.url = some x.url) ∧
    ∀ k, e.is .httpStatusError = true → e.is .remoteCallError = false →
      e.response? = .ok (some (.known k)) →
      ((∃ x, (e.remoteContext bodies).outcome = .ok x) ↔
        ¬ ∃ f, (Response.known k).DeclaresJson ∧
          ((Response.known k).reading bodies).Loses f) ∧
      ∀ x, (e.remoteContext bodies).outcome = .ok x →
        x.url = k.url ∧
        (x.url ≠ e.knownAddress k ↔
          k.url = none ∧ ∃ own, e.details.request = some (some own)) := by
  constructor
  · intro x hc hx
    exact Fault.url_of_remoteCall hc hx
  · intro k _ hc hr
    refine ⟨Fault.told_of_known hc hr, ?_⟩
    intro x hx
    have hurl : x.url = k.url := Fault.url_of_known hc hr hx
    refine ⟨hurl, ?_⟩
    rw [hurl]
    exact Fault.url_ne_knownAddress_iff

/-- The error of a call to a service that answered 503, with or without an address. -/
def Fault.refusedCheck (url : Option Text) : Fault :=
  ⟨Known.httpStatusError.toClass,
    { arguments := [.text "quota service failed"]
      request := some (some "https://quota.test/check")
      response := some (some (.known ⟨0, 503, [("content-type", "application/json")], url⟩)) }⟩

/-- A response that knows its address has it told, although its stream breaks off. -/
theorem answering_address_is_told :
    let e := Fault.refusedCheck (some "https://quota.test/v2/check")
    let bodies : Bodies := fun _ => .unread [[123]] (some (.raised Known.readError.kind "reset"))
    e.is .httpStatusError = true ∧ e.is .remoteCallError = false ∧
      ∃ k x, e.response? = .ok (some (.known k)) ∧ (e.remoteContext bodies).outcome = .ok x ∧
        x.url = some "https://quota.test/v2/check" ∧ x.url = e.knownAddress k := by
  intro e bodies
  have hx : (e.remoteContext bodies).outcome
      = .ok ⟨some "https://quota.test/v2/check", none⟩ := rfl
  have hown := ((address_is_lost_iff e bodies).2 _ rfl rfl rfl).2 _ hx
  refine ⟨rfl, rfl, _, _, rfl, hx, hown.1, ?_⟩
  by_contra hlost
  exact nomatch (hown.2.mp hlost).1

/-- The request of a call whose response came without an address is not asked. -/
theorem response_without_address_hides_request :
    let spec : FaultSpec :=
      { cls := Known.httpStatusError.toClass, message := some "quota service failed"
        request := some "https://quota.test/check"
        response := some (.known 503 [] none (.content []) false) }
    ∃ e i k x, Fault.build spec {} = .ok (e, i) ∧ e.response? = .ok (some (.known k)) ∧
      e.is .httpStatusError = true ∧ e.is .remoteCallError = false ∧
      (e.remoteContext i.bodies).outcome = .ok x ∧
      e.knownAddress k = some "https://quota.test/check" ∧ x.url = none :=
  ⟨_, _, _, _, rfl, rfl, rfl, rfl, rfl, rfl, rfl⟩

end FaultResponse
