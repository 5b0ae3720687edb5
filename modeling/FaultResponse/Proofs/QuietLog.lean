import FaultResponse.Classifier
import FaultResponse.Proofs.Outcome
/-! # Quiet logs — what only DEBUG shows

    What a response holds may be written at DEBUG and nowhere else.  Two logs are seen
    alike when no level above DEBUG tells them apart, and records at DEBUG never do.

    Classification is quiet in that sense (`classify_log_debug`): the reading of a body
    writes about that body only (`classify_log`), at DEBUG and without attributes, and
    the rules write nothing. -/

namespace FaultResponse

/-- A log in which only DEBUG records stand. -/
def DebugOnly (log : List LogRecord) : Prop :=
  ∀ r ∈ log, r.severity = .debug

theorem DebugOnly.singleton {r : LogRecord} (h : r.severity = .debug) : DebugOnly [r] := by
  intro r' hr
  rw [List.mem_singleton.mp hr]
  exact h

/-- Two logs that show the same above DEBUG. -/
def SeenAlike (log log' : List LogRecord) : Prop :=
  ∀ level : Int, Severity.debug.level < level → visibleAt level log = visibleAt level log'

namespace SeenAlike

variable {log log' more more' : List LogRecord}

theorem refl (log : List LogRecord) : SeenAlike log log := fun _ _ => rfl

theorem append (h : SeenAlike log log') (h' : SeenAlike more more') :
    SeenAlike (log ++ more) (log' ++ more') := by
  intro level hl
  rw [visibleAt_append, visibleAt_append, h level hl, h' level hl]

end SeenAlike

/-- Of records at DEBUG nothing is shown, whatever they say. -/
theorem DebugOnly.seenAlike {log log' : List LogRecord} (h : DebugOnly log)
    (h' : DebugOnly log') : SeenAlike log log' := by
  intro level hl
  rw [visibleAt_of_debug hl h, visibleAt_of_debug hl h']

/-! ## The log of classification -/

/-- A record about a body that was not there or could not be read. -/
inductive LogRecord.AboutBody : LogRecord → Prop
  | missing (typeName : String) : AboutBody (Response.noBodyRecord typeName)
  | unreadable (f : Failure) : AboutBody (Response.unreadableRecord f)

/-- A log in which only such records stand. -/
def BodyOnly (log : List LogRecord) : Prop :=
  ∀ r ∈ log, r.AboutBody

namespace BodyOnly

theorem nil : BodyOnly [] := by
  intro r hr
  exact nomatch hr

theorem singleton {r : LogRecord} (h : r.AboutBody) : BodyOnly [r] := by
  intro r' hr
  rw [List.mem_singleton.mp hr]
  exact h

variable {log : List LogRecord}

theorem debugOnly (h : BodyOnly log) : DebugOnly log := by
  intro r hr
  cases h r hr with
  | missing typeName => rfl
  | unreadable f => rfl

end BodyOnly

namespace Response

theorem afterFailure_log (f : Failure) (bodies : Bodies) :
    BodyOnly (afterFailure f bodies).log := by
  unfold afterFailure
  cases isReadFailure f with
  | true => exact .singleton (.unreadable f)
  | false => exact .nil

/-- Reading a body writes about the body only. -/
theorem readBody_log (r : Response) (bodies : Bodies) : BodyOnly (r.readBody bodies).log := by
  unfold readBody
  cases r with
  | known k =>
      cases hb : (bodies k.body).read.1 with
      | ok bytes => simp only [hb]; exact .nil
      | error f => simp only [hb]; exact afterFailure_log f _
  | foreign k =>
      cases hr : k.read with
      | absent => simp only [hr]; exact .singleton (.missing k.typeName)
      | value v => simp only [hr]; exact .nil
      | failing f => simp only [hr]; exact afterFailure_log f bodies
      | hidden f =>
          simp only [hr]
          cases f.kind.is .attributeError with
          | true => exact .singleton (.missing k.typeName)
          | false => exact .nil

end Response

/-- Telling a context writes about its body only. -/
theorem Fault.remoteContext_log (e : Fault) (bodies : Bodies) :
    BodyOnly (e.remoteContext bodies).log := by
  unfold remoteContext
  cases e.response? with
  | error f => exact .nil
  | ok held =>
      cases hu : e.remoteUrl held with
      | error f => simp only [hu]; exact .nil
      | ok url =>
          cases held with
          | none => simp only [hu]; exact .nil
          | some response =>
              simp only [hu]
              cases response.contentType with
              | error f => exact .nil
              | ok type =>
                  cases hj : Response.isJson type with
                  | true =>
                      simp only [hj, if_true, Traced.log_map]
                      exact response.readBody_log bodies
                  | false =>
                      simp only [hj, Bool.false_eq_true, if_false]
                      exact .nil

/-- Classification writes about a body only. -/
theorem Classifier.classify_log (c : Classifier) (r : Registry) (e : Fault) (bodies : Bodies) :
    BodyOnly (c.classify r e bodies).log := by
  unfold classify
  cases e.category with
  | accessDenied => exact .nil
  | notFound => exact .nil
  | invalidRequest => exact .nil
  | illegalState => exact .nil
  | generic => exact .nil
  | remoteFailure =>
      cases e.response? with
      | error f => exact .nil
      | ok held =>
          cases held with
          | none => exact .nil
          | some response =>
              -- the only rule that writes anything
              show BodyOnly ((e.remoteContext bodies).andThen _).log
              rw [Traced.log_andThen]
              exact e.remoteContext_log bodies

/-- **CLASSIFICATION IS QUIET**: what it writes itself is at DEBUG. -/
theorem Classifier.classify_log_debug (c : Classifier) (r : Registry) (e : Fault)
    (bodies : Bodies) : DebugOnly (c.classify r e bodies).log :=
  (c.classify_log r e bodies).debugOnly

end FaultResponse
