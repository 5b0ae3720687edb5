import FaultResponse.Channel
import FaultResponse.Classifier
import FaultResponse.Scope
/-! # Handling — classify, keep, emit

    An exception is handled in three steps.  It is classified; the exception
    that the verdict names is kept on the scope of the request; the verdict is
    logged and then sent on the channel.  A failed classification touches
    neither scope nor channel.  A refused write to the scope does not stop the
    emission, and a refused emission does not undo what was kept or logged. -/

namespace FaultResponse

/-! ## Emission -/

/-- The name of the class of an exception, if there is one. -/
def subjectName (subject : Option Fault) : String :=
  match subject with
  | some e => e.cls.name
  | none => "NoneType"

namespace Verdict

/-- The text of the record: the planned one, or else the class of the exception,
    and the status. -/
def logText (v : Verdict) : Text :=
  (if v.log.text.isEmpty then (subjectName v.subject : Text) else v.log.text)
    ++ " [status=" ++ toString v.status ++ "]"

/-- The records that emitting a verdict writes: one, unless nothing is to be logged. -/
def records (v : Verdict) : List LogRecord :=
  match v.log.level.severity? with
  | none => []
  | some severity =>
    [{ logger := .emitter, severity := severity, text := v.logText
       raised := if v.log.traceback then v.subject.map (·.cls.name) else none }]

/-- Log a verdict, then send it. -/
def emit (v : Verdict) (sink : Sink) : Except Failure Sink × List LogRecord :=
  (sink.send v.status v.message, v.records)

end Verdict

/-! ## The whole -/

/-- How verdicts are reached. -/
inductive Judge
  /-- By classification, with one of the registries. -/
  | classifier (c : Classifier) (registry : RegistryName)
  /-- Every exception gets the same verdict. -/
  | fixed (v : Verdict)

namespace Judge

/-- The verdict on an exception. -/
def classify (j : Judge) (rs : Registries) (e : Fault) (bodies : Bodies) : Traced Verdict :=
  match j with
  | classifier c registry => c.classify (rs registry) e bodies
  | fixed v => ⟨.ok v, bodies, []⟩

/-- The verdict on an exception, for one who wants to see it. -/
def tell (j : Judge) (rs : Registries) (e : Fault) (bodies : Bodies) : Traced Verdict :=
  (j.classify rs e bodies).andThen Verdict.told

/-- Whether the verdict names the very exception that was judged. -/
def keepsSubject (j : Judge) (e : Fault) : Bool :=
  match j with
  | classifier .. => !e.isRelayed
  | fixed _ => false

end Judge

/-- What handling an exception leaves behind. -/
structure Handled where
  outcome : Except Failure Verdict
  slot : Slot
  sink : Sink
  bodies : Bodies
  log : List LogRecord

/-- Keep and emit a verdict on an exception. -/
def Verdict.deliver (v : Verdict) (e : Fault) (slot : Slot) (sink : Sink) (bodies : Bodies)
    (log : List LogRecord) : Handled :=
  match slot.keep (v.subject.getD e) with
  | (.error f, written) => ⟨.error f, slot, sink, bodies, log ++ written⟩
  | (.ok kept, written) =>
    match v.emit sink with
    | (.error f, emitted) => ⟨.error f, kept, sink, bodies, log ++ written ++ emitted⟩
    | (.ok sent, emitted) => ⟨.ok v, kept, sent, bodies, log ++ written ++ emitted⟩

/-- Handle an exception. -/
def Judge.handle (j : Judge) (rs : Registries) (e : Fault) (slot : Slot) (sink : Sink)
    (bodies : Bodies) : Handled :=
  let judged := j.classify rs e bodies
  match judged.outcome with
  | .error f => ⟨.error f, slot, sink, judged.bodies, judged.log⟩
  | .ok v => v.deliver e slot sink judged.bodies judged.log

end FaultResponse
