import FaultResponse.Handling
import FaultResponse.Report
/-! # Operations — requests in flight over one shared judge

    Requests that are served together share the judge and the registries, and
    each has scopes, channels and responses of its own.  An operation names the
    scope and the channel that it works on and touches no other.  It answers or
    fails, and either way it leaves a world behind and a list of records. -/

namespace FaultResponse

/-- The scopes, channels and bodies of all requests in flight. -/
structure World where
  slots : Store String Slot := fun _ => .sound ⟨"", none, false⟩
  sinks : Store String Sink := fun _ => .sound {}
  bodies : Bodies := fun _ => .held []

/-- One operation on the world. -/
inductive Operation
  /-- Handle an exception on a scope and a channel. -/
  | handle (e : Fault) (scope channel : String)
  /-- Log a verdict and send it. -/
  | emit (v : Verdict) (channel : String)
  /-- Send an error without a verdict. -/
  | send (channel : String) (status : Int) (message : Text)
  /-- Close a channel. -/
  | close (channel : String)
  /-- Render what was sent on a channel. -/
  | render (channel : String)
  /-- Keep an exception on a scope. -/
  | record (scope : String) (e : Fault)
  /-- Keep an exception as far as the scope allows it. -/
  | keep (scope : String) (e : Fault)
  /-- Close a scope. -/
  | finalize (scope : String)
  /-- Report on a scope. -/
  | report (scope : String) (status : Int) (path : Option Text)

/-- What an operation answers. -/
inductive Answer
  | done
  /-- A verdict, and whether it names the very exception that was judged. -/
  | verdict (v : Verdict) (keepsSubject : Bool)
  | response (r : Http.Response)
  | report (a : Attributes)

/-- What an operation leaves behind. -/
structure Effect where
  outcome : Except Failure Answer
  world : World
  log : List LogRecord := []

namespace World

/-- Replace what stands at one scope. -/
def setSlot (w : World) (scope : String) (s : Slot) : World :=
  { w with slots := w.slots.set scope s }

/-- Replace what stands at one channel. -/
def setSink (w : World) (channel : String) (s : Sink) : World :=
  { w with sinks := w.sinks.set channel s }

end World

/-- Run one operation.  `now` is the time that reports give. -/
def Operation.run (j : Judge) (rs : Registries) (now : String) (w : World) : Operation → Effect
  | handle e scope channel =>
    let h := j.handle rs e (w.slots scope) (w.sinks channel) w.bodies
    { outcome := h.outcome.map fun v => .verdict v (j.keepsSubject e)
      world := ⟨w.slots.set scope h.slot, w.sinks.set channel h.sink, h.bodies⟩
      log := h.log }
  | emit v channel =>
    match v.emit (w.sinks channel) with
    | (.ok s, written) => ⟨.ok .done, w.setSink channel s, written⟩
    | (.error f, written) => ⟨.error f, w, written⟩
  | send channel status message =>
    match (w.sinks channel).send status message with
    | .ok s => ⟨.ok .done, w.setSink channel s, []⟩
    | .error f => ⟨.error f, w, []⟩
  | close channel => ⟨.ok .done, w.setSink channel (w.sinks channel).close, []⟩
  | render channel => ⟨(w.sinks channel).channel.render.map .response, w, []⟩
  | record scope e =>
    match (w.slots scope).record e with
    | .ok s => ⟨.ok .done, w.setSlot scope s, []⟩
    | .error f => ⟨.error f, w, []⟩
  | keep scope e =>
    match (w.slots scope).keep e with
    | (.ok s, written) => ⟨.ok .done, w.setSlot scope s, written⟩
    | (.error f, written) => ⟨.error f, w, written⟩
  | finalize scope => ⟨.ok .done, w.setSlot scope (w.slots scope).finalize, []⟩
  | report scope status path =>
    ⟨((w.slots scope).scope.report status path now).map .report, w, []⟩

/-- Run operations one after another: what each of them left behind, and the world
    at the end. -/
def Operation.runAll (j : Judge) (rs : Registries) (now : String) :
    World → List Operation → List Effect × World
  | w, [] => ([], w)
  | w, op :: ops =>
    let effect := op.run j rs now w
    let rest := runAll j rs now effect.world ops
    (effect :: rest.1, rest.2)

end FaultResponse
