import FaultResponse.Class.Define
import FaultResponse.Fault.Build
import FaultResponse.Operation
/-! # Sessions — a program of steps over classes, registries and requests

    A session runs steps in order.  Besides operating on scopes and channels, a
    step may define a class, give an exception a name, declare a status, or look
    one up.  A failed step leaves behind what it had done before it failed, and
    the session goes on. -/

namespace FaultResponse

/-- An exception that a step names: one that was given a name, or one yet to be built. -/
inductive FaultSource
  | named (name : String)
  | fresh (spec : FaultSpec)

/-- A status that a class definition declares, and the registry that it names. -/
structure Annotation where
  status : Int
  reason : Text := ""
  registry : Option RegistryName := none

/-- A verdict whose kept exception is yet to be built. -/
structure VerdictSpec where
  verdict : Verdict
  subject : Option FaultSource := none

/-- One step. -/
inductive Step
  | define (spec : ClassSpec) (declare : Option Annotation)
  | bind (name : String) (e : FaultSource)
  | register (cls : Class) (status : Int) (reason : Text) (registry : RegistryName)
  | find (cls : Class) (registry : RegistryName)
  | contains (cls : Option Class) (registry : RegistryName)
  | classify (e : FaultSource)
  | openScope (name : String) (requestId : String) (fails : Option Failure)
  | openChannel (name : String) (fails : Option Failure)
  | handle (e : FaultSource) (scope channel : String)
  | emit (v : VerdictSpec) (channel : String)
  | record (scope : String) (e : FaultSource)
  | keep (scope : String) (e : FaultSource)
  | operate (op : Operation)

/-- What a step answers. -/
inductive StepAnswer
  | of (a : Answer)
  | declaration (d : Option Declaration)
  | flag (b : Bool)
  | slot (s : Slot)
  | sink (s : Sink)

/-- A session between two steps. -/
structure Session where
  judge : Judge
  registries : Registries := .empty
  catalog : Catalog := {}
  faults : OrderedMap String Fault := []
  /-- The number of the next body to be received. -/
  next : BodyId := 0
  world : World := {}

/-- What a step leaves behind. -/
structure StepEffect where
  outcome : Except Failure StepAnswer
  session : Session
  log : List LogRecord := []

/-! ## Classes -/

/-- Define a class and declare its status: all of it, or nothing. -/
def defineClass (catalog : Catalog) (rs : Registries) (spec : ClassSpec)
    (declare : Option Annotation) : Except Failure (Catalog × Registries) :=
  match catalog.define spec with
  | .error f => .error f
  | .ok (c, catalog) =>
    match declare with
    | none => .ok (catalog, rs)
    | some a =>
      match rs.annotate a.registry c.head.id a.status a.reason with
      | .ok rs => .ok (catalog, rs)
      | .error f => .error f

namespace Session

/-- The exception that a source stands for, if it can be built. -/
def resolve (s : Session) : FaultSource → Except Failure (Fault × Session)
  | .named name =>
    match s.faults.get? name with
    | some e => .ok (e, s)
    | none => .error (.unknownName name)
  | .fresh spec =>
    match Fault.build spec ⟨s.next, s.world.bodies⟩ with
    | .ok (e, i) => .ok (e, { s with next := i.next, world := { s.world with bodies := i.bodies } })
    | .error m => .error (.misuse m)

/-- The verdict that a specification stands for. -/
def resolveVerdict (s : Session) (v : VerdictSpec) : Except Failure (Verdict × Session) :=
  match v.subject with
  | none => .ok (v.verdict, s)
  | some source =>
    match s.resolve source with
    | .ok (e, s) => .ok ({ v.verdict with subject := some e }, s)
    | .error f => .error f

/-- Go on with an exception; without it the step fails and leaves everything as it was. -/
def withFault (s : Session) (source : FaultSource) (next : Fault → Session → StepEffect) :
    StepEffect :=
  match s.resolve source with
  | .ok (e, t) => next e t
  | .error f => ⟨.error f, s, []⟩

/-- The judge that gives every exception the same verdict. -/
def fixedJudge (v : VerdictSpec) : Except Failure Judge :=
  match resolveVerdict { judge := .fixed v.verdict } v with
  | .ok (v, _) => .ok (.fixed v)
  | .error f => .error f

/-- Run an operation. -/
def operate (s : Session) (now : String) (op : Operation) : StepEffect :=
  let effect := op.run s.judge s.registries now s.world
  ⟨effect.outcome.map .of, { s with world := effect.world }, effect.log⟩

/-- Run one step. -/
def step (s : Session) (now : String) : Step → StepEffect
  | .define spec declare =>
    match defineClass s.catalog s.registries spec declare with
    | .ok (catalog, registries) =>
      ⟨.ok (.of .done), { s with catalog := catalog, registries := registries }, []⟩
    | .error f => ⟨.error f, s, []⟩
  | .bind name source =>
    s.withFault source fun e s =>
      ⟨.ok (.of .done), { s with faults := OrderedMap.put name e s.faults }, []⟩
  | .register cls status reason registry =>
    match s.registries.register registry cls.head.id status reason with
    | .ok registries => ⟨.ok (.of .done), { s with registries := registries }, []⟩
    | .error f => ⟨.error f, s, []⟩
  | .find cls registry =>
    ⟨.ok (.declaration ((s.registries registry).find cls.lineage)), s, []⟩
  | .contains cls registry =>
    ⟨.ok (.flag (cls.any fun c => (s.registries registry).declares c.head.id)), s, []⟩
  | .classify source =>
    s.withFault source fun e s =>
      let judged := s.judge.tell s.registries e s.world.bodies
      ⟨judged.outcome.map fun v => .of (.verdict v (s.judge.keepsSubject e)),
        { s with world := { s.world with bodies := judged.bodies } }, judged.log⟩
  | .openScope name requestId fails =>
    let scope : Scope := { requestId := requestId }
    let slot := match fails with
      | some f => Slot.failing scope f
      | none => Slot.sound scope
    ⟨.ok (.slot slot), { s with world := s.world.setSlot name slot }, []⟩
  | .openChannel name fails =>
    let sink := match fails with
      | some f => Sink.failing {} f
      | none => Sink.sound {}
    ⟨.ok (.sink sink), { s with world := s.world.setSink name sink }, []⟩
  | .handle source scope channel =>
    s.withFault source fun e s => s.operate now (.handle e scope channel)
  | .emit v channel =>
    match s.resolveVerdict v with
    | .ok (v, s) => s.operate now (.emit v channel)
    | .error f => ⟨.error f, s, []⟩
  | .record scope source =>
    s.withFault source fun e s => s.operate now (.record scope e)
  | .keep scope source =>
    s.withFault source fun e s => s.operate now (.keep scope e)
  | .operate op => s.operate now op

end Session

end FaultResponse
