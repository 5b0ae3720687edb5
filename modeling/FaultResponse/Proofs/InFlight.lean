import FaultResponse.Proofs.ChannelRun
import FaultResponse.Proofs.Rereading
/-! # Requests in flight — operations on different places do not meet

    Requests are served together and share the judge, the registries and the world.  What
    keeps them apart is that an operation looks at few places only and changes no other:

    * a `Cell` is one scope, one channel or one body, and `Operation.cells` lists those
      that an operation names; the body is that of the response that its exception holds;
    * `classify_local`: classification looks at that body at most, also when it fails;
    * `run_frame`: an operation leaves every cell alone that it does not name;
    * `run_local`: it answers and logs the same in every world that agrees in its cells,
      and leaves these cells the same;
    * `runAll_own`: by induction over a schedule, what one owner's operations make of the
      cells that nobody else names is what they make of them alone.

    A schedule lists the operations of any number of owners in the order in which they
    are run; the list of each owner's operations is what the owner runs alone. -/

namespace FaultResponse

/-! ## The body that an exception holds -/

/-- The body of a response; a foreign response keeps its own. -/
def Response.body? : Response → Option BodyId
  | known k => some k.body
  | foreign _ => none

/-- The body of the response that an exception holds. -/
def Fault.body? (e : Fault) : Option BodyId :=
  match e.response? with
  | .ok (some response) => response.body?
  | _ => none

theorem Fault.body?_of_response {e : Fault} {response : Response}
    (h : e.response? = .ok (some response)) : e.body? = response.body? := by
  unfold body?
  rw [h]

/-- Two stores of bodies agree in one body, if there is one. -/
def Bodies.AgreeOn (held : Option BodyId) (bodies bodies' : Bodies) : Prop :=
  ∀ id, held = some id → bodies id = bodies' id

/-- Two steps come to the same, log the same, and leave one body the same. -/
structure Traced.SameOn {α : Type} (held : Option BodyId) (t t' : Traced α) : Prop where
  outcome : t.outcome = t'.outcome
  log : t.log = t'.log
  bodies : t.bodies.AgreeOn held t'.bodies

section

variable {α β : Type} {held : Option BodyId} {t t' : Traced α} {bodies bodies' : Bodies}

/-- A step that leaves all bodies alone. -/
theorem Bodies.AgreeOn.same (h : bodies.AgreeOn held bodies') (x : Except Failure α)
    (log : List LogRecord) : Traced.SameOn held ⟨x, bodies, log⟩ ⟨x, bodies', log⟩ :=
  ⟨rfl, rfl, h⟩

theorem Traced.SameOn.map (h : Traced.SameOn held t t') (f : α → β) :
    Traced.SameOn held (t.map f) (t'.map f) where
  outcome := by rw [outcome_map, outcome_map, h.outcome]
  log := by rw [log_map, log_map, h.log]
  bodies := by rw [bodies_map, bodies_map]; exact h.bodies

theorem Traced.SameOn.andThen (h : Traced.SameOn held t t') (f : α → Except Failure β) :
    Traced.SameOn held (t.andThen f) (t'.andThen f) where
  outcome := by
    unfold Traced.andThen
    rw [h.outcome]
    cases t'.outcome with
    | error f => rfl
    | ok a => rfl
  log := by rw [log_andThen, log_andThen, h.log]
  bodies := by rw [bodies_andThen, bodies_andThen]; exact h.bodies

end

/-! ## Classification looks at one body at most -/

section

variable {bodies bodies' : Bodies} {e : Fault}

namespace Response

theorem afterFailure_local {held : Option BodyId} (f : Failure)
    (h : bodies.AgreeOn held bodies') :
    Traced.SameOn held (afterFailure f bodies) (afterFailure f bodies') := by
  unfold afterFailure
  cases isReadFailure f with
  | true => exact h.same _ _
  | false => exact h.same _ _

/-- A body is read alike where it is the same. -/
theorem readBody_local (r : Response) (h : bodies.AgreeOn r.body? bodies') :
    Traced.SameOn r.body? (r.readBody bodies) (r.readBody bodies') := by
  cases r with
  | known k =>
      -- reading changes this body, in both stores to the same
      have hsame : bodies' k.body = bodies k.body := (h k.body rfl).symm
      have hafter : Bodies.AgreeOn (known k).body? (bodies.set k.body (bodies k.body).read.2)
          (bodies'.set k.body (bodies k.body).read.2) := by
        intro id hid
        obtain rfl : k.body = id := Option.some.inj hid
        rw [Store.set_self, Store.set_self]
      cases hb : (bodies k.body).read.1 with
      | ok octets =>
          rw [readBody_known_of_ok hb, readBody_known_of_ok (hsame.symm ▸ hb), hsame]
          exact hafter.same _ _
      | error f =>
          rw [readBody_known_of_error hb, readBody_known_of_error (hsame.symm ▸ hb), hsame]
          exact afterFailure_local f hafter
  | foreign k =>
      cases hr : k.read with
      | absent => simpa only [readBody, hr, withoutBody] using h.same _ _
      | value v => simpa only [readBody, hr] using h.same _ _
      | failing f => simpa only [readBody, hr] using afterFailure_local f h
      | hidden f =>
          simp only [readBody, hr]
          cases f.kind.is .attributeError with
          | true => exact h.same _ _
          | false => exact h.same _ _

/-- No other body is touched. -/
theorem readBody_frame (r : Response) {id : BodyId} (h : r.body? ≠ some id) :
    (r.readBody bodies).bodies id = bodies id := by
  cases r with
  | foreign k => rw [bodies_readBody_foreign]
  | known k =>
      have hne : id ≠ k.body := fun heq => h (congrArg some heq.symm)
      rw [bodies_readBody_known, Store.set_of_ne _ _ hne]

end Response

namespace Fault

theorem remoteContext_local {response : Response} (hr : e.response? = .ok (some response))
    (h : bodies.AgreeOn response.body? bodies') :
    Traced.SameOn response.body? (e.remoteContext bodies) (e.remoteContext bodies') := by
  rcases remoteContext_cases hr with ⟨f, hf⟩ | ⟨url, type, hu, ht⟩
  · rw [hf, hf]
    exact h.same _ _
  · rw [remoteContext_of_told hr hu ht, remoteContext_of_told hr hu ht]
    cases Response.isJson type with
    | true => exact (response.readBody_local h).map _
    | false => exact h.same _ _

theorem remoteContext_frame {response : Response} (hr : e.response? = .ok (some response))
    {id : BodyId} (h : response.body? ≠ some id) :
    (e.remoteContext bodies).bodies id = bodies id := by
  rcases remoteContext_cases hr with ⟨f, hf⟩ | ⟨url, type, hu, ht⟩
  · rw [hf]
  · rw [remoteContext_of_told hr hu ht]
    cases Response.isJson type with
    | true => rw [if_pos rfl, Traced.bodies_map, response.readBody_frame h]
    | false => rfl

end Fault

/-- The verdict on an exception, and all that comes with it, depends on the body that the
    exception holds and on no other. -/
theorem Classifier.classify_local (c : Classifier) (r : Registry)
    (h : bodies.AgreeOn e.body? bodies') :
    Traced.SameOn e.body? (c.classify r e bodies) (c.classify r e bodies') := by
  cases hc : e.category with
  | accessDenied | notFound | invalidRequest | illegalState | generic =>
      unfold classify
      rw [hc]
      exact h.same _ _
  -- the rule of a failed remote call is the only one that reads a body
  | remoteFailure =>
      cases hr : e.response? with
      | error f =>
          unfold classify
          rw [hc, hr]
          exact h.same _ _
      | ok held =>
          cases held with
          | none =>
              unfold classify
              rw [hc, hr]
              exact h.same _ _
          | some response =>
              rw [Fault.body?_of_response hr] at h ⊢
              rw [classify_of_response hc hr, classify_of_response hc hr]
              exact (Fault.remoteContext_local hr h).andThen _

theorem Classifier.classify_frame (c : Classifier) (r : Registry) {id : BodyId}
    (h : e.body? ≠ some id) : (c.classify r e bodies).bodies id = bodies id := by
  cases hrelayed : e.isRelayed with
  | false => rw [bodies_classify_of_not_relayed hrelayed]
  | true =>
      obtain ⟨hc, response, hr⟩ := Fault.response_of_isRelayed hrelayed
      rw [Fault.body?_of_response hr] at h
      rw [classify_of_response hc hr, Traced.bodies_andThen]
      exact Fault.remoteContext_frame hr h

namespace Judge

variable (j : Judge) (rs : Registries)

theorem classify_local (h : bodies.AgreeOn e.body? bodies') :
    Traced.SameOn e.body? (j.classify rs e bodies) (j.classify rs e bodies') := by
  cases j with
  | classifier c name => exact c.classify_local _ h
  | fixed v => exact h.same _ _

theorem classify_frame {id : BodyId} (h : e.body? ≠ some id) :
    (j.classify rs e bodies).bodies id = bodies id := by
  cases j with
  | classifier c name => exact c.classify_frame _ h
  | fixed v => rfl

/-- Handling leaves the bodies as classification does. -/
theorem bodies_handle (slot : Slot) (sink : Sink) :
    (j.handle rs e slot sink bodies).bodies = (j.classify rs e bodies).bodies := by
  cases hj : (j.classify rs e bodies).outcome with
  | error f => rw [handle_of_failed hj]
  | ok v =>
      rw [handle_of_classified hj]
      rcases slot.keep_cases (v.subject.getD e) with ⟨f, -, hk⟩ | ⟨-, t, written, hk⟩
      · rw [Verdict.deliver_of_broken hk]
      · rw [Verdict.deliver_of_kept hk]

/-- What handling comes to, and what it leaves on its scope, on its channel and in the
    log, depends on no other body either. -/
theorem handle_local (h : bodies.AgreeOn e.body? bodies') (slot : Slot) (sink : Sink) :
    j.handle rs e slot sink bodies' =
      { j.handle rs e slot sink bodies with bodies := (j.classify rs e bodies').bodies } := by
  have hsame := j.classify_local rs h
  cases hj : (j.classify rs e bodies').outcome with
  | error f => rw [handle_of_failed hj, handle_of_failed (hsame.outcome.trans hj), hsame.log]
  | ok v =>
      rw [handle_of_classified hj, handle_of_classified (hsame.outcome.trans hj), hsame.log]
      rcases slot.keep_cases (v.subject.getD e) with ⟨f, -, hk⟩ | ⟨-, t, written, hk⟩
      · rw [Verdict.deliver_of_broken hk, Verdict.deliver_of_broken hk]
      · rw [Verdict.deliver_of_kept hk, Verdict.deliver_of_kept hk]

end Judge

end

/-! ## The cells of an operation -/

/-- A place of the world. -/
inductive Cell
  | scope (name : String)
  | channel (name : String)
  | body (id : BodyId)
  deriving DecidableEq, Repr

/-- What stands at a place. -/
inductive Content
  | slot (s : Slot)
  | sink (s : Sink)
  | body (b : Body)
  deriving DecidableEq, Repr

namespace World

/-- Look at one place. -/
def get (w : World) : Cell → Content
  | .scope name => .slot (w.slots name)
  | .channel name => .sink (w.sinks name)
  | .body id => .body (w.bodies id)

variable {w : World} {c : Cell} {name : String}

@[simp] theorem get_setSlot (s : Slot) : (w.setSlot name s).get (.scope name) = .slot s :=
  congrArg Content.slot (Store.set_self _ _ _)

@[simp] theorem get_setSink (s : Sink) : (w.setSink name s).get (.channel name) = .sink s :=
  congrArg Content.sink (Store.set_self _ _ _)

theorem get_setSlot_of_ne (s : Slot) (h : c ≠ .scope name) :
    (w.setSlot name s).get c = w.get c := by
  cases c with
  | scope other => exact congrArg Content.slot (Store.set_of_ne _ _ fun he => h (congrArg _ he))
  | channel other => rfl
  | body id => rfl

theorem get_setSink_of_ne (s : Sink) (h : c ≠ .channel name) :
    (w.setSink name s).get c = w.get c := by
  cases c with
  | scope other => rfl
  | channel other => exact congrArg Content.sink (Store.set_of_ne _ _ fun he => h (congrArg _ he))
  | body id => rfl

end World

/-! ## One operation -/

/-- What is seen of an operation: how it ends, and what it logs. -/
def Effect.seen (x : Effect) : Except Failure Answer × List LogRecord :=
  (x.outcome, x.log)

/-- What an operation on one place comes to, what it leaves there, and what it logs. -/
structure Deed (α : Type) where
  outcome : Except Failure Answer
  left : α
  log : List LogRecord

/-- A write to a place: one that is refused leaves the place as it was. -/
def Deed.ofWrite {α : Type} (old : α) (log : List LogRecord) : Except Failure α → Deed α
  | .ok new => ⟨.ok .done, new, log⟩
  | .error f => ⟨.error f, old, log⟩

namespace Operation

/-- The cells that an operation names. -/
def cells : Operation → List Cell
  | handle e scope channel => .scope scope :: .channel channel :: e.body?.toList.map .body
  | emit _ channel | send channel _ _ | close channel | render channel => [.channel channel]
  | record scope _ | keep scope _ | finalize scope | report scope _ _ => [.scope scope]

/-- How an operation works: it handles an exception, or it works on one scope or on one
    channel, and what stands there tells all that it does. -/
inductive Shape (j : Judge) (rs : Registries) (now : String) (op : Operation) : Prop
  | handles {e : Fault} {scope channel : String} :
      op = .handle e scope channel → Shape j rs now op
  | onScope {scope : String} (deed : Slot → Deed Slot) : op.cells = [.scope scope] →
      (∀ w, op.run j rs now w =
        ⟨(deed (w.slots scope)).outcome, w.setSlot scope (deed (w.slots scope)).left,
          (deed (w.slots scope)).log⟩) → Shape j rs now op
  | onChannel {channel : String} (deed : Sink → Deed Sink) : op.cells = [.channel channel] →
      (∀ w, op.run j rs now w =
        ⟨(deed (w.sinks channel)).outcome, w.setSink channel (deed (w.sinks channel)).left,
          (deed (w.sinks channel)).log⟩) → Shape j rs now op

/-- **EVERY OPERATION** works in one of these ways. -/
theorem shape (j : Judge) (rs : Registries) (now : String) (op : Operation) :
    op.Shape j rs now := by
  cases op with
  | handle e scope channel => exact .handles rfl
  | emit v channel =>
      refine .onChannel (fun s => ⟨(s.send v.status v.message).map fun _ => .done,
        s.after v.status v.message, v.records⟩) rfl ?_
      intro w
      exact run_emit v channel
  | send channel status message =>
      refine .onChannel (fun s => ⟨(s.send status message).map fun _ => .done,
        s.after status message, []⟩) rfl ?_
      intro w
      exact run_send channel status message
  | close channel => exact .onChannel (fun s => ⟨.ok .done, s.close, []⟩) rfl fun _ => rfl
  | render channel =>
      refine .onChannel (fun s => ⟨s.channel.render.map .response, s, []⟩) rfl ?_
      intro w
      simp only [run, World.setSink, Store.set_get]
  | record scope e =>
      refine .onScope (fun s => .ofWrite s [] (s.record e)) rfl ?_
      intro w
      cases hs : (w.slots scope).record e with
      | error f => simp only [run, hs, Deed.ofWrite, World.setSlot, Store.set_get]
      | ok t => simp only [run, hs, Deed.ofWrite]
  | keep scope e =>
      refine .onScope (fun s => .ofWrite s (s.keep e).2 (s.keep e).1) rfl ?_
      intro w
      cases hs : (w.slots scope).keep e with
      | mk kept written =>
          cases kept with
          | error f => simp only [run, hs, Deed.ofWrite, World.setSlot, Store.set_get]
          | ok t => simp only [run, hs, Deed.ofWrite]
  | finalize scope => exact .onScope (fun s => ⟨.ok .done, s.finalize, []⟩) rfl fun _ => rfl
  | report scope status path =>
      refine .onScope (fun s => ⟨(s.scope.report status path now).map .report, s, []⟩) rfl ?_
      intro w
      simp only [run, World.setSlot, Store.set_get]

variable {w w' : World} {c : Cell}

theorem mem_cells_handle {e : Fault} {scope channel : String} :
    c ∈ (handle e scope channel).cells ↔
      c = .scope scope ∨ c = .channel channel ∨ ∃ id, e.body? = some id ∧ c = .body id := by
  simp only [cells, List.mem_cons, List.mem_map, Option.mem_toList, eq_comm]

/-- **FRAME**: an operation leaves every cell alone that it does not name. -/
theorem run_frame (j : Judge) (rs : Registries) (now : String) (op : Operation)
    (h : c ∉ op.cells) :
    (op.run j rs now w).world.get c = w.get c := by
  cases op.shape j rs now with
  | onScope deed hcells hrun =>
      rw [hcells, List.mem_singleton] at h
      rw [hrun]
      exact World.get_setSlot_of_ne _ h
  | onChannel deed hcells hrun =>
      rw [hcells, List.mem_singleton] at h
      rw [hrun]
      exact World.get_setSink_of_ne _ h
  | @handles e scope channel hop =>
      subst hop
      rw [mem_cells_handle, not_or, not_or] at h
      obtain ⟨hscope, hchannel, hbody⟩ := h
      cases c with
      | scope name => exact World.get_setSlot_of_ne _ hscope
      | channel name => exact World.get_setSink_of_ne _ hchannel
      | body id =>
          have hid : e.body? ≠ some id := fun he => hbody ⟨id, he, rfl⟩
          show Content.body ((j.handle rs e _ _ w.bodies).bodies id) = .body (w.bodies id)
          rw [Judge.bodies_handle, Judge.classify_frame j rs hid]

/-- **LOCALITY**: an operation ends and logs the same in every world that agrees in the
    cells that it names, and it leaves these cells the same. -/
theorem run_local (j : Judge) (rs : Registries) (now : String) (op : Operation)
    (h : ∀ c ∈ op.cells, w.get c = w'.get c) :
    (op.run j rs now w).seen = (op.run j rs now w').seen ∧
      ∀ c ∈ op.cells, (op.run j rs now w).world.get c = (op.run j rs now w').world.get c := by
  cases op.shape j rs now with
  | @onScope scope deed hcells hrun =>
      rw [hcells] at h ⊢
      have hslot : w.slots scope = w'.slots scope := Content.slot.inj (h _ List.mem_cons_self)
      rw [hrun, hrun, hslot]
      refine ⟨rfl, ?_⟩
      intro c hc
      obtain rfl := List.mem_singleton.mp hc
      rw [World.get_setSlot, World.get_setSlot]
  | @onChannel channel deed hcells hrun =>
      rw [hcells] at h ⊢
      have hsink : w.sinks channel = w'.sinks channel := Content.sink.inj (h _ List.mem_cons_self)
      rw [hrun, hrun, hsink]
      refine ⟨rfl, ?_⟩
      intro c hc
      obtain rfl := List.mem_singleton.mp hc
      rw [World.get_setSink, World.get_setSink]
  | @handles e scope channel hop =>
      -- handling looks at its scope, its channel, and the body that its exception holds
      subst hop
      have hslot : w.slots scope = w'.slots scope :=
        Content.slot.inj (h _ (mem_cells_handle.mpr (Or.inl rfl)))
      have hsink : w.sinks channel = w'.sinks channel :=
        Content.sink.inj (h _ (mem_cells_handle.mpr (Or.inr (Or.inl rfl))))
      have hbodies : w.bodies.AgreeOn e.body? w'.bodies := fun id hid =>
        Content.body.inj (h _ (mem_cells_handle.mpr (Or.inr (Or.inr ⟨id, hid, rfl⟩))))
      have hhandle := j.handle_local rs hbodies (w.slots scope) (w.sinks channel)
      refine ⟨?_, ?_⟩
      · simp only [run, Effect.seen, ← hslot, ← hsink, hhandle]
      · intro c hc
        rcases mem_cells_handle.mp hc with rfl | rfl | ⟨id, hid, rfl⟩
        · simp only [run, World.get, Store.set_self, ← hslot, ← hsink, hhandle]
        · simp only [run, World.get, Store.set_self, ← hslot, ← hsink, hhandle]
        · simp only [run, World.get, Judge.bodies_handle]
          exact congrArg Content.body ((j.classify_local rs hbodies).bodies id hid)

end Operation

/-! ## Schedules -/

section

variable {ι α : Type} [DecidableEq ι]

/-- One owner's part of a list, in order. -/
def own (i : ι) (l : List (ι × α)) : List α :=
  l.filterMap fun x => if x.1 = i then some x.2 else none

theorem own_cons_self (i : ι) (a : α) (l : List (ι × α)) : own i ((i, a) :: l) = a :: own i l :=
  List.filterMap_cons_some (if_pos rfl)

theorem own_cons_of_ne {i k : ι} (h : k ≠ i) (a : α) (l : List (ι × α)) :
    own i ((k, a) :: l) = own i l :=
  List.filterMap_cons_none (if_neg h)

theorem mem_own {i : ι} {a : α} {l : List (ι × α)} : a ∈ own i l ↔ (i, a) ∈ l := by
  unfold own
  rw [List.mem_filterMap]
  constructor
  · rintro ⟨⟨k, b⟩, hmem, hk⟩
    obtain ⟨rfl, hb⟩ := Option.ite_none_right_eq_some.mp hk
    obtain rfl := Option.some.inj hb
    exact hmem
  · intro h
    exact ⟨(i, a), h, if_pos rfl⟩

namespace Operation

/-- What the operations of a schedule leave behind, each with its owner. -/
def served (j : Judge) (rs : Registries) (now : String) (w : World)
    (schedule : List (ι × Operation)) : List (ι × Effect) :=
  (schedule.map Prod.fst).zip (runAll j rs now w (schedule.map Prod.snd)).1

omit [DecidableEq ι] in
theorem served_cons (j : Judge) (rs : Registries) (now : String) (w : World) (k : ι)
    (op : Operation) (rest : List (ι × Operation)) :
    served j rs now w ((k, op) :: rest)
      = (k, op.run j rs now w) :: served j rs now (op.run j rs now w).world rest := rfl

/-- **A SCHEDULE** makes of the cells that only one owner names what this owner's
    operations make of them alone, and each of these ends and logs the same. -/
theorem runAll_own (j : Judge) (rs : Registries) (now : String) (i : ι) (mine : Cell → Prop)
    (schedule : List (ι × Operation))
    (hmine : ∀ op, (i, op) ∈ schedule → ∀ c ∈ op.cells, mine c)
    (hothers : ∀ k op, k ≠ i → (k, op) ∈ schedule → ∀ c, mine c → c ∉ op.cells)
    {w v : World} (h : ∀ c, mine c → w.get c = v.get c) :
    let alone := runAll j rs now v (own i schedule)
    (own i (served j rs now w schedule)).map Effect.seen = alone.1.map Effect.seen ∧
      ∀ c, mine c → (runAll j rs now w (schedule.map Prod.snd)).2.get c = alone.2.get c := by
  induction schedule generalizing w v with
  | nil => exact ⟨rfl, h⟩
  | cons step rest ih =>
      obtain ⟨k, op⟩ := step
      have hmine' : ∀ op, (i, op) ∈ rest → ∀ c ∈ op.cells, mine c :=
        fun op hop => hmine op (List.mem_cons_of_mem _ hop)
      have hothers' : ∀ k op, k ≠ i → (k, op) ∈ rest → ∀ c, mine c → c ∉ op.cells :=
        fun k op hk hop => hothers k op hk (List.mem_cons_of_mem _ hop)
      by_cases hk : k = i
      · -- a step of the owner is the same step alone
        subst hk
        obtain ⟨hseen, hcells⟩ := run_local j rs now op
          fun c hc => h c (hmine op List.mem_cons_self c hc)
        have hnext : ∀ c, mine c →
            (op.run j rs now w).world.get c = (op.run j rs now v).world.get c := by
          intro c hc
          by_cases hop : c ∈ op.cells
          · exact hcells c hop
          · rw [run_frame j rs now op hop, run_frame j rs now op hop, h c hc]
        obtain ⟨hrest, hend⟩ := ih hmine' hothers' hnext
        rw [own_cons_self, served_cons, own_cons_self, List.map_cons, hseen, hrest]
        exact ⟨rfl, hend⟩
      · -- a step of another one does not show
        have hnext : ∀ c, mine c → (op.run j rs now w).world.get c = v.get c := by
          intro c hc
          rw [run_frame j rs now op (hothers k op hk List.mem_cons_self c hc), h c hc]
        obtain ⟨hrest, hend⟩ := ih hmine' hothers' hnext
        rw [own_cons_of_ne hk, served_cons, own_cons_of_ne hk, hrest]
        exact ⟨rfl, hend⟩

end Operation

/-- **REQUESTS DO NOT INTERFERE**: when the operations of different owners name no cell in
    common, every schedule, however it mixes them, serves each owner as if there were no
    other.  Each operation ends and logs as it does when its owner's operations are run
    alone, and so end the scopes, channels and bodies that these name. -/
theorem separate_requests_do_not_interfere (j : Judge) (rs : Registries) (now : String)
    (w : World) (schedule : List (ι × Operation))
    (hseparate : ∀ i k, i ≠ k → ∀ a ∈ own i schedule, ∀ b ∈ own k schedule,
      ∀ c ∈ a.cells, c ∉ b.cells) (i : ι) :
    let together := Operation.runAll j rs now w (schedule.map Prod.snd)
    let alone := Operation.runAll j rs now w (own i schedule)
    (own i (Operation.served j rs now w schedule)).map Effect.seen = alone.1.map Effect.seen ∧
      ∀ op ∈ own i schedule, ∀ c ∈ op.cells, together.2.get c = alone.2.get c := by
  intro together alone
  -- the cells of the owner are those that its own operations name
  let mine : Cell → Prop := fun c => ∃ op ∈ own i schedule, c ∈ op.cells
  have hmine : ∀ op, (i, op) ∈ schedule → ∀ c ∈ op.cells, mine c :=
    fun op hop c hc => ⟨op, mem_own.mpr hop, hc⟩
  have hothers : ∀ k op, k ≠ i → (k, op) ∈ schedule → ∀ c, mine c → c ∉ op.cells := by
    rintro k b hk hb c ⟨a, ha, hc⟩
    exact hseparate i k (Ne.symm hk) a ha b (mem_own.mpr hb) c hc
  have hsame : ∀ c, mine c → w.get c = w.get c := fun _ _ => rfl
  obtain ⟨hseen, hend⟩ := Operation.runAll_own j rs now i mine schedule hmine hothers hsame
  exact ⟨hseen, fun op hop c hc => hend c ⟨op, hop, hc⟩⟩

end

/-- Two requests over one judge: the stream of the one breaks off while the other reads its
    own, is refused by its channel, and writes to its scope too late. -/
theorem broken_stream_is_not_felt_elsewhere :
    let j := Judge.classifier {} .shared
    let rs := Registries.empty
    let e := Fault.streaming .remoteCallError
    let e' : Fault := { e with
      details.response := some (some (.known
        { body := 1, status := 404, headers := [("content-type", "application/json")]
          url := none })) }
    let bodies : Bodies := fun id =>
      .unread [[0x7B], [0x7D]]
        (if id = 0 then some (.raised Known.readError.kind "stream failed") else none)
    let w : World := { bodies := bodies }
    let schedule : List (Bool × Operation) :=
      [(true, .close "b"), (false, .handle e "a" "a"), (true, .handle e' "b" "b"),
        (true, .finalize "b"), (false, .render "a"), (true, .record "b" e'),
        (false, .keep "a" e), (true, .report "b" 404 none)]
    let together := Operation.runAll j rs "9:00" w (schedule.map Prod.snd)
    let alone := Operation.runAll j rs "9:00" w (own true schedule)
    (∀ i k, i ≠ k → ∀ a ∈ own i schedule, ∀ b ∈ own k schedule, ∀ c ∈ a.cells, c ∉ b.cells) ∧
      (own true (Operation.served j rs "9:00" w schedule)).map Effect.seen
        = alone.1.map Effect.seen ∧
      together.2.get (.scope "b") = alone.2.get (.scope "b") ∧
      together.2.bodies 0 = .spent ∧ together.2.bodies 1 = .held [0x7B, 0x7D] := by
  intro j rs e e' bodies w schedule together alone
  have hseparate : ∀ i k, i ≠ k → ∀ a ∈ own i schedule, ∀ b ∈ own k schedule,
      ∀ c ∈ a.cells, c ∉ b.cells := by decide
  obtain ⟨hseen, hend⟩ :=
    separate_requests_do_not_interfere j rs "9:00" w schedule hseparate true
  have hscope := hend (.finalize "b") (mem_own.mpr (by simp [schedule])) (.scope "b")
    List.mem_cons_self
  exact ⟨hseparate, hseen, hscope, rfl, rfl⟩

end FaultResponse
