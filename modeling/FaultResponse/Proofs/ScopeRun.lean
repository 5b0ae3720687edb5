import FaultResponse.Proofs.ChannelRun
/-! # Scopes in a run — the last write before the first close

    A scope is written to by hand, by the recorder and by handling, and is closed at some
    moment, maybe more than once.  What it holds after a run is told by its history alone:

    * `Operation.writes?` is the exception that an operation writes to a scope, and
      `Operation.written` lists those that were written before the scope was closed;
    * `run_touch`, the step: whatever the operation and however it ends, the scope keeps
      what is written, is closed, or is left alone (`Touch`);
    * `runAll_scopeHistory`, the run: by induction over the operations an open scope holds
      the last member of the list, and a closed one is as it was.

    Handling counts as a write as soon as its classification returns: what becomes of the
    error on the channel plays no part in `writes?`. -/

namespace FaultResponse

namespace Operation

/-! ## What an operation writes to a scope -/

/-- Whether an operation closes a scope. -/
def finalizes (name : String) : Operation → Bool
  | finalize scope => decide (scope = name)
  | handle .. | emit .. | send .. | close _ | render _ | record .. | keep .. | report .. => false

/-- The exception that an operation writes to a scope, as far as the scope allows it. -/
def writes? (j : Judge) (rs : Registries) (w : World) (name : String) :
    Operation → Option Fault
  | handle e scope _ =>
    if scope = name then
      match (j.classify rs e w.bodies).outcome with
      | .error _ => none
      | .ok v => some (v.subject.getD e)
    else none
  | record scope e | keep scope e => if scope = name then some e else none
  | emit .. | send .. | close _ | render _ | finalize _ | report .. => none

/-- The exceptions that were written to a scope in a run before it was closed, in order. -/
def written (j : Judge) (rs : Registries) (now name : String) :
    World → List Operation → List Fault
  | _, [] => []
  | w, op :: ops =>
    if op.finalizes name then []
    else (op.writes? j rs w name).toList ++ written j rs now name (op.run j rs now w).world ops

theorem finalizes_iff {name : String} {op : Operation} :
    op.finalizes name = true ↔ op = .finalize name := by
  cases op with
  | finalize scope => simp [finalizes]
  | handle | emit | send | close | render | record | keep | report => simp [finalizes]

/-! ## One operation -/

/-- What an operation can do to a scope, by what it writes. -/
inductive Touch (name : String) (op : Operation) (s : Scope) : Option Fault → Scope → Prop
  | wrote {e : Fault} : op.finalizes name = false → Touch name op s (some e) (s.keeping e)
  | closed : op.finalizes name = true → Touch name op s none s.finalize
  | left : op.finalizes name = false → Touch name op s none s

variable {j : Judge} {rs : Registries} {now : String} {w : World} {name : String} {s : Scope}

/-- A scope that an operation does not name is left alone. -/
theorem touch_of_elsewhere {op : Operation} (hop : op.finalizes name = false)
    (hw : w.slots name = .sound s) {x : Effect} (hworld : x.world.slots name = w.slots name) :
    ∃ d, x.world.slots name = .sound d ∧ op.Touch name s none d :=
  ⟨s, hworld.trans hw, .left hop⟩

/-- A write to one scope, seen from this one or from another. -/
theorem touch_of_write {op : Operation} (hop : op.finalizes name = false)
    (hw : w.slots name = .sound s) {scope : String} {e : Fault} {x : Effect}
    (hhere : scope = name → x.world.slots name = .sound (s.keeping e))
    (helse : scope ≠ name → x.world.slots name = w.slots name) :
    ∃ d, x.world.slots name = .sound d ∧
      op.Touch name s (if scope = name then some e else none) d := by
  by_cases hn : scope = name
  · rw [if_pos hn]
    exact ⟨_, hhere hn, .wrote hop⟩
  · rw [if_neg hn]
    exact touch_of_elsewhere hop hw (helse hn)

/-- Keeping by hand leaves on an open scope what the recorder would leave, and fails on a
    finalized one. -/
theorem run_record (hw : w.slots name = .sound s) (e : Fault) :
    (record name e).run j rs now w =
      if s.finalized then ⟨.error (.scopeFinalized s.requestId), w, []⟩
      else ⟨.ok .done, w.setSlot name (.sound { s with exception := some e }), []⟩ := by
  rcases Bool.eq_false_or_eq_true s.finalized with hf | hf
  · rw [if_pos hf]
    simp only [run, hw, Slot.record, Scope.record_of_finalized hf]
  · rw [if_neg (Bool.eq_false_iff.mp hf)]
    simp only [run, hw, Slot.record, Scope.record_of_open hf]

/-- The recorder never fails on a scope that works. -/
theorem run_keep (hw : w.slots name = .sound s) (e : Fault) :
    (keep name e).run j rs now w =
      ⟨.ok .done, w.setSlot name (.sound (s.keeping e)), s.keepingLog e⟩ := by
  simp only [run, hw, Slot.keep_sound]

/-- What handling leaves on its scope: the exception that the verdict names, also when the
    error is refused afterwards. -/
theorem handle_touch (e : Fault) (channel : String) (hw : w.slots name = .sound s) :
    let op := handle e name channel
    ∃ d, (op.run j rs now w).world.slots name = .sound d ∧
      op.Touch name s (op.writes? j rs w name) d := by
  intro op
  have hslot : (op.run j rs now w).world.slots name
      = (j.handle rs e (w.slots name) (w.sinks channel) w.bodies).slot := Store.set_self _ _ _
  cases hj : (j.classify rs e w.bodies).outcome with
  | error f =>
      have hnone : op.writes? j rs w name = none := by
        simp only [op, writes?, if_true, hj]
      rw [Judge.handle_of_failed hj] at hslot
      rw [hnone]
      exact touch_of_elsewhere rfl hw hslot
  | ok v =>
      have hsome : op.writes? j rs w name = some (v.subject.getD e) := by
        simp only [op, writes?, if_true, hj]
      -- the scope is written to before the channel is asked, so a refusal comes too late
      rw [hw, Judge.handle_on_scope hj] at hslot
      rw [hsome]
      exact ⟨_, hslot, .wrote rfl⟩

/-- **ONE OPERATION** does one of three things to a scope, whether it fails or not. -/
theorem run_touch (j : Judge) (rs : Registries) (now : String) (op : Operation)
    (hw : w.slots name = .sound s) :
    ∃ d, (op.run j rs now w).world.slots name = .sound d ∧
      op.Touch name s (op.writes? j rs w name) d := by
  cases op with
  | handle e scope channel =>
      by_cases hn : scope = name
      · subst hn
        exact handle_touch e channel hw
      · have hnone : (handle e scope channel).writes? j rs w name = none := if_neg hn
        rw [hnone]
        exact touch_of_elsewhere rfl hw (Store.set_of_ne _ _ (Ne.symm hn))
  | record scope e =>
      refine touch_of_write rfl hw (fun hn => ?_) fun hn => ?_
      · subst hn
        rw [run_record hw]
        unfold Scope.keeping
        cases s.finalized with
        | true => exact hw
        | false => exact Store.set_self _ _ _
      · cases hs : (w.slots scope).record e with
        | error f => simp only [run, hs]
        | ok t =>
            simp only [run, hs]
            exact Store.set_of_ne _ _ (Ne.symm hn)
  | keep scope e =>
      refine touch_of_write rfl hw (fun hn => ?_) fun hn => ?_
      · subst hn
        rw [run_keep hw]
        exact Store.set_self _ _ _
      · cases hs : (w.slots scope).keep e with
        | mk kept log =>
            cases kept with
            | error f => simp only [run, hs]
            | ok t =>
                simp only [run, hs]
                exact Store.set_of_ne _ _ (Ne.symm hn)
  | finalize scope =>
      by_cases hn : scope = name
      · subst hn
        refine ⟨s.finalize, ?_, .closed (finalizes_iff.mpr rfl)⟩
        show w.slots.set scope (w.slots scope).finalize scope = .sound s.finalize
        rw [Store.set_self, hw]
        rfl
      · have hop : (finalize scope).finalizes name = false := decide_eq_false hn
        exact touch_of_elsewhere hop hw (Store.set_of_ne _ _ (Ne.symm hn))
  -- the other operations look at a scope at most
  | emit v channel =>
      rw [run_emit]
      exact touch_of_elsewhere rfl hw rfl
  | send channel status message =>
      rw [run_send]
      exact touch_of_elsewhere rfl hw rfl
  | close channel => exact touch_of_elsewhere rfl hw rfl
  | render channel => exact touch_of_elsewhere rfl hw rfl
  | report scope status path => exact touch_of_elsewhere rfl hw rfl

end Operation

/-! ## A run -/

/-- What operations make of a scope, told by the exceptions that were written in time. -/
structure Scope.History (name : String) (s d : Scope) (ops : List Operation)
    (written : List Fault) : Prop where
  requestId : d.requestId = s.requestId
  finalized : d.finalized = true ↔ s.finalized = true ∨ Operation.finalize name ∈ ops
  /-- An open scope comes to hold the last exception, or what it held. -/
  exception : s.finalized = false → d.exception = written.getLast?.or s.exception
  /-- A finalized scope does not change any more. -/
  settled : s.finalized = true → d = s

namespace Operation

variable {j : Judge} {rs : Registries} {now : String} {w : World} {name : String} {s : Scope}

/-- A write in front of others is what they fall back on. -/
theorem getLast?_append_or (e : Fault) (later : List Fault) (held : Option Fault) :
    ([e] ++ later).getLast?.or held = later.getLast?.or (some e) := by
  rw [List.getLast?_append]
  cases later.getLast? with
  | none => rfl
  | some last => rfl

/-- One operation in front of a run. -/
theorem Touch.history {op : Operation} {ops : List Operation} {wrote : Option Fault}
    {d final : Scope} {later : List Fault} (h : op.Touch name s wrote d)
    (hrest : d.History name final ops later) :
    s.History name final (op :: ops)
      (if op.finalizes name then [] else wrote.toList ++ later) := by
  have hclose : op.finalizes name = false → (finalize name ∈ op :: ops ↔ finalize name ∈ ops) := by
    intro hop
    rw [List.mem_cons, or_iff_right]
    rintro rfl
    exact nomatch hop.symm.trans (finalizes_iff.mpr rfl)
  cases h with
  | @wrote e hop =>
      rw [hop, if_neg Bool.false_ne_true]
      unfold Scope.keeping at hrest
      rcases Bool.eq_false_or_eq_true s.finalized with hs | hs
      · -- a finalized scope refuses the write, and the list says nothing about it
        rw [if_pos hs] at hrest
        exact
          { requestId := hrest.requestId
            finalized := by rw [hclose hop]; exact hrest.finalized
            exception := fun ho => nomatch hs.symm.trans ho
            settled := hrest.settled }
      · -- an open scope falls back on this write if nothing else is written in time
        rw [if_neg (Bool.eq_false_iff.mp hs)] at hrest
        refine
          { requestId := hrest.requestId
            finalized := by rw [hclose hop]; exact hrest.finalized
            exception := fun _ => ?_
            settled := fun hf => nomatch hs.symm.trans hf }
        rw [hrest.exception hs]
        exact (getLast?_append_or e later s.exception).symm
  | closed hop =>
      -- the rest of the run finds a finalized scope
      rw [hop, if_pos rfl]
      obtain rfl : final = s.finalize := hrest.settled rfl
      refine
        { requestId := rfl
          finalized := ⟨fun _ => Or.inr ?_, fun _ => rfl⟩
          exception := fun _ => rfl
          settled := fun hf => ?_ }
      · rw [finalizes_iff.mp hop]
        exact List.mem_cons_self
      · unfold Scope.finalize
        rw [← hf]
  | left hop =>
      rw [hop, if_neg Bool.false_ne_true]
      exact
        { requestId := hrest.requestId
          finalized := by rw [hclose hop]; exact hrest.finalized
          exception := hrest.exception
          settled := hrest.settled }

/-- **A RUN** makes of a scope what the exceptions tell that were written in time. -/
theorem runAll_scopeHistory (j : Judge) (rs : Registries) (now : String) (ops : List Operation)
    (hw : w.slots name = .sound s) :
    ∃ d, (runAll j rs now w ops).2.slots name = .sound d ∧
      s.History name d ops (written j rs now name w ops) := by
  induction ops generalizing w s with
  | nil =>
      refine ⟨s, hw, rfl, ?_, fun _ => rfl, fun _ => rfl⟩
      rw [or_iff_left List.not_mem_nil]
  | cons op rest ih =>
      obtain ⟨d, hd, htouch⟩ := run_touch j rs now op hw
      obtain ⟨final, hfinal, hrest⟩ := ih hd
      exact ⟨final, hfinal, htouch.history hrest⟩

end Operation

/-! ## What a scope tells -/

/-- **THE LAST WRITE BEFORE THE FIRST CLOSE**, over any run of operations on any scopes and
    channels.  Up to any moment a new scope holds the last exception that was written
    before it was closed, or none, is finalized exactly if it was closed, and has the
    request id that it was made with.  Open, it takes every write without a word.
    Finalized, it is the same for the rest of the run: a write by hand fails, and the
    recorder, on its own or in handling, makes of the same failure one warning. -/
theorem scope_holds_last_write (j : Judge) (rs : Registries) (now : String) {w : World}
    {name id : String} (hw : w.slots name = .sound { requestId := id })
    (before after : List Operation) (e : Fault) (channel : String) :
    let u := (Operation.runAll j rs now w before).2
    let later := (Operation.runAll j rs now w (before ++ after)).2
    let s := (u.slots name).scope
    let refusal := Failure.scopeFinalized id
    let direct := (Operation.record name e).run j rs now u
    let kept := (Operation.keep name e).run j rs now u
    let judged := j.classify rs e u.bodies
    let handled := (Operation.handle e name channel).run j rs now u
    (u.slots name = .sound s ∧ s.requestId = id ∧
        s.exception = (Operation.written j rs now name w before).getLast? ∧
        (s.finalized = true ↔ Operation.finalize name ∈ before)) ∧
      (Operation.finalize name ∉ before →
        (direct.outcome = .ok .done ∧ direct.log = []) ∧
          kept.outcome = .ok .done ∧ kept.log = []) ∧
      (Operation.finalize name ∈ before →
        later.slots name = u.slots name ∧
        (direct.outcome = .error refusal ∧ refusal.kind = Known.scopeFinalized.kind ∧
          direct.world = u ∧ direct.log = []) ∧
        (kept.outcome = .ok .done ∧ kept.world = u ∧ kept.log = [refusedRecord e refusal]) ∧
        ∀ v, judged.outcome = .ok v →
          handled.log = judged.log ++ [refusedRecord (v.subject.getD e) refusal] ++ v.records) := by
  intro u later s refusal direct kept judged handled
  obtain ⟨d, hd, hhistory⟩ := Operation.runAll_scopeHistory j rs now before hw
  have hu : u.slots name = .sound d := hd
  obtain rfl : s = d := congrArg Slot.scope hu
  have hid : s.requestId = id := hhistory.requestId
  have hexception : s.exception = (Operation.written j rs now name w before).getLast? :=
    (hhistory.exception rfl).trans (Option.or_none)
  have hfinalized : s.finalized = true ↔ Operation.finalize name ∈ before :=
    hhistory.finalized.trans (or_iff_right Bool.false_ne_true)
  have hdirect : direct = _ := Operation.run_record hu e
  have hkept : kept = _ := Operation.run_keep hu e
  refine ⟨⟨hu, hid, hexception, hfinalized⟩, ?_, ?_⟩
  · intro hopen
    have hf : s.finalized = false := Bool.eq_false_iff.mpr fun h => hopen (hfinalized.mp h)
    rw [hdirect, hkept, Scope.keepingLog, hf]
    exact ⟨⟨rfl, rfl⟩, rfl, rfl⟩
  · intro hclosed
    have hf : s.finalized = true := hfinalized.mpr hclosed
    -- a write that is refused puts back what the scope held
    have hsame : u.setSlot name (.sound (s.keeping e)) = u := by
      unfold World.setSlot Scope.keeping
      rw [if_pos hf, ← hu, Store.set_get]
    obtain ⟨final, hfinal, hrest⟩ := Operation.runAll_scopeHistory j rs now after hu
    rw [← Operation.runAll_append, hrest.settled hf] at hfinal
    rw [hf, if_pos rfl, hid] at hdirect
    rw [hsame, Scope.keepingLog, if_pos hf, hid] at hkept
    refine ⟨hfinal.trans hu.symm, ?_, ?_, ?_⟩
    · rw [hdirect]
      exact ⟨rfl, rfl, rfl, rfl⟩
    · rw [hkept]
      exact ⟨rfl, rfl, rfl⟩
    · intro v hv
      show (j.handle rs e (u.slots name) (u.sinks channel) u.bodies).log = _
      rw [hu, Judge.handle_on_scope hv, Scope.keepingLog, if_pos hf, hid]

/-- Two scopes of one run: handling keeps its exception although the channel is closed, a
    failed classification keeps nothing, and what comes after the close is too late. -/
theorem late_writes_are_refused :
    let g : Failure := .raised Known.lookupError.kind "no guidance"
    let j := Judge.classifier {} .shared
    let rs := Registries.empty
    let e : Fault := .ofText .timeoutError "late"
    let before : List Operation :=
      [.record "s" (.ofText .keyError "k"), .close "c", .handle e "s" "c", .finalize "t",
        .keep "t" e, .finalize "s"]
    let w : World := { slots := fun _ => .sound { requestId := "r-1" } }
    let u := (Operation.runAll j rs "9:00" w before).2
    let j' := Judge.classifier { decorator := .failing g } .shared
    let u' := (Operation.runAll j' rs "9:00" w before).2
    (Operation.written j rs "9:00" "s" w before).getLast? = some e ∧
      u.slots "s" = .sound ⟨"r-1", some e, true⟩ ∧
      u.slots "t" = .sound ⟨"r-1", none, true⟩ ∧
      ((Operation.record "s" e).run j rs "9:00" u).outcome = .error (.scopeFinalized "r-1") ∧
      u'.slots "s" = .sound ⟨"r-1", some (.ofText .keyError "k"), true⟩ := by
  intro g j rs e before w u j' u'
  have hw : ∀ name, w.slots name = .sound { requestId := "r-1" } := fun _ => rfl
  obtain ⟨⟨hs, -, hlast, -⟩, -, hrefused⟩ :=
    scope_holds_last_write j rs "9:00" (hw "s") before [] e "c"
  obtain ⟨-, ⟨hdirect, -⟩, -⟩ :=
    hrefused (List.mem_append_right [_, _, _, _, _] List.mem_cons_self)
  exact ⟨rfl, rfl, rfl, hdirect, rfl⟩

end FaultResponse
