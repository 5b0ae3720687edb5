import FaultResponse.Proofs.ContextContract
import FaultResponse.Proofs.LogPolicy
import FaultResponse.Proofs.Verbosity
/-! # The trace — what handling leaves in the log, whatever becomes of the answer

    Four loggers write while an exception is handled: the one about a body that could not
    be read, the one of the recorder, the one of the emitter and, behind a request, the one
    that reports.  Each has its place in the trace, and none of them asks the channel. The
    route:

    * `Misses` says when a body leaves a record, in terms of the data alone, and
      `classify_bodyTrace` that classification writes this record and no other, also where
      it fails;
    * `logs_of_classify`: what the emitter writes is what the verdict plans; handling puts
      it behind the warning of the recorder, before it sends;
    * `handed?` is the exception that a request has handled, and `log_dispatch` adds the
      report to its trace: it is made when handling returns, and it is written when the
      exception that then stands on the scope can tell its message;
    * `canReport_keeping_iff`: on a scope that was left open only a mute denial cannot. -/

namespace FaultResponse

/-! ## The record about a body -/

theorem ForeignRead.Notes.logger {typeName : String} {read : ForeignRead} {record : LogRecord}
    (h : read.Notes typeName record) : record.logger = .remote := by
  cases h with
  | uncallable => rfl
  | caught => rfl

namespace Fault

/-- The context of a failed call is told without its body: a document was declared, and
    there is nothing to read it with or the read fails in an expected way, of which the
    record tells. -/
inductive Misses (e : Fault) (bodies : Bodies) : LogRecord → Prop
  | body {r : Response} {x : RemoteContext} {record : LogRecord} :
      e.category = .remoteFailure → e.response? = .ok (some r) →
      (e.remoteContext bodies).outcome = .ok x → r.DeclaresJson →
      (r.reading bodies).Notes r.typeName record → Misses e bodies record

/-- What classification writes: the record of a missed body, if one is missed. -/
inductive BodyTrace (e : Fault) (bodies : Bodies) : List LogRecord → Prop
  | missed {record : LogRecord} : e.Misses bodies record → BodyTrace e bodies [record]
  | nothing : (∀ record, ¬ e.Misses bodies record) → BodyTrace e bodies []

variable {e : Fault} {bodies : Bodies}

theorem isRelayed_of_misses {record : LogRecord} (h : e.Misses bodies record) :
    e.isRelayed = true := by
  cases h with
  | body hc hr => exact isRelayed_of_response hc hr

/-- Of a relayed exception the body is missed exactly when telling its context says so. -/
theorem mem_log_remoteContext_iff (h : e.isRelayed = true) {record : LogRecord} :
    record ∈ (e.remoteContext bodies).log ↔ e.Misses bodies record := by
  constructor
  · intro hrecord
    obtain ⟨⟨x, hx⟩, r, hr, hj, hn⟩ := notes_of_remoteContext hrecord
    exact .body (response_of_isRelayed h).1 hr hx hj hn
  · intro hm
    cases hm with
    | body _ hr hx hj hn =>
        rw [log_of_remoteContext hx hr hj hn]
        exact List.mem_singleton_self record

theorem log_remoteContext_of_misses {record : LogRecord} (h : e.Misses bodies record) :
    (e.remoteContext bodies).log = [record] := by
  cases h with
  | body _ hr hx hj hn => exact log_of_remoteContext hx hr hj hn

theorem BodyTrace.quiet {log : List LogRecord} (h : e.BodyTrace bodies log) {record : LogRecord}
    (hr : record ∈ log) : record.logger = .remote ∧ record.severity = .debug := by
  cases h with
  | nothing => exact nomatch hr
  | missed hm =>
      obtain rfl := List.mem_singleton.mp hr
      cases hm with
      | body _ _ _ _ hn => exact ⟨hn.logger, hn.severity⟩

end Fault

/-- **CLASSIFICATION WRITES ABOUT A MISSED BODY**, whether it returns or fails, and about
    nothing else. -/
theorem Classifier.classify_bodyTrace (c : Classifier) (r : Registry) (e : Fault)
    (bodies : Bodies) : e.BodyTrace bodies (c.classify r e bodies).log := by
  cases h : e.isRelayed with
  | false =>
      obtain ⟨outcome, ho⟩ := c.classify_of_not_relayed r h
      rw [ho]
      refine .nothing ?_
      intro record hm
      exact nomatch (Fault.isRelayed_of_misses hm).symm.trans h
  | true =>
      obtain ⟨hc, response, hr⟩ := Fault.response_of_isRelayed h
      rw [classify_of_response hc hr, Traced.log_andThen]
      by_cases hm : ∃ record, e.Misses bodies record
      · obtain ⟨record, hm⟩ := hm
        rw [Fault.log_remoteContext_of_misses hm]
        exact .missed hm
      · have hnone : (e.remoteContext bodies).log = [] := by
          refine List.eq_nil_iff_forall_not_mem.mpr ?_
          intro record hrecord
          exact hm ⟨record, (Fault.mem_log_remoteContext_iff h).mp hrecord⟩
        rw [hnone]
        exact .nothing fun record hrecord => hm ⟨record, hrecord⟩

/-! ## Handling -/

/-- Every verdict of a classifier plans for the log what it emits. -/
theorem Classifier.logs_of_classify {c : Classifier} {r : Registry} {e : Fault} {bodies : Bodies}
    {v : Verdict} (h : (c.classify r e bodies).outcome = .ok v) :
    ∃ kept, v.subject = some kept ∧ v.Logs kept v.records := by
  obtain ⟨d, hd, hf⟩ := c.classify_eq_ok_iff.mp h
  obtain ⟨m, -, hv⟩ := c.finish_eq_ok_iff.mp hf
  have hlog : v.log = d.log := by rw [hv]
  have hsubject : v.subject = some d.subject := by rw [hv]
  have hcoherent : v.log.Coherent := hlog ▸ log_of_drafts hd
  exact ⟨d.subject, hsubject, Verdict.logs_of_coherent hcoherent hsubject (.sound {})⟩

/-! ## Requests -/

/-- The exception on a scope, if there is one, can tell its message. -/
def Scope.CanReport (s : Scope) : Prop :=
  ∀ kept, s.exception = some kept → ∃ m, kept.message = .ok m

/-- A report is made of a scope exactly when its exception can tell its message. -/
theorem Scope.report_returns_iff {s : Scope} {status : Int} {path : Option Text} {now : String} :
    (∃ a, s.report status path now = .ok a) ↔ s.CanReport := by
  unfold CanReport
  cases hs : s.exception with
  | none =>
      exact iff_of_true ⟨_, report_of_empty hs status path now⟩ fun kept hk => nomatch hk
  | some kept =>
      rw [report_of_kept hs]
      constructor
      · rintro ⟨a, ha⟩ kept' hk
        obtain rfl := Option.some.inj hk
        obtain ⟨m, hm, -⟩ := mapped_eq_ok_iff.mp ha
        exact ⟨m, hm⟩
      · intro htells
        obtain ⟨m, hm⟩ := htells kept rfl
        rw [hm]
        exact ⟨_, rfl⟩

/-- On a scope that was left open, what a verdict keeps can tell its message, unless it is
    a denied access that cannot. -/
theorem Scope.canReport_keeping_iff {s : Scope} (hopen : s.finalized = false) {c : Classifier}
    {r : Registry} {e kept : Fault} {bodies : Bodies} {v : Verdict} (he : e.is .exception = true)
    (hv : (c.classify r e bodies).outcome = .ok v) (hk : v.subject = some kept) :
    (s.keeping kept).CanReport ↔ ¬ e.IsMuteDenial := by
  rw [keeping_of_open hopen]
  constructor
  · rintro htells ⟨-, hdenied, f, hf⟩
    obtain ⟨m, hm⟩ := htells kept rfl
    obtain ⟨d, hd, hfinish⟩ := c.classify_eq_ok_iff.mp hv
    obtain rfl := Classifier.drafts_of_denied hdenied hd
    obtain ⟨text, -, rfl⟩ := c.finish_eq_ok_iff.mp hfinish
    obtain rfl : e = kept := Option.some.inj hk
    exact nomatch hm.symm.trans hf
  · intro hloud kept' hk'
    obtain rfl : kept = kept' := Option.some.inj hk'
    obtain ⟨told, m, htold, hm⟩ := Classifier.told_of_classify hv fun hdenied => by
      cases hmessage : e.message with
      | ok m => exact ⟨m, rfl⟩
      | error f => exact absurd ⟨he, hdenied, f, hmessage⟩ hloud
    obtain rfl : told = kept := Option.some.inj (htold.symm.trans hk)
    exact ⟨m, hm⟩

/-- The exception that a request has handled: what the inner application raised if it is
    ordinary, the missing response if the application was torn down, and none if it
    answered or a signal stopped it. -/
def Inner.handed? (left : Inner) : Option Fault :=
  match left.outcome with
  | .ok _ => none
  | .error e =>
    if e.is .exception then some e
    else if e.cls.kind.isSignal then none
    else some Relay.noAnswer

/-- What is handled is an ordinary exception. -/
theorem Inner.isOrdinary_of_handed {left : Inner} {e : Fault} (h : left.handed? = some e) :
    e.is .exception = true := by
  unfold handed? at h
  cases ho : left.outcome with
  | ok r => simp only [ho] at h; exact nomatch h
  | error raised =>
      simp only [ho] at h
      cases hordinary : raised.is .exception with
      | true =>
          rw [hordinary, if_pos rfl] at h
          obtain rfl := Option.some.inj h
          exact hordinary
      | false =>
          rw [hordinary, if_neg Bool.false_ne_true] at h
          cases hsignal : raised.cls.kind.isSignal with
          | true => rw [hsignal] at h; exact nomatch h
          | false =>
              rw [hsignal, if_neg Bool.false_ne_true] at h
              obtain rfl := Option.some.inj h
              decide

namespace Dispatcher

variable {d : Dispatcher}

theorem logReport_of_loud (h : d.reports = true) (s : Scope) (status : Int) (path : String)
    (log : List LogRecord) :
    d.logReport s status path log
      = (s.report status (some path) d.now).map fun a => log ++ [reportRecord a] := by
  unfold logReport
  rw [if_pos h]
  cases s.report status (some path) d.now with
  | ok a => rfl
  | error f => rfl

/-- What stands in the log of a request behind the trace of handling. -/
inductive Reported (d : Dispatcher) (path : String) (h : Handled) : List LogRecord → Prop
  | written {v : Verdict} {a : Attributes} : h.outcome = .ok v →
      h.slot.scope.report v.status (some path) d.now = .ok a → Reported d path h [reportRecord a]
  | failed {v : Verdict} : h.outcome = .ok v → ¬ h.slot.scope.CanReport → Reported d path h []
  | unhandled {f : Failure} : h.outcome = .error f → Reported d path h []

namespace Reported

variable {path : String} {h : Handled} {last : List LogRecord}

theorem of_error (hlast : d.Reported path h last) {f : Failure} (ho : h.outcome = .error f) :
    last = [] := by
  cases hlast with
  | written hv => exact nomatch ho.symm.trans hv
  | failed => rfl
  | unhandled => rfl

theorem of_ok (hlast : d.Reported path h last) {v : Verdict} (ho : h.outcome = .ok v) :
    (∃ a, h.slot.scope.report v.status (some path) d.now = .ok a ∧ last = [reportRecord a]) ∨
      ¬ h.slot.scope.CanReport ∧ last = [] := by
  cases hlast with
  | written hv ha =>
      obtain rfl := Except.ok.inj (hv.symm.trans ho)
      exact Or.inl ⟨_, ha, rfl⟩
  | failed _ hmute => exact Or.inr ⟨hmute, rfl⟩
  | unhandled hf => exact nomatch hf.symm.trans ho

end Reported

/-- **ONE ANSWER** writes the trace of handling, and behind it what is reported. -/
theorem log_answer (hloud : d.reports = true) (e : Fault) (path : String) (s : Scope) (i : Intake) :
    let h := d.judge.handle d.registries e (.sound s) (.sound {}) i.bodies
    ∃ last, d.Reported path h last ∧ (d.answer e path s i).log = h.log ++ last := by
  intro h
  have hlog : ∀ {v}, h.outcome = .ok v → d.logReport h.slot.scope v.status path h.log = _ :=
    fun _ => logReport_of_loud hloud _ _ _ _
  unfold answer
  cases ho : h.outcome with
  | error f =>
      refine ⟨[], .unhandled ho, ?_⟩
      simp only [h, ho, List.append_nil]
  | ok v =>
      have hall := hlog ho
      cases hr : h.slot.scope.report v.status (some path) d.now with
      | ok a =>
          rw [hr] at hall
          refine ⟨[reportRecord a], .written ho hr, ?_⟩
          simp only [h] at ho hall ⊢
          simp only [ho, hall, Except.map]
      | error f =>
          rw [hr] at hall
          refine ⟨[], .failed ho ?_, ?_⟩
          · intro htells
            obtain ⟨a, ha⟩ := Scope.report_returns_iff.mpr htells
            exact nomatch ha.symm.trans hr
          · simp only [h] at ho hall ⊢
            simp only [ho, hall, Except.map, List.append_nil]

/-- **ONE REQUEST** writes what handling its exception writes and what is reported behind,
    and nothing if there is no exception to handle. -/
theorem log_dispatch (hloud : d.reports = true) (id path : String) (inner : Scope → Inner) :
    let left := inner { requestId := id }
    (left.handed? = none → (d.dispatch id path inner).log = []) ∧
    ∀ e, left.handed? = some e →
      let h := d.judge.handle d.registries e (.sound left.scope) (.sound {}) left.intake.bodies
      ∃ last, d.Reported path h last ∧ (d.dispatch id path inner).log = h.log ++ last := by
  intro left
  have hx : d.Dispatched path left (d.dispatch id path inner) := d.dispatch_dispatched id path inner
  -- how the request ended tells whether there was an exception to handle
  generalize d.dispatch id path inner = x at hx ⊢
  unfold Inner.handed?
  cases hx with
  | passed ho =>
      rw [ho]
      exact ⟨fun _ => rfl, fun e he => nomatch he⟩
  | answered ho hordinary =>
      simp only [ho, hordinary, if_true]
      refine ⟨nofun, ?_⟩
      intro e he
      obtain rfl := Option.some.inj he
      exact log_answer hloud _ path left.scope left.intake
  | signalled ho hother hsignal =>
      refine ⟨fun _ => rfl, ?_⟩
      intro e he
      simp [ho, hother, hsignal] at he
  | torn ho hother hsignal hanswer =>
      simp only [ho, hother, hsignal]
      refine ⟨nofun, ?_⟩
      intro e he
      obtain rfl := Option.some.inj he
      rw [hanswer]
      exact log_answer hloud _ path left.scope left.intake

end Dispatcher

/-! ## The whole -/

/-- **EVERY ANSWER LEAVES ITS TRACE**, on every sink the same: the record of a missed body,
    then the warning of the recorder if the scope is finalized, which names the class of
    the exception that the verdict keeps, then the record of the emitter if the verdict
    plans one.  A classification that fails leaves the first of them at most.  Behind a
    request with DEBUG enabled one report follows exactly if handling returned and the
    exception that then stands on the scope can tell its message; on a scope that was left
    open only a denied access cannot. -/
theorem every_answer_leaves_its_trace (c : Classifier) (name : RegistryName) (rs : Registries) :
    let j := Judge.classifier c name
    (∀ (e : Fault) (s : Scope) (bodies : Bodies),
      let judged := j.classify rs e bodies
      let trace : Sink → List LogRecord := fun sink => (j.handle rs e (.sound s) sink bodies).log
      e.BodyTrace bodies judged.log ∧
      (∀ record ∈ judged.log, record.logger = .remote ∧ record.severity = .debug) ∧
      (∀ f, judged.outcome = .error f → ∀ sink, trace sink = judged.log) ∧
      ∀ v, judged.outcome = .ok v → ∃ kept emitted, v.subject = some kept ∧ v.Logs kept emitted ∧
        ∀ sink, trace sink = judged.log
          ++ (if s.finalized then [refusedRecord kept (.scopeFinalized s.requestId)] else [])
          ++ emitted) ∧
    ∀ (level : Int) (now id path : String) (inner : Scope → Inner),
      level ≤ Severity.debug.level →
      let left := inner { requestId := id }
      let log := (Dispatcher.dispatch ⟨j, rs, level, now⟩ id path inner).log
      (left.handed? = none → log = []) ∧
      ∀ e, left.handed? = some e →
        let h := j.handle rs e (.sound left.scope) (.sound {}) left.intake.bodies
        let stands := h.slot.scope
        (∀ f, h.outcome = .error f → log = h.log) ∧
        ∀ v, h.outcome = .ok v →
          (stands.CanReport → ∃ a, stands.report v.status (some path) now = .ok a ∧
            log = h.log ++ [Dispatcher.reportRecord a]) ∧
          (¬ stands.CanReport → log = h.log) ∧
          (left.scope.finalized = false → (stands.CanReport ↔ ¬ e.IsMuteDenial)) := by
  intro j
  refine ⟨?_, ?_⟩
  · intro e s bodies judged trace
    have hbody : e.BodyTrace bodies judged.log := c.classify_bodyTrace (rs name) e bodies
    refine ⟨hbody, fun record hr => hbody.quiet hr, ?_, ?_⟩
    · intro f hf sink
      exact congrArg Handled.log (Judge.handle_of_failed hf)
    · intro v hv
      obtain ⟨kept, hk, hlogs⟩ := Classifier.logs_of_classify hv
      refine ⟨kept, v.records, hk, hlogs, ?_⟩
      intro sink
      have hlog : trace sink = _ := congrArg Handled.log (Judge.handle_on_scope hv s sink)
      rw [hlog, hk]
      rfl
  · intro level now id path inner hlevel left log
    obtain ⟨hnone, hsome⟩ := Dispatcher.log_dispatch (d := ⟨j, rs, level, now⟩)
      (decide_eq_true hlevel) id path inner
    refine ⟨hnone, ?_⟩
    intro e he h stands
    obtain ⟨last, hlast, hlog⟩ := hsome e he
    have hlog : log = h.log ++ last := hlog
    refine ⟨?_, ?_⟩
    · intro f hf
      rw [hlog, hlast.of_error hf, List.append_nil]
    · intro v hv
      refine ⟨?_, ?_, ?_⟩
      · intro htells
        rcases hlast.of_ok hv with ⟨a, ha, rfl⟩ | ⟨hmute, -⟩
        · exact ⟨a, ha, hlog⟩
        · exact absurd htells hmute
      · intro hmute
        rcases hlast.of_ok hv with ⟨a, ha, -⟩ | ⟨-, rfl⟩
        · exact absurd (Scope.report_returns_iff.mp ⟨a, ha⟩) hmute
        · rw [hlog, List.append_nil]
      · intro hopen
        obtain ⟨hjudged, -⟩ := Judge.handle_eq_ok_iff.mp hv
        obtain ⟨kept, hk⟩ := Classifier.subject_of_classify hjudged
        have hstands : stands = left.scope.keeping (v.subject.getD e) :=
          congrArg (fun x => x.slot.scope) (Judge.handle_on_scope hjudged left.scope (.sound {}))
        rw [hstands, hk]
        exact Scope.canReport_keeping_iff hopen (Inner.isOrdinary_of_handed he) hjudged hk

/-- The trace of a document that cannot be read, for a finalized scope and a channel that
    was closed: both refusals stand behind one another.  Behind a request that left its
    scope open the report takes the place of the warning. -/
theorem unread_document_is_traced :
    let reset : Failure := .raised Known.osError.kind "reset"
    let e := Fault.documented (.failing reset)
    let j := Judge.classifier {} .shared
    let bodies : Bodies := fun _ => .closed
    let d : Dispatcher := ⟨j, .empty, Severity.debug.level, "9:00"⟩
    let x := d.dispatch "r-1" "/quota" fun s => ⟨.error e, s, ⟨0, bodies⟩⟩
    (∃ kept, (j.handle .empty e (.sound ⟨"r-1", none, true⟩) (.sound ⟨none, true⟩) bodies).log
        = [Response.unreadableRecord reset, refusedRecord kept (.scopeFinalized "r-1")]) ∧
      ∃ a, x.log = [Response.unreadableRecord reset, Dispatcher.reportRecord a] := by
  intro reset e j bodies d x
  obtain ⟨hhandled, hrequest⟩ := every_answer_leaves_its_trace {} .shared .empty
  have hv : (j.classify .empty e bodies).outcome = .ok _ := rfl
  constructor
  · obtain ⟨-, -, -, htrace⟩ := hhandled e ⟨"r-1", none, true⟩ bodies
    obtain ⟨kept, emitted, -, hlogs, hsame⟩ := htrace _ hv
    refine ⟨kept, ?_⟩
    cases hlogs with
    | nothing => exact hsame (.sound ⟨none, true⟩)
    | record hlevel => exact nomatch hlevel
  · obtain ⟨-, hsome⟩ := hrequest Severity.debug.level "9:00" "r-1" "/quota"
      (fun s => ⟨.error e, s, ⟨0, bodies⟩⟩) (Int.le_refl _)
    obtain ⟨-, hreturned⟩ := hsome e rfl
    obtain ⟨hreport, -, hopen⟩ := hreturned _ rfl
    have hloud : ¬ e.IsMuteDenial := by
      rintro ⟨-, hdenied, -⟩
      exact nomatch hdenied
    obtain ⟨a, -, hlog⟩ := hreport ((hopen rfl).mpr hloud)
    exact ⟨a, hlog⟩

/-- Handling a denied access that cannot tell its message returns a verdict, and no report
    follows its trace: the request fails in its place. -/
theorem mute_denial_goes_unreported :
    let e : Fault := ⟨recordLocked, { arguments := [.text "record 7 is locked"] }⟩
    let j := Judge.classifier {} .shared
    let d : Dispatcher := ⟨j, .empty, Severity.debug.level, "9:00"⟩
    let h := j.handle .empty e (.sound { requestId := "r-1" }) (.sound {}) fun _ => .closed
    let x := d.dispatch "r-1" "/q" fun s => ⟨.error e, s, {}⟩
    Fault.make recordLocked { values := [.text "record 7 is locked"] } = .ok e ∧
      (∃ v, h.outcome = .ok v ∧ v.status = 403) ∧
      ∀ a, x.log ≠ h.log ++ [Dispatcher.reportRecord a] := by
  intro e j d h x
  have hlog : x.log = [] := rfl
  have hquiet : h.log = [] := rfl
  refine ⟨rfl, ⟨_, rfl, rfl⟩, ?_⟩
  intro a
  rw [hlog, hquiet]
  exact nofun

end FaultResponse
