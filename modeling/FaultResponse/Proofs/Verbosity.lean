import FaultResponse.Proofs.Dispatch
import FaultResponse.Proofs.Escape
/-! # Verbosity — what the level of the log can change about a request

    The level decides two things: which records are seen, and whether a report is made.
    So a request at one level is compared with a quiet one, in which no report is made:

    * `WithReport` lists what a report can do to a quiet exchange: nothing, one DEBUG
      record behind the others, or a failure in the place of the response;
    * `dispatch_withReport`: it does nothing else, and it fails on a mute denial only,
      which is a denied access that cannot tell its message;
    * `recover_of_muteDenial`: there it does fail, so the condition is exact.

    The scope, and what a level shows of the log, do not depend on the report even then:
    `level_changes_no_answer_iff`. -/

namespace FaultResponse

/-! ## What is seen -/

/-- No record is below DEBUG. -/
theorem visibleAt_of_le_debug {level : Int} (h : level ≤ Severity.debug.level)
    (log : List LogRecord) : visibleAt level log = log := by
  unfold visibleAt
  rw [List.filter_eq_self]
  intro r _
  have hr : (Severity.debug.level : Int) ≤ r.severity.level := by
    cases r.severity with
    | debug => decide
    | warning => decide
    | error => decide
  exact decide_eq_true (Int.le_trans h hr)

/-- An ordinary exception that is a denied access and cannot tell its message. -/
def Fault.IsMuteDenial (e : Fault) : Prop :=
  e.is .exception = true ∧ e.category = .accessDenied ∧ ∃ f, e.message = .error f

/-! ## A quiet exchange and a report -/

/-- What a report can make of a quiet exchange; it fails only where that is allowed. -/
inductive Exchange.WithReport (mute : Prop) (quiet : Exchange) : Exchange → Prop
  | missing : WithReport mute quiet quiet
  | written (a : Attributes) :
      WithReport mute quiet { quiet with log := quiet.log ++ [Dispatcher.reportRecord a] }
  | failed (f : Failure) : mute → WithReport mute quiet { quiet with outcome := .error f }

namespace Exchange.WithReport

variable {mute : Prop} {quiet x : Exchange}

theorem weaken {allowed : Prop} (h : WithReport mute quiet x) (hm : mute → allowed) :
    WithReport allowed quiet x := by
  cases h with
  | missing => exact .missing
  | written a => exact .written a
  | failed f hmute => exact .failed f (hm hmute)

theorem scope (h : WithReport mute quiet x) : x.scope = quiet.scope := by
  cases h with
  | missing => rfl
  | written => rfl
  | failed => rfl

theorem visible (h : WithReport mute quiet x) {level : Int}
    (hl : Severity.debug.level < level) : visibleAt level x.log = visibleAt level quiet.log := by
  cases h with
  | missing => rfl
  | failed => rfl
  | written a =>
      have hreport : visibleAt level [Dispatcher.reportRecord a] = [] :=
        visibleAt_of_debug hl (DebugOnly.singleton rfl)
      rw [visibleAt_append, hreport, List.append_nil]

theorem outcome (h : WithReport mute quiet x) (hm : ¬ mute) : x.outcome = quiet.outcome := by
  cases h with
  | missing => rfl
  | written => rfl
  | failed _ hmute => exact absurd hmute hm

end Exchange.WithReport

theorem Exchange.WithReport.escape {mute : Prop} {quiet x : Exchange}
    (h : WithReport mute quiet x) (e : Fault) :
    WithReport mute { quiet with outcome := Relay.escape e quiet.outcome }
      { x with outcome := Relay.escape e x.outcome } := by
  cases h with
  | missing => exact .missing
  | written a => exact .written a
  | failed f hmute => exact .failed _ hmute

/-! ## One report -/

/-- A report fails exactly as the exception that was kept fails to tell its message. -/
theorem Scope.report_eq_error_iff {s : Scope} {kept : Fault} (hs : s.exception = some kept)
    {status : Int} {path : Option Text} {now : String} {f : Failure} :
    s.report status path now = .error f ↔ kept.message = .error f := by
  rw [report_of_kept hs, mapped_eq_error_iff]

namespace Dispatcher

variable {d : Dispatcher} {e : Fault} {path : String} {s : Scope} {i : Intake}

/-- The same dispatcher at another level. -/
def atLevel (d : Dispatcher) (level : Int) : Dispatcher :=
  { d with level := level }

theorem logReport_of_mute (h : d.reports = true) {kept : Fault} (hs : s.exception = some kept)
    {f : Failure} (hm : kept.message = .error f) (status : Int) (path : String)
    (log : List LogRecord) : d.logReport s status path log = .error f := by
  unfold logReport
  rw [if_pos h, (Scope.report_eq_error_iff hs).mpr hm]

/-- There is no report, or it is one record more, or it fails on a mute exception. -/
theorem logReport_cases (d : Dispatcher) {kept : Fault} (hs : s.exception = some kept)
    (status : Int) (path : String) (log : List LogRecord) :
    d.logReport s status path log = .ok log ∨
      (∃ a, d.logReport s status path log = .ok (log ++ [reportRecord a])) ∨
      ∃ f, kept.message = .error f ∧ d.logReport s status path log = .error f := by
  unfold logReport
  cases d.reports with
  | false => exact Or.inl rfl
  | true =>
      rw [if_pos rfl]
      cases hr : s.report status (some path) d.now with
      | ok a => exact Or.inr (Or.inl ⟨a, rfl⟩)
      | error f => exact Or.inr (Or.inr ⟨f, (Scope.report_eq_error_iff hs).mp hr, rfl⟩)

/-! ## One answer -/

/-- **ONE ANSWER**, with a report and without.  What a verdict keeps can tell its message,
    unless it is a denied access. -/
theorem answer_withReport {c : Classifier} {name : RegistryName}
    (hjudge : d.judge = .classifier c name) {quiet : Int}
    (hquiet : (d.atLevel quiet).reports = false) (e : Fault) (path : String)
    (hopen : s.finalized = false) (i : Intake) :
    Exchange.WithReport (e.category = .accessDenied ∧ ∃ f, e.message = .error f)
      ((d.atLevel quiet).answer e path s i) (d.answer e path s i) := by
  cases hv : (d.judge.classify d.registries e i.bodies).outcome with
  | error f =>
      rw [answer_of_failed hv, answer_of_failed (d := d.atLevel quiet) hv]
      exact .missing
  | ok v =>
      rw [answer_of_classified hv, answer_of_classified (d := d.atLevel quiet) hv,
        logReport_of_quiet hquiet]
      rw [hjudge] at hv
      obtain ⟨kept, hk⟩ := Classifier.subject_of_classify hv
      rw [hk, Option.getD_some, Scope.keeping_of_open hopen]
      rcases d.logReport_cases (s := { s with exception := some kept }) rfl v.status path
          ((d.judge.classify d.registries e i.bodies).log ++ s.keepingLog kept ++ v.records)
        with hl | ⟨a, hl⟩ | ⟨f, hm, hl⟩
      · rw [hl]
        exact .missing
      · rw [hl]
        exact .written a
      · rw [hl]
        refine .failed _ (Classical.not_not.mp ?_)
        intro htells
        obtain ⟨kept', m, hk', hm'⟩ := Classifier.told_of_classify hv fun hdenied => by
          cases hmessage : e.message with
          | error g => exact absurd ⟨hdenied, g, hmessage⟩ htells
          | ok m => exact ⟨m, rfl⟩
        obtain rfl := Option.some.inj (hk.symm.trans hk')
        exact nomatch hm.symm.trans hm'

/-! ## One request -/

theorem recover_withReport {c : Classifier} {name : RegistryName}
    (hjudge : d.judge = .classifier c name) {quiet : Int}
    (hquiet : (d.atLevel quiet).reports = false) (e : Fault) (path : String)
    (hopen : s.finalized = false) (i : Intake) :
    Exchange.WithReport e.IsMuteDenial ((d.atLevel quiet).recover e path s i)
      (d.recover e path s i) := by
  cases he : e.is .exception with
  | true =>
      rw [recover_of_ordinary he, recover_of_ordinary he]
      refine (answer_withReport hjudge hquiet e path hopen i).weaken ?_
      rintro ⟨hdenied, hmute⟩
      exact ⟨he, hdenied, hmute⟩
  | false =>
      rw [recover_of_other he, recover_of_other he]
      exact .missing

/-- **ONE REQUEST**, with a report and without. -/
theorem dispatch_withReport {c : Classifier} {name : RegistryName}
    (hjudge : d.judge = .classifier c name) {quiet : Int}
    (hquiet : (d.atLevel quiet).reports = false) (id path : String) (inner : Scope → Inner)
    (hopen : (inner { requestId := id }).scope.finalized = false) :
    Exchange.WithReport (∃ e, (inner { requestId := id }).outcome = .error e ∧ e.IsMuteDenial)
      ((d.atLevel quiet).dispatch id path inner) (d.dispatch id path inner) := by
  cases ho : (inner { requestId := id }).outcome with
  | ok r =>
      have hpassed (d' : Dispatcher) : d'.dispatch id path inner = _ :=
        dispatchThrough_of_answered ho _ path
      rw [hpassed, hpassed]
      exact .missing
  | error e =>
      cases hlets : Relay.lets e with
      | true =>
          rw [dispatch_of_lets hlets ho, dispatch_of_lets hlets ho]
          refine (recover_withReport hjudge hquiet e path hopen _).weaken ?_
          intro hmute
          exact ⟨e, rfl, hmute⟩
      | false =>
          rw [dispatch_of_torn hlets ho, dispatch_of_torn hlets ho]
          refine ((answer_withReport hjudge hquiet Relay.noAnswer path hopen _).weaken ?_).escape e
          rintro ⟨hdenied, -⟩
          exact nomatch hdenied

/-- The level matters by whether it lets DEBUG through. -/
theorem dispatch_congr (d : Dispatcher) {level level' : Int}
    (h : level ≤ Severity.debug.level ↔ level' ≤ Severity.debug.level) (id path : String)
    (inner : Scope → Inner) :
    (d.atLevel level).dispatch id path inner = (d.atLevel level').dispatch id path inner := by
  have hreports : (d.atLevel level).reports = (d.atLevel level').reports :=
    decide_eq_decide.mpr h
  have hlog : (d.atLevel level).logReport = (d.atLevel level').logReport := by
    funext s status path log
    unfold logReport
    rw [hreports]
    rfl
  have hanswer : (d.atLevel level).answer = (d.atLevel level').answer := by
    funext e path s i
    simp only [answer, hlog]
    rfl
  simp only [dispatch, dispatchThrough, recover, hanswer]

/-- The verdict on a mute denial is what is sent when no report is made, and the failure of
    its message is what fails the request when one is. -/
theorem recover_of_muteDenial {c : Classifier} {g : Guidance} {name : RegistryName}
    (hjudge : d.judge = .classifier (c.guided g) name) (he : e.IsMuteDenial)
    (hopen : s.finalized = false) (path : String) (i : Intake) :
    (d.reports = false → ∃ v : Verdict, (d.recover e path s i).outcome = v.rendered) ∧
      (d.reports = true → ∃ f, e.Mute f ∧
        (d.recover e path s i).outcome = .error (f.leaving requestPlace)) := by
  obtain ⟨hordinary, hdenied, f, hf⟩ := he
  have hv : (d.judge.classify d.registries e i.bodies).outcome
      = .ok (c.issue g (c.deniedDraft e)) := by
    rw [hjudge]
    exact c.classify_guided_iff.mpr ⟨_, .denied hdenied, rfl⟩
  have hkept : (s.keeping ((c.issue g (c.deniedDraft e)).subject.getD e)).exception = some e := by
    rw [Scope.keeping_of_open hopen]
    rfl
  rw [recover_of_ordinary hordinary, answer_of_classified hv]
  constructor
  · intro hquiet
    rw [logReport_of_quiet hquiet]
    exact ⟨_, rfl⟩
  · intro hloud
    rw [logReport_of_mute hloud hkept hf]
    exact ⟨f, Fault.message_eq_error_iff.mp hf, rfl⟩

/-- Rendering does not fail as a message fails that cannot be told. -/
theorem rendered_ne_of_mute {f : Failure} (h : e.Mute f) (v : Verdict) (place : String) :
    v.rendered ≠ .error (f.leaving place) := by
  intro hv
  by_cases hs : v.message.IsString
  · obtain ⟨body, hbody⟩ := hs
    obtain ⟨r, hr, -⟩ := v.sentAs_rendered.sent body hbody
    exact nomatch hr.symm.trans hv
  · obtain ⟨g, hg, hkind⟩ := v.sentAs_rendered.unsent hs
    obtain rfl : g = f.leaving place := Except.error.inj (hg.symm.trans hv)
    obtain ⟨hpass, hstop⟩ := f.leaving_cases place
    cases hf : f.kind.is .stopIteration with
    | true =>
        rw [hstop hf] at hkind
        exact absurd hkind (show Known.runtimeError.kind ≠ Internal.encodeError.kind by decide)
    | false =>
        rw [hpass hf] at hkind
        cases h with
        | unset =>
            exact absurd hkind
              (show Known.attributeError.kind ≠ Internal.encodeError.kind by decide)
        | broken _ _ hother =>
            unfold Failure.isOrdinary at hother
            rw [hkind] at hother
            exact nomatch hother

/-! ## Two levels -/

section

variable {c : Classifier} {g : Guidance} {name : RegistryName}
  (hjudge : d.judge = .classifier (c.guided g) name) (id path : String) (inner : Scope → Inner)
  (hopen : (inner { requestId := id }).scope.finalized = false)

include hjudge hopen

/-- Every level compares to WARNING, where no report is made. -/
theorem dispatch_atLevel (level : Int) :
    Exchange.WithReport (∃ e, (inner { requestId := id }).outcome = .error e ∧ e.IsMuteDenial)
      ((d.atLevel Severity.warning.level).dispatch id path inner)
      ((d.atLevel level).dispatch id path inner) :=
  dispatch_withReport (d := d.atLevel level) hjudge
    (show (d.atLevel Severity.warning.level).reports = false from rfl) id path inner hopen

/-- A level shows of its run what it would show of the run at DEBUG. -/
theorem visible_atLevel (level : Int) :
    visibleAt level ((d.atLevel level).dispatch id path inner).log
      = visibleAt level ((d.atLevel Severity.debug.level).dispatch id path inner).log := by
  by_cases hl : level ≤ Severity.debug.level
  · rw [d.dispatch_congr (iff_of_true hl (Int.le_refl _)) id path inner]
  · have hwarning : ¬ (Severity.warning.level : Int) ≤ Severity.debug.level := by decide
    have hdebug := dispatch_atLevel hjudge id path inner hopen Severity.debug.level
    rw [d.dispatch_congr (iff_of_false hl hwarning) id path inner,
      hdebug.visible (Int.not_le.mp hl)]

/-- A mute denial is the one thing that WARNING and DEBUG answer differently. -/
theorem outcome_ne_of_muteDenial (he : (inner { requestId := id }).outcome = .error e)
    (hmute : e.IsMuteDenial) :
    ((d.atLevel Severity.warning.level).dispatch id path inner).outcome
      ≠ ((d.atLevel Severity.debug.level).dispatch id path inner).outcome := by
  have hlets : Relay.lets e = true := Relay.lets_of_ordinary hmute.1
  rw [dispatch_of_lets hlets he, dispatch_of_lets hlets he]
  obtain ⟨v, hv⟩ := (recover_of_muteDenial (d := d.atLevel Severity.warning.level) hjudge hmute
    hopen path (inner { requestId := id }).intake).1 rfl
  obtain ⟨f, hf, hfailed⟩ := (recover_of_muteDenial (d := d.atLevel Severity.debug.level) hjudge
    hmute hopen path (inner { requestId := id }).intake).2 rfl
  rw [hv, hfailed]
  exact rendered_ne_of_mute hf v requestPlace

end

end Dispatcher

/-! ## The whole -/

/-- **THE LEVEL CHANGES NO ANSWER**, around a scope that the inner application left open,
    unless the request is denied by an exception that cannot tell its message.  The scope
    in the end is the same at every level, and at every level those records of the run at
    DEBUG are seen that are at the level or above it.  The answer or the failure that
    leaves the request is the same at any two levels exactly when there is no mute
    denial: the report that is made at DEBUG asks even a denied access for its message. -/
theorem level_changes_no_answer_iff {d : Dispatcher} {c : Classifier} {g : Guidance}
    {name : RegistryName} (hjudge : d.judge = .classifier (c.guided g) name) (id path : String)
    (inner : Scope → Inner) (hopen : (inner { requestId := id }).scope.finalized = false) :
    let x : Int → Exchange := fun level => (d.atLevel level).dispatch id path inner
    let debug : Int := Severity.debug.level
    (∀ level level', (x level).scope = (x level').scope) ∧
    (∀ level, ((x level).seenAt level).log = visibleAt level ((x debug).seenAt debug).log) ∧
    ((∀ level level', (x level).outcome = (x level').outcome) ↔
      ∀ e, (inner { requestId := id }).outcome = .error e → ¬ e.IsMuteDenial) := by
  intro x debug
  have hreport := Dispatcher.dispatch_atLevel hjudge id path inner hopen
  refine ⟨?_, ?_, ?_⟩
  · intro level level'
    exact (hreport level).scope.trans (hreport level').scope.symm
  · intro level
    show visibleAt level (x level).log = visibleAt level (visibleAt debug (x debug).log)
    rw [visibleAt_of_le_debug (Int.le_refl debug)]
    exact Dispatcher.visible_atLevel hjudge id path inner hopen level
  · constructor
    · intro hsame e he hmute
      exact Dispatcher.outcome_ne_of_muteDenial hjudge id path inner hopen he hmute (hsame _ _)
    · intro hnone level level'
      have hfree : ¬ ∃ e, (inner { requestId := id }).outcome = .error e ∧ e.IsMuteDenial := by
        rintro ⟨e, he, hmute⟩
        exact hnone e he hmute
      exact ((hreport level).outcome hfree).trans ((hreport level').outcome hfree).symm

/-- A timeout is answered alike at DEBUG and above it, where the report is not seen. -/
theorem timeout_is_answered_alike :
    let e : Fault := .ofText .timeoutError "late"
    let d : Dispatcher :=
      ⟨.classifier (({} : Classifier).guided {}) .shared, .empty, Severity.debug.level, "9:00"⟩
    let inner : Scope → Inner := fun s => ⟨.error e, s, {}⟩
    let x : Int → Exchange := fun level => (d.atLevel level).dispatch "r-1" "/late" inner
    (inner { requestId := "r-1" }).scope.finalized = false ∧ ¬ e.IsMuteDenial ∧
      (∀ level, (x level).outcome = (x 10).outcome ∧ (x level).scope = (x 10).scope) ∧
      (x 10).log.length = 2 ∧ ((x 30).seenAt 30).log.length = 1 := by
  intro e d inner x
  have hmute : ¬ e.IsMuteDenial := by
    rintro ⟨-, hdenied, -⟩
    exact nomatch hdenied
  obtain ⟨hscope, -, hanswer⟩ :=
    level_changes_no_answer_iff (d := d) (g := {}) rfl "r-1" "/late" inner rfl
  refine ⟨rfl, hmute, ?_, rfl, rfl⟩
  have hfree : ∀ e', (inner { requestId := "r-1" }).outcome = .error e' → ¬ e'.IsMuteDenial := by
    intro e' he'
    obtain rfl := Except.error.inj he'
    exact hmute
  intro level
  exact ⟨hanswer.mpr hfree level 10, hscope level 10⟩

/-- A denied access that is also a permission error of the system: the constructor of
    that one runs, and it keeps no message. -/
def recordLocked : Class :=
  ⟨{ id := .defined 0, name := "RecordLocked", home := "app.errors", qualname := "RecordLocked"
     text := none, attributes := none },
    [Known.permissionError, .osError, .accessDenied, .domainError, .exception, .baseException,
      .object].map Known.head⟩

/-- A denied access that cannot tell its message is answered at WARNING, and at DEBUG its
    request fails with the error of the report. -/
theorem mute_denial_fails_at_debug :
    let e : Fault := ⟨recordLocked, { arguments := [.text "record 7 is locked"] }⟩
    let d : Dispatcher :=
      ⟨.classifier (({} : Classifier).guided {}) .shared, .empty, Severity.debug.level, "9:00"⟩
    let inner : Scope → Inner := fun s => ⟨.error e, s, {}⟩
    let x : Int → Exchange := fun level => (d.atLevel level).dispatch "r-1" "/q" inner
    Class.define 0 ⟨"RecordLocked", [Known.permissionError.toClass, Known.accessDenied.toClass],
        "app.errors", none, none, none⟩ = .ok recordLocked ∧
      Fault.make recordLocked { values := [.text "record 7 is locked"] } = .ok e ∧
      (inner { requestId := "r-1" }).scope.finalized = false ∧ e.IsMuteDenial ∧
      (x 30).outcome
        = .ok (Http.compose 403 [] (some Http.plainType) "Access is denied") ∧
      (x 10).outcome = .error (.missingField "RecordLocked" "message") := by
  intro e d inner x
  have hmute : e.message = .error (.missingField "RecordLocked" "message") := rfl
  exact ⟨rfl, rfl, rfl, ⟨by decide, by decide, _, hmute⟩, rfl, rfl⟩

end FaultResponse
