import FaultResponse.Proofs.Dispatch
import FaultResponse.Proofs.HeaderNames
/-! # Identity — one number for the response, the scope and the report

    A request has one number: its own, or a fresh one.  The dispatcher opens the scope
    with it, the security headers read it back from the scope, and the report tells it.
    That these agree on every path is shown along the way of the number:

    * `Router.requestId_route`: no route changes whose scope it works on;
    * `Dispatched.reports`: every report in the log is one on the scope that the request
      leaves behind, and `get?_report` reads the number there;
    * `secured_identified` puts scope, headers and reports together for every inner
      application that leaves its scope the number and names its headers in small letters
      (`Inner.Faithful`), as the routes do. -/

namespace FaultResponse

/-! ## The number of a request -/

namespace Dispatcher

variable {headers : List (String × String)}

/-- The first header of that name gives the number, unless it is empty. -/
theorem requestId_of_first {before after : List (String × String)} {name own : String}
    (h : headers = before ++ (name, own) :: after)
    (hbefore : ∀ g ∈ before, Text.lower g.1 ≠ requestIdHeader)
    (hname : Text.lower name = requestIdHeader) (fresh : String) :
    requestId headers fresh = if own = "" then fresh else own := by
  have hfind : headers.find? (fun g => decide (Text.lower g.1 = requestIdHeader))
      = some (name, own) := by
    refine List.find?_eq_some_iff_append.mpr ⟨decide_eq_true hname, before, after, h, ?_⟩
    intro g hg
    rw [decide_eq_false (hbefore g hg)]
    rfl
  unfold requestId Http.findHeader
  rw [hfind]
  by_cases ho : own = ""
  · subst ho
    rfl
  · have hne : own.isEmpty = false := by simpa using ho
    simp only [Option.map_some, hne, Bool.false_eq_true, if_false, ho]

/-- Without such a header the number is a fresh one. -/
theorem requestId_of_none (h : ∀ g ∈ headers, Text.lower g.1 ≠ requestIdHeader)
    (fresh : String) : requestId headers fresh = fresh := by
  have hfind : headers.find? (fun g => decide (Text.lower g.1 = requestIdHeader)) = none :=
    List.find?_eq_none.mpr fun g hg => by simpa using h g hg
  unfold requestId Http.findHeader
  rw [hfind]
  rfl

end Dispatcher

/-! ## Whose scope it is -/

theorem Scope.requestId_of_record {s t : Scope} {e : Fault} (h : s.record e = .ok t) :
    t.requestId = s.requestId := by
  unfold record at h
  cases hf : s.finalized with
  | true =>
      rw [hf] at h
      exact nomatch h
  | false =>
      rw [hf] at h
      obtain rfl := Except.ok.inj h
      rfl

/-- Preparing a scope does not change its number. -/
theorem Preparation.requestId_runAll (steps : List Preparation) (s : Scope) (i : Intake) :
    (runAll s i steps).2.1.requestId = s.requestId := by
  induction steps generalizing s i with
  | nil => rfl
  | cons step rest ih =>
      cases step with
      | finalize => exact ih s.finalize i
      | record spec =>
          cases hb : Fault.build spec i with
          | error m => simp only [runAll, hb]
          | ok built =>
              cases hr : s.record built.1 with
              | error f => simp only [runAll, hb, hr]
              | ok t =>
                  simp only [runAll, hb, hr]
                  exact (ih t built.2).trans (Scope.requestId_of_record hr)

/-- A route answers on the scope that it was given. -/
theorem Route.scope_answer (reply : Reply) (scope : Option Scope) (i : Intake) :
    (answer reply scope i).scope = scope := by
  cases reply with
  | text status given body => rfl
  | echoId => rfl
  | health s => rfl
  | raising spec =>
      cases hb : Fault.build spec i with
      | error m => simp only [answer, hb]
      | ok built => simp only [answer, hb]
  | refusal status detail =>
      cases hd : detailOf status detail with
      | error f => simp only [answer, hd]
      | ok detail => simp only [answer, hd]

theorem Route.requestId_run (x : Route) (s : Scope) (i : Intake) :
    ((x.run (some s) i).scope.getD s).requestId = s.requestId := by
  have hprepared := Preparation.requestId_runAll x.before s i
  cases hp : Preparation.runAll s i x.before with
  | mk raised left =>
      rw [hp] at hprepared
      cases raised with
      | some e =>
          simp only [run, hp]
          exact hprepared
      | none =>
          simp only [run, hp, scope_answer]
          exact hprepared

/-- **NO ROUTE** changes whose scope it works on. -/
theorem Router.requestId_route (routes : List Route) (r : Request) (s : Scope) (i : Intake) :
    ((route routes r (some s) i).scope.getD s).requestId = s.requestId := by
  unfold route
  cases find r routes with
  | error f => rfl
  | ok found =>
      cases found with
      | allowed x => exact x.requestId_run s i
      | refused x => rfl
      | nothing => rfl

/-- What an application inside the dispatcher leaves of a request: the scope has its
    number still, and the headers of a response have small names. -/
structure Inner.Faithful (left : Inner) (id : String) : Prop where
  requestId : left.scope.requestId = id
  small : ∀ r, left.outcome = .ok r → Http.SmallNamed r.headers

/-- The routes are faithful. -/
theorem Application.inner_faithful (a : Application) (r : Request) (i : Intake) (s : Scope) :
    (a.inner r i s).Faithful s.requestId where
  requestId := Router.requestId_route a.routes r s i
  small := fun _ h => Router.small_route h

/-! ## Reports -/

/-- **A REPORT** tells the number of its scope, unless the exception has another value
    under that name. -/
theorem Scope.get?_report {s : Scope} {status : Int} {path : Option Text} {now : String}
    {a : Attributes} (h : s.report status path now = .ok a)
    (hextra : ∀ e extra, s.exception = some e → e.attributes? = some extra →
      "request_id" ∉ OrderedMap.keys extra) :
    OrderedMap.get? a "request_id" = some (.text s.requestId) := by
  cases he : s.exception with
  | none =>
      rw [report_of_empty he] at h
      obtain rfl := Except.ok.inj h
      rfl
  | some e =>
      rw [report_of_kept he] at h
      obtain ⟨m, -, rfl⟩ := mapped_eq_ok_iff.mp h
      have hnot : "request_id" ∉ OrderedMap.keys (e.attributes?.getD []) := by
        cases hx : e.attributes? with
        | none => exact List.not_mem_nil
        | some extra => exact hextra e extra he hx
      rw [OrderedMap.get?_update_of_not_mem hnot]
      rfl

/-- The records of judging, keeping and emitting have no attributes. -/
theorem Judge.classify_log (j : Judge) (rs : Registries) (e : Fault) (bodies : Bodies) :
    BodyOnly (j.classify rs e bodies).log := by
  cases j with
  | classifier c name => exact c.classify_log _ e bodies
  | fixed v => exact .nil

theorem LogRecord.AboutBody.attributes {r : LogRecord} (h : r.AboutBody) :
    r.attributes = none := by
  cases h with
  | missing typeName => rfl
  | unreadable f => rfl

theorem Scope.attributes_keepingLog {s : Scope} {e : Fault} {r : LogRecord}
    (h : r ∈ s.keepingLog e) : r.attributes = none := by
  unfold keepingLog at h
  cases hf : s.finalized with
  | true =>
      rw [hf] at h
      rw [List.mem_singleton.mp h]
      rfl
  | false =>
      rw [hf] at h
      exact nomatch h

theorem Verdict.attributes_records {v : Verdict} {r : LogRecord} (h : r ∈ v.records) :
    r.attributes = none := by
  unfold records at h
  cases hs : v.log.level.severity? with
  | none =>
      rw [hs] at h
      exact nomatch h
  | some severity =>
      rw [hs] at h
      rw [List.mem_singleton.mp h]

namespace Dispatcher

variable {d : Dispatcher} {e : Fault} {path : String} {s : Scope} {i : Intake} {r : LogRecord}
  {a : Attributes}

/-- What is added to a log is a report, if anything. -/
theorem report_of_logReport {status : Int} {log all : List LogRecord}
    (h : d.logReport s status path log = .ok all) (hbare : ∀ r ∈ log, r.attributes = none)
    (hr : r ∈ all) (ha : r.attributes = some a) : s.report status (some path) d.now = .ok a := by
  have hlogged : r ∉ log := fun hmem => nomatch (hbare r hmem).symm.trans ha
  unfold logReport at h
  cases hd : d.reports with
  | false =>
      rw [hd] at h
      obtain rfl := Except.ok.inj h
      exact absurd hr hlogged
  | true =>
      rw [hd, if_pos rfl] at h
      cases hreport : s.report status (some path) d.now with
      | error f =>
          rw [hreport] at h
          exact nomatch h
      | ok told =>
          rw [hreport] at h
          obtain rfl := Except.ok.inj h
          obtain rfl : r = reportRecord told :=
            List.mem_singleton.mp ((List.mem_append.mp hr).resolve_left hlogged)
          exact congrArg _ (Option.some.inj ha)

/-- The records of handling have no attributes. -/
theorem attributes_handlingLog {v : Verdict} (hr : r ∈ d.handlingLog e s i v) :
    r.attributes = none := by
  rcases List.mem_append.mp hr with hr | hr
  · rcases List.mem_append.mp hr with hr | hr
    · exact (d.judge.classify_log d.registries e i.bodies r hr).attributes
    · exact Scope.attributes_keepingLog hr
  · exact Verdict.attributes_records hr

/-- A report is the only record with attributes; it is on the scope that is left, and it
    tells the status of the verdict that is rendered. -/
theorem Answered.reports {x : Exchange} (h : d.Answered e path s i x) (hr : r ∈ x.log)
    (ha : r.attributes = some a) :
    ∃ t, ∃ v : Verdict, x.scope = some t ∧ x.outcome = v.rendered ∧
      t.report v.status (some path) d.now = .ok a := by
  cases h with
  | failed =>
      have hbare := (d.judge.classify_log d.registries e i.bodies r hr).attributes
      exact nomatch hbare.symm.trans ha
  | unreported => exact nomatch (attributes_handlingLog hr).symm.trans ha
  | @sent v all _ hv hl =>
      -- a report does not tell whether its scope is finalized
      exact ⟨_, v, rfl, rfl,
        report_of_logReport hl (fun _ => attributes_handlingLog) hr ha⟩

/-- An answer is a plain text. -/
theorem Answered.small {x : Exchange} (h : d.Answered e path s i x) {response : Http.Response}
    (hx : x.outcome = .ok response) : Http.SmallNamed response.headers := by
  cases h with
  | failed => exact nomatch hx
  | unreported => exact nomatch hx
  | @sent v =>
      obtain ⟨body, -, rfl⟩ := Verdict.rendered_eq_ok_iff.mp hx
      exact Http.small_compose Http.small_nil v.status _ body

/-- Every report in the log of a request is one on the scope that the request leaves, and
    it tells the status of the response, if there is one. -/
theorem Dispatched.reports {left : Inner} {x : Exchange} (h : d.Dispatched path left x)
    (hr : r ∈ x.log) (ha : r.attributes = some a) :
    ∃ t status, x.scope = some t ∧ t.report status (some path) d.now = .ok a ∧
      ∀ response, x.outcome = .ok response →
        ∃ body, response = Http.compose status [] (some Http.plainType) body := by
  cases h with
  | passed => exact nomatch hr
  | signalled => exact nomatch hr
  | answered =>
      obtain ⟨t, v, ht, ho, hreport⟩ := (d.answer_answered _ path _ _).reports hr ha
      refine ⟨t, v.status, ht, hreport, ?_⟩
      intro response hx
      obtain ⟨body, -, hbody⟩ := Verdict.rendered_eq_ok_iff.mp (ho.symm.trans hx)
      exact ⟨body, hbody⟩
  | torn _ _ _ hanswer =>
      obtain ⟨t, v, ht, -, hreport⟩ :=
        (d.answer_answered Relay.noAnswer path _ _).reports (hanswer ▸ hr) ha
      refine ⟨t, v.status, (hanswer ▸ ht), hreport, ?_⟩
      intro response hx
      exact nomatch (Relay.toOption_escape _ _).symm.trans (congrArg _ hx)

/-- What a dispatcher answers has small names, if what it passes on has. -/
theorem Dispatched.small {left : Inner} {x : Exchange} (h : d.Dispatched path left x)
    (hleft : ∀ r, left.outcome = .ok r → Http.SmallNamed r.headers) {response : Http.Response}
    (hx : x.outcome = .ok response) : Http.SmallNamed response.headers := by
  cases h with
  | passed ho =>
      obtain rfl := Except.ok.inj hx
      exact hleft _ ho
  | signalled => exact nomatch hx
  | answered => exact (d.answer_answered _ path _ _).small hx
  | torn => exact nomatch (Relay.toOption_escape _ _).symm.trans (congrArg _ hx)

end Dispatcher

/-! ## The whole -/

/-- An exchange that tells one number everywhere, and carries the fixed headers. -/
structure Exchange.Identified (x : Exchange) (id : String) : Prop where
  scope : ∃ t, x.scope = some t ∧ t.requestId = id
  /-- A response has each fixed header once. -/
  secured : ∀ response, x.outcome = .ok response →
    ∀ h ∈ Security.headers, Http.named response.headers h.1 = [h]
  /-- It has the number once. -/
  numbered : ∀ response, x.outcome = .ok response →
    Http.named response.headers Security.requestIdHeader = [(Security.requestIdHeader, id)]
  /-- A report has the number too, unless the exception that was kept has something else
      under that name. -/
  reported : ∀ t r a, x.scope = some t → r ∈ x.log → r.attributes = some a →
    (∀ e extra, t.exception = some e → e.attributes? = some extra →
      "request_id" ∉ OrderedMap.keys extra) →
    OrderedMap.get? a "request_id" = some (.text id)

/-- A response that comes out of the security headers is one that went in, secured. -/
theorem Application.response_of_secured {x : Exchange} {response : Http.Response}
    (h : (secured x).outcome = .ok response) :
    ∃ passed, x.outcome = .ok passed ∧
      response = Security.secure (x.scope.map (·.requestId)) passed := by
  cases ho : x.outcome with
  | error f =>
      simp only [secured, ho] at h
      cases h
  | ok passed =>
      simp only [secured, ho] at h
      exact ⟨passed, rfl, (Except.ok.inj h).symm⟩

/-- **SECURED AND IDENTIFIED**: whatever a faithful application inside leaves. -/
theorem Dispatcher.secured_identified (d : Dispatcher) (path : String) {id : String}
    {inner : Scope → Inner} (hinner : (inner { requestId := id }).Faithful id) :
    (Application.secured (d.dispatch id path inner)).Identified id := by
  have hx := d.dispatch_dispatched id path inner
  obtain ⟨t, ht, -, hid⟩ := hx.scope
  rw [hinner.requestId] at hid
  -- the headers read the number from the scope that the dispatcher leaves
  have hcarries : ∀ response,
      (Application.secured (d.dispatch id path inner)).outcome = .ok response →
      (∀ h ∈ Security.headers, Http.named response.headers h.1 = [h]) ∧
        Http.named response.headers Security.requestIdHeader
          = [(Security.requestIdHeader, id)] := by
    intro response h
    obtain ⟨passed, ho, rfl⟩ := Application.response_of_secured h
    rw [ht, Option.map_some, hid]
    exact Security.secure_carries (hx.small hinner.small ho) id
  refine
    { scope := ⟨t, ht, hid⟩
      secured := fun response h => (hcarries response h).1
      numbered := fun response h => (hcarries response h).2
      reported := ?_ }
  intro t' r a ht' hr ha hextra
  obtain ⟨left, status, hleft, hreport, -⟩ := hx.reports hr ha
  obtain rfl : t' = left := Option.some.inj (ht'.symm.trans hleft)
  obtain rfl : t' = t := Option.some.inj (ht'.symm.trans ht)
  rw [Scope.get?_report hreport hextra, hid]

/-- An application has the layout that was asked for. -/
theorem Application.layout_of_assemble {layout : Layout} {s : Settings} {level : Option String}
    {judge : Option Judge} {rs : Registries} {now : String} {routes : List RouteSpec}
    {a : Application} (h : assemble layout s level judge rs now routes = .ok a) :
    a.layout = layout := by
  unfold assemble at h
  cases hl : lack? layout s with
  | some e =>
      simp only [hl] at h
      exact nomatch h
  | none =>
      cases hr : readRoutes routes with
      | error e =>
          simp only [hl, hr] at h
          exact nomatch h
      | ok added =>
          simp only [hl, hr] at h
          obtain rfl := Except.ok.inj h
          rfl

/-- **ONE NUMBER, FROM THE REQUEST TO THE REPORT**, in every full application.  The number
    is what the first header of that name gives, in any case, and a fresh one if there is
    none or it is empty.  Whatever the routes or any other faithful application inside
    leave of the request, its scope has that number, a response has it once and has each
    of the fixed headers once, and a report tells it, unless the exception that was kept
    has something else under that name. -/
theorem requests_keep_their_number {s : Settings} {level : Option String} {judge : Option Judge}
    {rs : Registries} {now : String} {routes : List Application.RouteSpec} {a : Application}
    (h : Application.assemble .full s level judge rs now routes = .ok a) (fresh : String)
    (i : Intake) (r : Request) :
    let id := Dispatcher.requestId r.headers fresh
    (∀ before name own after, r.headers = before ++ (name, own) :: after →
      (∀ g ∈ before, Text.lower g.1 ≠ "x-request-id") → Text.lower name = "x-request-id" →
      id = if own = "" then fresh else own) ∧
    ((∀ g ∈ r.headers, Text.lower g.1 ≠ "x-request-id") → id = fresh) ∧
    (a.serve fresh i r).Identified id ∧
    ∀ inner : Scope → Inner, (inner { requestId := id }).Faithful id →
      (Application.secured (a.dispatcher.dispatch id r.addressPath inner)).Identified id := by
  intro id
  refine ⟨?_, ?_, ?_, ?_⟩
  · intro before name own after hheaders hbefore hname
    exact Dispatcher.requestId_of_first hheaders hbefore hname fresh
  · intro hnone
    exact Dispatcher.requestId_of_none hnone fresh
  · have hserve : a.serve fresh i r
        = Application.secured (a.dispatcher.dispatch id r.addressPath (a.inner r i)) := by
      unfold Application.serve
      rw [Application.layout_of_assemble h]
    rw [hserve]
    exact a.dispatcher.secured_identified r.addressPath (a.inner_faithful r i _)
  · intro inner hinner
    exact a.dispatcher.secured_identified r.addressPath hinner

/-- A request with a number of its own, and one whose number is empty, behind which an
    application closes the scope and forges its headers: each gets its number, and no
    forged header is left. -/
theorem forged_headers_are_replaced :
    let own : Request := { target := "/api/v1/health", headers := [("X-REQUEST-ID", "r-1")] }
    let other : Request := { target := "/late", headers := [("x-request-id", "")] }
    let forged := [("x-frame-options", "ALLOWALL"), ("x-request-id", "r-1"),
      ("x-frame-options", "SAMEORIGIN")]
    let inner : Scope → Inner := fun s => ⟨.ok ⟨200, forged, "ok"⟩, s.finalize, {}⟩
    ∃ a, Application.assemble .full {} none none .empty "9:00" [] = .ok a ∧
      (a.serve "f-1" {} own).Identified "r-1" ∧
      (inner { requestId := "f-1" }).Faithful "f-1" ∧
      ∃ x, (Application.secured (a.dispatcher.dispatch "f-1" other.addressPath inner)).outcome
          = .ok x ∧
        Http.named x.headers "x-frame-options" = [("x-frame-options", "DENY")] ∧
        Http.named x.headers "x-request-id" = [("x-request-id", "f-1")] := by
  intro own other forged inner
  obtain ⟨a, ha⟩ : ∃ a, Application.assemble .full {} none none .empty "9:00" [] = .ok a :=
    ⟨_, rfl⟩
  have hforged : Http.SmallNamed forged := by decide
  have hinner : (inner { requestId := "f-1" }).Faithful "f-1" :=
    ⟨rfl, fun r hr => by obtain rfl := Except.ok.inj hr; exact hforged⟩
  obtain ⟨-, -, hserved, -⟩ := requests_keep_their_number ha "f-1" {} own
  obtain ⟨-, -, -, hany⟩ := requests_keep_their_number ha "f-1" {} other
  have hidentified := hany inner hinner
  have hframe : ("x-frame-options", "DENY") ∈ Security.headers := by decide
  exact ⟨a, ha, hserved, hinner, _, rfl,
    hidentified.secured _ rfl _ hframe, hidentified.numbered _ rfl⟩

end FaultResponse
