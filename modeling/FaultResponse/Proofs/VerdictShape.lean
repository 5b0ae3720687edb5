import FaultResponse.Handling
import FaultResponse.Proofs.Draft
import FaultResponse.Proofs.Registration
/-! # Verdict shapes — what every verdict has, wherever it comes from

    A verdict is put together from a draft, so what holds of all verdicts is shown of the
    drafts, rule by rule:

    * `source_of_drafts`: the status is a fixed one, one that was declared, or one that a
      response carries, and each of these sources gives a status that HTTP knows
      (`StatusSource.inRange`);
    * `log_of_drafts`: a log entry has a text and may have a traceback exactly when it has
      a level (`LogPlan.Coherent`);
    * `subject_of_drafts`: the exception that is kept is the one classified, unless a
      response came with it.

    `verdict_is_well_formed` puts them together for the registries that any history of
    declarations can leave. -/

namespace FaultResponse

/-! ## Where a status comes from -/

/-- The statuses that the rules have themselves. -/
def fixedStatuses : List Int :=
  [400, 403, 404, 500, 502]

/-- Where the status of a verdict comes from, after a history of declarations. -/
inductive StatusSource (calls : List Registration) (name : RegistryName) (e : Fault) : Int → Prop
  /-- A rule has it, or stands it in for a status that is not there. -/
  | fixed {status : Int} : status ∈ fixedStatuses → StatusSource calls name e status
  /-- It was declared for the class of the exception or for one of its ancestors. -/
  | declared {a : Registration} {c : ClassId} {d : Declaration} : a ∈ calls →
      c ∈ e.cls.lineage → a.Makes name c d → StatusSource calls name e d.status
  /-- The response carries it. -/
  | answered {response : Response} {status : Int} : e.response? = .ok (some response) →
      response.status? = .ok (some status) → StatusSource calls name e status

/-- What a response carries for a status is one that HTTP knows. -/
theorem Response.inRange_of_status? {r : Response} {status : Int}
    (h : r.status? = .ok (some status)) : 100 ≤ status ∧ status ≤ 599 := by
  obtain ⟨field, -, hs⟩ := mapped_eq_ok_iff.mp h
  unfold httpStatus? at hs
  cases hv : field.bind Value.asInt? with
  | none => rw [hv] at hs; exact nomatch hs
  | some n =>
      simp only [hv, Option.ite_none_right_eq_some] at hs
      obtain ⟨hr, hn⟩ := hs
      obtain rfl := Option.some.inj hn
      exact hr

theorem Declaration.inRange (d : Declaration) : 100 ≤ d.status ∧ d.status ≤ 599 :=
  Http.isStatus_iff.mp d.isStatus

/-- Every source gives a status that HTTP knows. -/
theorem StatusSource.inRange {calls : List Registration} {name : RegistryName} {e : Fault}
    {status : Int} (h : StatusSource calls name e status) : 100 ≤ status ∧ status ≤ 599 := by
  cases h with
  | fixed h =>
      have hall : ∀ n ∈ fixedStatuses, 100 ≤ n ∧ n ≤ 599 := by decide
      exact hall status h
  | @declared a c d => exact d.inRange
  | answered _ h => exact Response.inRange_of_status? h

namespace Classifier

variable {c : Classifier} {calls : List Registration} {name : RegistryName} {e : Fault}
  {bodies : Bodies} {d : Draft}

/-- The fourth rule has its status from a declaration, or it is 500. -/
theorem source_of_declaredDraft (c : Classifier) (calls : List Registration)
    (name : RegistryName) (category : Category) (e : Fault) (m : Option Text) :
    StatusSource calls name e
      (c.declaredDraft (Registries.empty.after calls name) category e m).status := by
  cases hd : (Registries.empty.after calls name).find e.cls.lineage with
  | none =>
      rw [c.declaredDraft_of_none hd]
      exact .fixed (by decide : 500 ∈ fixedStatuses)
  | some d =>
      obtain ⟨cls, hc, a, ha, hm⟩ := Registries.found_by_history hd
      rw [c.declaredDraft_of_find hd]
      exact .declared ha hc hm

theorem source_of_drafts (hd : c.Drafts (Registries.empty.after calls name) e bodies d) :
    StatusSource calls name e d.status := by
  cases hd with
  | denied => exact .fixed (by decide : 403 ∈ fixedStatuses)
  | @outright status m hs =>
      -- the categories with a status of their own answer 404 and 400
      refine .fixed (?_ : status ∈ fixedStatuses)
      rcases Category.outright_cases hs with ⟨-, rfl⟩ | ⟨-, rfl⟩ <;> decide
  | declared => exact c.source_of_declaredDraft calls name _ e _
  | unanswered => exact c.source_of_declaredDraft calls name .remoteFailure e _
  | @relayed response x m status _ hr _ _ hs =>
      cases status with
      | none => exact .fixed (by decide : 502 ∈ fixedStatuses)
      | some n => exact .answered hr hs

end Classifier

/-! ## What is logged -/

/-- A log entry that has a text exactly when it has a level, and a traceback at most then. -/
structure LogPlan.Coherent (p : LogPlan) : Prop where
  text : p.text ≠ "" ↔ p.level ≠ .none
  traceback : p.traceback = true → p.level ≠ .none

/-- An entry that is to be written. -/
theorem LogPlan.Coherent.loud {level : LogLevel} {text : Text} (traceback : Bool)
    (hl : level ≠ .none) (ht : text ≠ "") : LogPlan.Coherent ⟨level, text, traceback⟩ :=
  ⟨⟨fun _ => hl, fun _ => ht⟩, fun _ => hl⟩

/-- The entry for nothing. -/
theorem LogPlan.Coherent.silent : LogPlan.Coherent {} :=
  ⟨⟨fun h => absurd rfl h, fun h => absurd rfl h⟩, fun h => nomatch h⟩

theorem undeclaredLog_coherent : undeclaredLog.Coherent :=
  .loud true (by decide) (by decide)

theorem noResponseLog_coherent : noResponseLog.Coherent :=
  .loud true (by decide) (by decide)

/-- Every number goes by some phrase. -/
theorem Http.phrase_ne_empty (status : Int) : phrase status ≠ "" := by
  have hall : ∀ entry ∈ phrases, entry.2 ≠ "" := by decide
  unfold phrase phrase?
  cases h : phrases.lookup status with
  | none => decide
  | some s =>
      obtain ⟨before, behind, hp, -⟩ := List.lookup_eq_some_iff.mp h
      have hmem : (status, s) ∈ phrases := by
        rw [hp]
        exact List.mem_append_right before List.mem_cons_self
      exact hall (status, s) hmem

theorem Declaration.logPlan_coherent (d : Declaration) (e : Fault) (m : Option Text) :
    (d.logPlan e m).Coherent := by
  have hp : d.phrase ≠ "" := Http.phrase_ne_empty d.status
  rcases d.logPlan_cases e m with ⟨-, hplan⟩ | ⟨-, hplan⟩ | ⟨-, hplan⟩ <;> rw [hplan]
  · exact .loud true (by decide) (mt Text.ofString_inj.mp hp)
  · -- the text begins with the phrase
    have ht : (d.phrase : Text) ++ ": " ++ e.cls.name ++ ": " ++ m.getD "" ≠ "" := by
      simp only [ne_eq, Text.append_eq_empty_iff, Text.ofString_inj, hp, false_and,
        not_false_eq_true]
    exact .loud false (by decide) ht
  · exact .silent

namespace Classifier

variable {c : Classifier} {r : Registry} {e : Fault} {bodies : Bodies} {d : Draft}

theorem log_of_drafts (hd : c.Drafts r e bodies d) : d.log.Coherent := by
  cases hd with
  | denied => exact .silent
  | outright => exact .silent
  | @declared m =>
      cases hf : r.find e.cls.lineage with
      | none =>
          rw [c.declaredDraft_of_none hf]
          exact undeclaredLog_coherent
      | some d =>
          rw [c.declaredDraft_of_find hf]
          exact d.logPlan_coherent e m
  | unanswered => exact noResponseLog_coherent
  | relayed => exact .silent

/-! ## What is kept -/

/-- The category of a draft is the one of the exception. -/
theorem category_of_drafts (hd : c.Drafts r e bodies d) : d.category = e.category := by
  cases hd with
  | denied hc => exact hc.symm
  | outright => rfl
  | declared => exact c.declaredDraft_category r _ e _
  | unanswered hc => exact (c.declaredDraft_category r _ e _).trans hc.symm
  | relayed hc => exact hc.symm

/-- What is kept: an exception that carries the context, if a response came with a failed
    remote call, and else the one that was classified. -/
theorem subject_of_drafts (hd : c.Drafts r e bodies d) :
    e.isRelayed = true ∧ d.subject.cls = Known.remoteContextError.toClass ∨
      e.isRelayed = false ∧ d.subject = e := by
  cases hd with
  | denied hc =>
      have hr : e.category ≠ .remoteFailure := by rw [hc]; decide
      exact Or.inr ⟨Fault.isRelayed_of_category hr, rfl⟩
  | outright hs =>
      have hr : e.category ≠ .remoteFailure := fun hc => by rw [hc] at hs; exact nomatch hs
      exact Or.inr ⟨Fault.isRelayed_of_category hr, rfl⟩
  | declared hc =>
      have hr : e.category ≠ .remoteFailure := by rcases hc with hc | hc <;> (rw [hc]; decide)
      exact Or.inr ⟨Fault.isRelayed_of_category hr, c.declaredDraft_subject r _ e _⟩
  | unanswered hc hr =>
      exact Or.inr ⟨Fault.isRelayed_of_no_response hr, c.declaredDraft_subject r _ e _⟩
  | relayed hc hr => exact Or.inl ⟨Fault.isRelayed_of_response hc hr, rfl⟩

end Classifier

/-! ## The whole -/

/-- **EVERY VERDICT IS WELL FORMED**, whatever was declared before, and whatever the fixed
    texts and the decorator are: its status is one that HTTP knows; its message is what
    the decorator answers, or else the stand-in for the status; its log entry has a text
    exactly when it has a level, and a traceback at most then; and it keeps the exception
    that was classified, or for a failed remote call with a response the one that carries
    the context. -/
theorem verdict_is_well_formed (c : Classifier) (calls : List Registration)
    (name : RegistryName) (e : Fault) {bodies : Bodies} {v : Verdict}
    (h : ((Judge.classifier c name).classify (Registries.empty.after calls) e bodies).outcome
      = .ok v) :
    (100 ≤ v.status ∧ v.status ≤ 599) ∧
      (∃ kept m answer, v.subject = some kept ∧ c.decorator.decorate kept m = .ok answer ∧
        v.message = answer.getD (if v.status = 500 then c.fallback else Http.phrase v.status)) ∧
      (v.log.traceback = true → v.log.level ≠ .none) ∧
      (v.log.text ≠ "" ↔ v.log.level ≠ .none) ∧
      v.category = e.category ∧
      (v.category = .remoteFailure ∧ e.hasResponse = true →
        ∃ kept, v.subject = some kept ∧ kept.cls = Known.remoteContextError.toClass) ∧
      (¬ (v.category = .remoteFailure ∧ e.hasResponse = true) → v.subject = some e) := by
  obtain ⟨d, hd, hf⟩ := c.classify_eq_ok_iff.mp h
  obtain ⟨answer, hanswer, rfl⟩ := c.finish_eq_ok_iff.mp hf
  have hlog : d.log.Coherent := Classifier.log_of_drafts hd
  have hcategory : d.category = e.category := Classifier.category_of_drafts hd
  have hrelayed : d.category = .remoteFailure ∧ e.hasResponse = true ↔ e.isRelayed = true := by
    unfold Fault.isRelayed
    rw [hcategory, Bool.and_eq_true, decide_eq_true_eq]
  refine ⟨(Classifier.source_of_drafts hd).inRange,
    ⟨d.subject, d.message, answer, rfl, hanswer, rfl⟩,
    hlog.traceback, hlog.text, hcategory, ?_, ?_⟩
  · intro hr
    rcases Classifier.subject_of_drafts hd with ⟨-, hs⟩ | ⟨hn, -⟩
    · exact ⟨d.subject, rfl, hs⟩
    · exact nomatch hn.symm.trans (hrelayed.mp hr)
  · intro hr
    rcases Classifier.subject_of_drafts hd with ⟨hy, -⟩ | ⟨-, hs⟩
    · exact absurd (hrelayed.mpr hy) hr
    · exact congrArg some hs

/-- A missing key for which 418 was declared by its ancestor, between two declarations that
    were refused, under a decorator that never answers. -/
theorem teapot_is_well_formed :
    let c : Classifier := { decorator := .constant none }
    let calls : List Registration :=
      [.call .shared (.known .keyError) 600 "", .mark none (.known .lookupError) 418 "short",
        .call .shared (.known .lookupError) 99 ""]
    let e : Fault := ⟨Known.keyError.toClass, {}⟩
    ∃ v, ((Judge.classifier c .shared).classify (Registries.empty.after calls) e
        (fun _ => .closed)).outcome = .ok v ∧
      v.status = 418 ∧ (100 ≤ v.status ∧ v.status ≤ 599) ∧ v.message = "I'm a Teapot" ∧
      v.log.text = "I'm a Teapot: KeyError: " ∧ v.log.level ≠ .none ∧ v.subject = some e := by
  intro c calls e
  have hv : ((Judge.classifier c .shared).classify (Registries.empty.after calls) e
      (fun _ => .closed)).outcome = .ok _ := rfl
  obtain ⟨hrange, -, -, htext, -, -, hkept⟩ := verdict_is_well_formed c calls .shared e hv
  exact ⟨_, hv, rfl, hrange, rfl, by decide, htext.mp (by decide), hkept (by decide)⟩

end FaultResponse
