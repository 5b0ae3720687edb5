import FaultResponse.Remote.Context
/-! # Outcomes — what mapping, guarding and going on keep

    An outcome is a value or a failure.  Mapping works on the value only, a guard turns
    some failures into a value, and going on adds a step that may fail itself.  The
    lemmas tell which values and which failures come out, so that no proof about a rule
    has to take an outcome apart. -/

namespace FaultResponse

section

variable {α β : Type} {x : Except Failure α}

theorem mapped_eq_ok_iff {f : α → β} {b : β} : x.map f = .ok b ↔ ∃ a, x = .ok a ∧ f a = b := by
  cases x with
  | error e => simp [Except.map]
  | ok a => simp [Except.map]

/-- Mapping keeps every failure. -/
theorem mapped_eq_error_iff {f : α → β} {g : Failure} : x.map f = .error g ↔ x = .error g := by
  cases x with
  | error e => simp [Except.map]
  | ok a => simp [Except.map]

/-- A guard passes on the failure that it does not catch, and no other. -/
theorem caught_eq_error_iff {caught : Bool} {a : α} {f g : Failure} :
    (if caught then Except.ok a else .error g) = .error f ↔ caught = false ∧ g = f := by
  cases caught with
  | true => simp
  | false => simp

end

/-- What an operation came to, without its value. -/
def ending {α : Type} (outcome : Except Failure α) : Except Failure Unit :=
  outcome.map fun _ => ()

theorem ending_map {α β : Type} (x : Except Failure α) (f : α → β) :
    ending (x.map f) = ending x := by
  cases x with
  | error f => rfl
  | ok a => rfl

namespace Traced

variable {α β : Type} {t : Traced α}

/-- A step that only goes on returns what both of its parts return. -/
theorem andThen_eq_ok_iff {f : α → Except Failure β} {b : β} :
    (t.andThen f).outcome = .ok b ↔ ∃ a, t.outcome = .ok a ∧ f a = .ok b := by
  unfold andThen
  cases t.outcome with
  | error e => simp
  | ok a => simp

/-- It fails as the first part does, or else as the second. -/
theorem andThen_eq_error_iff {f : α → Except Failure β} {g : Failure} :
    (t.andThen f).outcome = .error g ↔
      t.outcome = .error g ∨ ∃ a, t.outcome = .ok a ∧ f a = .error g := by
  unfold andThen
  cases t.outcome with
  | error e => simp
  | ok a => simp

theorem outcome_map (f : α → β) : (t.map f).outcome = t.outcome.map f := by
  unfold map
  cases t.outcome with
  | error e => rfl
  | ok a => rfl

/-- Mapping a step maps its outcome and nothing else. -/
theorem map_mk (f : α → β) (x : Except Failure α) (bodies : Bodies) (log : List LogRecord) :
    map f ⟨x, bodies, log⟩ = ⟨x.map f, bodies, log⟩ := by
  cases x with
  | error e => rfl
  | ok a => rfl

/-- What is mapped after going on may be mapped on the way. -/
theorem map_andThen {γ : Type} (f : α → Except Failure β) (g : β → γ) :
    (t.andThen f).map g = t.andThen fun a => (f a).map g := by
  unfold andThen
  cases t.outcome with
  | error e => rfl
  | ok a => exact map_mk g (f a) t.bodies t.log

theorem log_map (f : α → β) : (t.map f).log = t.log := by
  unfold map
  cases t.outcome with
  | error e => rfl
  | ok a => rfl

theorem log_andThen (f : α → Except Failure β) : (t.andThen f).log = t.log := by
  unfold andThen
  cases t.outcome with
  | error e => rfl
  | ok a => rfl

theorem bodies_map (f : α → β) : (t.map f).bodies = t.bodies := by
  unfold map
  cases t.outcome with
  | error e => rfl
  | ok a => rfl

theorem bodies_andThen (f : α → Except Failure β) : (t.andThen f).bodies = t.bodies := by
  unfold andThen
  cases t.outcome with
  | error e => rfl
  | ok a => rfl

end Traced

end FaultResponse
