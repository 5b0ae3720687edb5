/-! # Stores — a cell behind every name

    A store gives a cell for each key, used or not, so reading never fails.
    Writing changes one cell and leaves every other one as it was; writes to
    different cells commute. -/

namespace FaultResponse

/-- A cell behind every key. -/
abbrev Store (κ α : Type) := κ → α

namespace Store

variable {κ α : Type} [DecidableEq κ]

/-- Write one cell. -/
def set (s : Store κ α) (key : κ) (value : α) : Store κ α :=
  fun k => if k = key then value else s k

@[simp] theorem set_self (s : Store κ α) (key : κ) (value : α) :
    s.set key value key = value := by
  simp [set]

theorem set_of_ne (s : Store κ α) {key k : κ} (value : α) (h : k ≠ key) :
    s.set key value k = s k := by
  simp [set, h]

/-- Writing back what a cell holds changes nothing. -/
@[simp] theorem set_get (s : Store κ α) (key : κ) : s.set key (s key) = s := by
  funext k
  by_cases h : k = key
  · simp [set, h]
  · simp [set, h]

/-- **Frame.** Writes to different cells commute. -/
theorem set_comm (s : Store κ α) {a b : κ} (h : a ≠ b) (x y : α) :
    (s.set a x).set b y = (s.set b y).set a x := by
  funext k
  by_cases ha : k = a
  · have hb : k ≠ b := fun e => h (ha.symm.trans e)
    simp [set, ha, h]
  · by_cases hb : k = b
    · simp [set, hb, Ne.symm h]
    · simp [set, ha, hb]

end Store

end FaultResponse
