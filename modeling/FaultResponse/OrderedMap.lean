/-! # Ordered maps — keys in the order of their first entry

    A map is the list of its pairs.  Writing a key that is present replaces its
    value where it stands; writing a new key appends it.  So a key written twice
    keeps its first position and takes its last value. -/

namespace FaultResponse

/-- A map that remembers the order in which its keys first came. -/
abbrev OrderedMap (α β : Type) := List (α × β)

namespace OrderedMap

variable {α β : Type} [DecidableEq α]

/-- Write one key. -/
def put (key : α) (value : β) : OrderedMap α β → OrderedMap α β
  | [] => [(key, value)]
  | entry :: rest =>
    if entry.1 = key then (key, value) :: rest else entry :: put key value rest

/-- Write all pairs of the second list, first to last. -/
def update (m : OrderedMap α β) : List (α × β) → OrderedMap α β
  | [] => m
  | entry :: rest => update (put entry.1 entry.2 m) rest

/-- The map that a list of pairs describes. -/
def ofPairs (pairs : List (α × β)) : OrderedMap α β :=
  update [] pairs

/-- The value of a key. -/
def get? (m : OrderedMap α β) (key : α) : Option β :=
  (m.find? fun entry => decide (entry.1 = key)).map (·.2)

/-- The keys, in order. -/
def keys (m : OrderedMap α β) : List α :=
  m.map (·.1)

/-! ## What writing does to the keys and the values -/

theorem keys_put_of_mem {m : OrderedMap α β} {key : α} (h : key ∈ keys m) (value : β) :
    keys (put key value m) = keys m := by
  induction m with
  | nil => simp [keys] at h
  | cons entry rest ih =>
      by_cases hk : entry.1 = key
      · simp [put, keys, hk]
      · have hr : key ∈ keys rest := (List.mem_cons.1 h).resolve_left fun e => hk e.symm
        have := ih hr
        simp only [keys] at this ⊢
        simp [put, hk, this]

theorem keys_put_of_not_mem {m : OrderedMap α β} {key : α} (h : key ∉ keys m) (value : β) :
    keys (put key value m) = keys m ++ [key] := by
  induction m with
  | nil => rfl
  | cons entry rest ih =>
      have hk : entry.1 ≠ key := fun e => h (by simp [keys, e])
      have hr : key ∉ keys rest := fun e => h (List.mem_cons_of_mem _ e)
      have := ih hr
      simp only [keys] at this ⊢
      simp [put, hk, this]

@[simp] theorem get?_put_self (m : OrderedMap α β) (key : α) (value : β) :
    get? (put key value m) key = some value := by
  induction m with
  | nil => simp [put, get?]
  | cons entry rest ih =>
      by_cases hk : entry.1 = key
      · simp [put, get?, hk]
      · simp only [get?] at ih ⊢
        simp [put, hk, ih]

theorem get?_put_of_ne {key other : α} (h : other ≠ key) (m : OrderedMap α β) (value : β) :
    get? (put key value m) other = get? m other := by
  induction m with
  | nil => simp [put, get?, h.symm]
  | cons entry rest ih =>
      by_cases hk : entry.1 = key
      · subst hk
        simp [put, get?, Ne.symm h]
      · by_cases ho : entry.1 = other
        · simp [put, get?, ho, h]
        · simp only [get?] at ih
          simp [put, get?, hk, ho, ih]

/-- Writing other keys leaves a key alone. -/
theorem get?_update_of_not_mem {key : α} {pairs : List (α × β)} (h : key ∉ keys pairs)
    (m : OrderedMap α β) : get? (update m pairs) key = get? m key := by
  induction pairs generalizing m with
  | nil => rfl
  | cons entry rest ih =>
      have hne : key ≠ entry.1 := fun e => h (by simp [keys, e])
      have hrest : key ∉ keys rest := fun e => h (List.mem_cons_of_mem _ e)
      show get? (update (put entry.1 entry.2 m) rest) key = get? m key
      rw [ih hrest, get?_put_of_ne hne]

end OrderedMap

end FaultResponse
