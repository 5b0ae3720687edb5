import FaultResponse.Class.Lineage
import Mathlib.Data.List.Nodup
/-! # Linearisation — what a merged line keeps

    A merge takes one head at a time off its rows, and only a head that stands behind
    nothing else.  So it can neither repeat a member nor turn an order round:

    * a chosen member heads a row and is gone from every row after its step
      (`choose_eq_some`, `not_mem_advanceRow`), and the rest of each row stays;
    * `keeps_of_merge`, by induction on the steps: a line that comes out holds every row
      in its own order, holds nothing else, and holds nothing twice (`Keeps`). -/

namespace FaultResponse.Lineage

variable {α : Type} [DecidableEq α]

/-- A line that holds every row in its own order, nothing else, and nothing twice. -/
structure Keeps (rows : List (List α)) (line : List α) : Prop where
  nodup : line.Nodup
  order : ∀ row ∈ rows, row.Sublist line
  members : ∀ a ∈ line, ∃ row ∈ rows, a ∈ row

variable {rows : List (List α)} {line : List α} {a : α}

/-! ## One step -/

theorem choose_eq_some (h : choose rows = some a) :
    (∃ row ∈ rows, a ∈ row) ∧ ∀ row ∈ rows, a ∉ row.tail := by
  refine ⟨?_, ?_⟩
  · obtain ⟨row, hrow, hhead⟩ := List.mem_filterMap.mp (List.mem_of_find?_eq_some h)
    exact ⟨row, hrow, List.mem_of_mem_head? hhead⟩
  · intro row hrow ha
    have hfound : (!isBehind rows a) = true := List.find?_some (p := fun b => !isBehind rows b) h
    have hbehind : isBehind rows a = false := (Bool.not_eq_true' _).mp hfound
    have hany : isBehind rows a = true :=
      List.any_eq_true.mpr ⟨row, hrow, List.contains_iff_mem.mpr ha⟩
    exact nomatch hbehind.symm.trans hany

/-- A row loses the member that it is headed by, and else it stays. -/
theorem advanceRow_cases (a : α) (row : List α) :
    row = a :: advanceRow a row ∨ advanceRow a row = row := by
  cases row with
  | nil => exact Or.inr rfl
  | cons b rest =>
      by_cases hb : b = a
      · refine Or.inl ?_
        rw [advanceRow, if_pos hb, hb]
      · refine Or.inr ?_
        rw [advanceRow, if_neg hb]

theorem mem_of_mem_advanceRow {row : List α} {x : α} (h : x ∈ advanceRow a row) : x ∈ row := by
  rcases advanceRow_cases a row with hrow | hrow
  · rw [hrow]
    exact List.mem_cons_of_mem a h
  · rwa [hrow] at h

theorem not_mem_advanceRow {row : List α} (h : a ∉ row.tail) : a ∉ advanceRow a row := by
  cases row with
  | nil => exact List.not_mem_nil
  | cons b rest =>
      by_cases hb : b = a
      · rw [advanceRow, if_pos hb]
        exact h
      · rw [advanceRow, if_neg hb]
        intro ha
        rcases List.mem_cons.mp ha with hba | hrest
        · exact hb hba.symm
        · exact h hrest

/-- **ONE STEP**: the chosen member, put before a line for the advanced rows, makes a
    line for the rows. -/
theorem Keeps.cons (hchoose : choose rows = some a) (h : Keeps (advance a rows) line) :
    Keeps rows (a :: line) := by
  obtain ⟨⟨first, hfirst, hhead⟩, hbehind⟩ := choose_eq_some hchoose
  refine ⟨?_, ?_, ?_⟩
  · refine List.nodup_cons.mpr ⟨?_, h.nodup⟩
    intro ha
    obtain ⟨advanced, hadvanced, hmem⟩ := h.members a ha
    obtain ⟨row, hrow, rfl⟩ := List.mem_map.mp hadvanced
    exact not_mem_advanceRow (hbehind row hrow) hmem
  · intro row hrow
    have hrest : (advanceRow a row).Sublist line := h.order _ (List.mem_map_of_mem hrow)
    rcases advanceRow_cases a row with hr | hr
    · rw [hr]
      exact hrest.cons_cons a
    · rw [hr] at hrest
      exact hrest.cons a
  · intro x hx
    rcases List.mem_cons.mp hx with rfl | hrest
    · exact ⟨first, hfirst, hhead⟩
    · obtain ⟨advanced, hadvanced, hmem⟩ := h.members x hrest
      obtain ⟨row, hrow, rfl⟩ := List.mem_map.mp hadvanced
      exact ⟨row, hrow, mem_of_mem_advanceRow hmem⟩

/-! ## The whole merge -/

omit [DecidableEq α] in
/-- Rows without heads are used up. -/
theorem Keeps.nil (h : (heads rows).isEmpty = true) : Keeps rows [] := by
  refine ⟨List.nodup_nil, ?_, fun a ha => nomatch ha⟩
  intro row hrow
  cases row with
  | nil => exact List.nil_sublist []
  | cons b rest =>
      have hb : b ∈ heads rows := List.mem_filterMap.mpr ⟨b :: rest, hrow, rfl⟩
      rw [List.isEmpty_iff.mp h] at hb
      exact nomatch hb

/-- Where merging stops, it stops at used-up rows or fails. -/
theorem keeps_of_stop
    (h : (if (heads rows).isEmpty then .ok [] else .error (heads rows).eraseDups) =
      (.ok line : Except (List α) (List α))) : Keeps rows line := by
  cases hempty : (heads rows).isEmpty with
  | false => rw [hempty] at h; exact nomatch h
  | true =>
      rw [hempty] at h
      obtain rfl := Except.ok.inj h
      exact .nil hempty

theorem keeps_of_mergeWithin {fuel : Nat} (h : mergeWithin fuel rows = .ok line) :
    Keeps rows line := by
  induction fuel generalizing rows line with
  | zero =>
      unfold mergeWithin at h
      cases hc : choose rows with
      | none => rw [hc] at h; exact keeps_of_stop h
      | some a => rw [hc] at h; exact keeps_of_stop h
  | succ fuel ih =>
      unfold mergeWithin at h
      cases hc : choose rows with
      | none => rw [hc] at h; exact keeps_of_stop h
      | some a =>
          simp only [hc] at h
          cases hm : mergeWithin fuel (advance a rows) with
          | error stuck => rw [hm] at h; exact nomatch h
          | ok rest =>
              rw [hm] at h
              obtain rfl := Except.ok.inj h
              exact .cons hc (ih hm)

/-- **A MERGED LINE KEEPS ITS ROWS.** -/
theorem keeps_of_merge (h : merge rows = .ok line) : Keeps rows line :=
  keeps_of_mergeWithin h

omit [DecidableEq α] in
/-- A renaming that keeps members apart keeps everything else as well. -/
theorem Keeps.map {β : Type} {f : α → β} (hf : Function.Injective f) (h : Keeps rows line) :
    Keeps (rows.map (List.map f)) (line.map f) := by
  refine ⟨h.nodup.map hf, ?_, ?_⟩
  · intro renamed hrenamed
    obtain ⟨row, hrow, rfl⟩ := List.mem_map.mp hrenamed
    exact (h.order row hrow).map f
  · intro b hb
    obtain ⟨a, ha, rfl⟩ := List.mem_map.mp hb
    obtain ⟨row, hrow, hmem⟩ := h.members a ha
    exact ⟨row.map f, List.mem_map_of_mem hrow, List.mem_map_of_mem hmem⟩

end FaultResponse.Lineage
