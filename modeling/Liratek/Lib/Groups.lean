import Liratek.Lib.Table

/-! Rows of a table that are linked to a group. A row counts for its group unless it is taken out. -/

namespace Liratek.Lib.Groups

section
variable {α M : Type*} [AddCommGroup M] (linkOf : α → Option Nat) (counts : α → Bool)

/-- What the counted rows of a group add up to, each worth `f`. -/
def groupSum (t : Table α) (group : Nat) (f : α → M) : M :=
  t.total fun row => if linkOf row = some group ∧ counts row = true then f row else 0

variable {linkOf counts} {t : Table α} {group : Nat} {f : α → M}

theorem groupSum_added (row : α) : groupSum linkOf counts (t.insert row) group f =
    groupSum linkOf counts t group f + if linkOf row = some group ∧ counts row = true then f row else 0 :=
  Table.total_insert ..

theorem groupSum_insert {row : α} (free : linkOf row ≠ some group) :
    groupSum linkOf counts (t.insert row) group f = groupSum linkOf counts t group f := by
  rw [groupSum_added, if_neg fun linked => free linked.1, add_zero]

theorem groupSum_update {id : Nat} {row : α} (found : t.get id = some row) (change : α → α) :
    groupSum linkOf counts (t.update id change) group f = groupSum linkOf counts t group f -
        (if linkOf row = some group ∧ counts row = true then f row else 0) +
      if linkOf (change row) = some group ∧ counts (change row) = true then f (change row) else 0 :=
  Table.total_update found change _

/-- A change that no group counts differently. -/
theorem groupSum_same {id : Nat} {row : α} {change : α → α} (found : t.get id = some row)
    (link : linkOf (change row) = linkOf row) (counted : counts (change row) = counts row)
    (worth : linkOf row = some group → counts row = true → f (change row) = f row) :
    groupSum linkOf counts (t.update id change) group f = groupSum linkOf counts t group f := by
  rw [groupSum_update found, link, counted]
  split_ifs with inside
  · rw [worth inside.1 inside.2, sub_add_cancel]
  · rw [sub_zero, add_zero]

/-- A row that is taken out takes its worth out of its own group. -/
theorem groupSum_takenOut {id : Nat} {row : α} {change : α → α} (found : t.get id = some row)
    (out : counts (change row) = false) (counted : counts row = true) :
    groupSum linkOf counts (t.update id change) group f =
      groupSum linkOf counts t group f - if linkOf row = some group then f row else 0 := by
  rw [groupSum_update found]
  simp [out, counted]

/-- Rows that are neither linked to the group before nor after. -/
theorem groupSum_elsewhere {p : α → Bool} {change : α → α}
    (before : ∀ row, p row = true → linkOf row ≠ some group)
    (after : ∀ row, p row = true → linkOf (change row) ≠ some group) :
    groupSum linkOf counts (t.updateWhere p change) group f = groupSum linkOf counts t group f := by
  unfold groupSum
  rw [Table.total_updateWhere]
  apply Table.total_congr
  intro id row _
  rcases chosen : p row with _ | _
  · rfl
  · rw [if_pos rfl, if_neg fun linked => after row chosen linked.1, if_neg fun linked => before row chosen linked.1]

/-- A group without rows takes in the chosen ones. -/
theorem groupSum_joined {p : α → Bool} {change : α → α} (empty : ∀ id row, t.get id = some row → linkOf row ≠ some group)
    (joins : ∀ row, p row = true → linkOf (change row) = some group) (counted : ∀ row, p row = true → counts (change row) = true)
    (worth : ∀ row, f (change row) = f row) :
    groupSum linkOf counts (t.updateWhere p change) group f = t.total fun row => if p row then f row else 0 := by
  unfold groupSum
  rw [Table.total_updateWhere]
  apply Table.total_congr
  intro id row found
  rcases chosen : p row with _ | _
  · exact if_neg fun linked => empty id row found linked.1
  · rw [if_pos rfl, if_pos rfl, if_pos ⟨joins row chosen, counted row chosen⟩, worth row]

end

end Liratek.Lib.Groups
