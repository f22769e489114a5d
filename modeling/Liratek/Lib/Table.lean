import Liratek.Lib.Coverage
import Mathlib.Algebra.BigOperators.Group.List.Basic
import Mathlib.Algebra.BigOperators.Group.Multiset.Basic
import Mathlib.Algebra.BigOperators.Ring.List
import Mathlib.Algebra.Order.BigOperators.Group.List
import Mathlib.Data.List.Induction
import Mathlib.Tactic.Abel

/-! Tables of rows. Ids are given in order and never given again, also after a delete. -/

namespace Liratek.Lib

structure Table (α : Type*) where
  slots : List (Option α) := []
  deriving DecidableEq, Repr

namespace Table

section
variable {α : Type*}

/-- The id of the next row. -/
def nextId (t : Table α) : Nat :=
  t.slots.length

def get (t : Table α) (id : Nat) : Option α :=
  (t.slots[id]?).join

def insert (t : Table α) (row : α) : Table α :=
  ⟨t.slots ++ [some row]⟩

def insertAll (t : Table α) (rows : List α) : Table α :=
  rows.foldl insert t

def update (t : Table α) (id : Nat) (change : α → α) : Table α :=
  ⟨t.slots.modify id (Option.map change)⟩

/-- A conditional update, and whether it changed the row. -/
def updateIf (t : Table α) (id : Nat) (when' : α → Bool) (change : α → α) : Table α × Bool :=
  match t.get id with
  | none => (t, false)
  | some row => if when' row then (t.update id change, true) else (t, false)

def delete (t : Table α) (id : Nat) : Table α :=
  ⟨t.slots.modify id fun _ => none⟩

def updateWhere (t : Table α) (p : α → Bool) (change : α → α) : Table α :=
  ⟨t.slots.map (Option.map fun row => if p row then change row else row)⟩

def deleteWhere (t : Table α) (p : α → Bool) : Table α :=
  ⟨t.slots.map (Option.filter fun row => !p row)⟩

/-- The rows with their ids, in the order of the ids. -/
def rows (t : Table α) : List (Nat × α) :=
  t.slots.zipIdx.filterMap fun slot => slot.1.map fun row => (slot.2, row)

def select (t : Table α) (p : α → Bool) : List (Nat × α) :=
  t.rows.filter fun entry => p entry.2

@[simp] theorem nextId_insert (t : Table α) (row : α) : (t.insert row).nextId = t.nextId + 1 := by
  simp [nextId, insert]

@[simp] theorem nextId_update (t : Table α) (id : Nat) (change : α → α) : (t.update id change).nextId = t.nextId := by
  simp [nextId, update]

@[simp] theorem nextId_delete (t : Table α) (id : Nat) : (t.delete id).nextId = t.nextId := by
  simp [nextId, delete]

@[simp] theorem nextId_updateWhere (t : Table α) (p : α → Bool) (change : α → α) :
    (t.updateWhere p change).nextId = t.nextId := by
  simp [nextId, updateWhere]

@[simp] theorem nextId_deleteWhere (t : Table α) (p : α → Bool) : (t.deleteWhere p).nextId = t.nextId := by
  simp [nextId, deleteWhere]

theorem get_lt {t : Table α} {id : Nat} {row : α} (found : t.get id = some row) : id < t.nextId := by
  by_contra beyond
  unfold nextId at beyond
  rw [get, List.getElem?_eq_none (not_lt.mp beyond)] at found
  cases found

theorem get_of_le {t : Table α} {id : Nat} (le : t.nextId ≤ id) : t.get id = none := by
  rw [get, List.getElem?_eq_none le]
  rfl

@[simp] theorem get_empty (id : Nat) : ({} : Table α).get id = none :=
  get_of_le (Nat.zero_le id)

/-- The row of a table of one row. -/
theorem get_only {row found : α} {id : Nat} (there : get ⟨[some row]⟩ id = some found) : found = row := by
  rcases id with _ | id
  · exact (Option.some.inj there).symm
  · cases there

@[simp] theorem get_insert_self (t : Table α) (row : α) : (t.insert row).get t.nextId = some row := by
  simp [get, insert, nextId]

theorem get_insert_of_ne (t : Table α) (row : α) {id : Nat} (other : id ≠ t.nextId) : (t.insert row).get id = t.get id := by
  unfold get insert
  unfold nextId at other
  rcases Nat.lt_or_gt_of_ne other with lt | gt
  · rw [List.getElem?_append_left lt]
  · rw [List.getElem?_eq_none gt.le, List.getElem?_eq_none]
    rw [List.length_append, List.length_singleton]
    omega

theorem get_insert_of_get {t : Table α} {row row' : α} {id : Nat} (found : t.get id = some row) :
    (t.insert row').get id = some row := by
  rw [get_insert_of_ne t row' (get_lt found).ne, found]

theorem get_insert {t : Table α} {row row' : α} {id : Nat} (found : (t.insert row').get id = some row) :
    t.get id = some row ∨ id = t.nextId ∧ row = row' := by
  by_cases last : id = t.nextId
  · rw [last, get_insert_self] at found
    exact Or.inr ⟨last, (Option.some.inj found).symm⟩
  · rw [get_insert_of_ne t row' last] at found
    exact Or.inl found

theorem get_insertAll {t : Table α} {rows : List α} {row : α} {id : Nat} (found : (t.insertAll rows).get id = some row) :
    t.get id = some row ∨ row ∈ rows ∧ t.nextId ≤ id := by
  induction rows generalizing t with
  | nil => exact Or.inl found
  | cons first rest ih =>
    rcases ih found with earlier | ⟨later, beyond⟩
    · rcases get_insert earlier with old | ⟨rfl, rfl⟩
      · exact Or.inl old
      · exact Or.inr ⟨List.mem_cons_self, le_rfl⟩
    · rw [nextId_insert] at beyond
      exact Or.inr ⟨List.mem_cons_of_mem _ later, Nat.le_of_succ_le beyond⟩

theorem get_insertAll_of_get {t : Table α} {rows : List α} {row : α} {id : Nat} (found : t.get id = some row) :
    (t.insertAll rows).get id = some row := by
  induction rows generalizing t with
  | nil => exact found
  | cons first rest ih => exact ih (get_insert_of_get found)

@[simp] theorem get_update_self (t : Table α) (id : Nat) (change : α → α) :
    (t.update id change).get id = (t.get id).map change := by
  unfold get update
  rw [List.getElem?_modify_eq]
  rcases t.slots[id]? with _ | slot
  · rfl
  · rfl

theorem get_update_of_ne (t : Table α) (change : α → α) {id other : Nat} (ne : other ≠ id) :
    (t.update id change).get other = t.get other := by
  unfold get update
  dsimp only
  rw [List.getElem?_modify_ne _ _ ne.symm]

theorem get_update_of_get {t : Table α} {id : Nat} {row : α} (found : t.get id = some row) (target : Nat)
    (change : α → α) : (t.update target change).get id = some (if target = id then change row else row) := by
  split_ifs with this
  · rw [this, get_update_self, found]
    rfl
  · rw [get_update_of_ne t change (Ne.symm this), found]

/-- What no change touches is as it was before. -/
theorem get_update_keeps {β : Type*} {t : Table α} {id other : Nat} {change : α → α} {row' : α} (field : α → β)
    (keeps : ∀ row, field (change row) = field row) (found : (t.update id change).get other = some row') :
    ∃ row, t.get other = some row ∧ field row = field row' := by
  by_cases isIt : other = id
  · rw [isIt, get_update_self] at found
    obtain ⟨row, there, rfl⟩ := Option.map_eq_some_iff.mp found
    exact ⟨row, isIt ▸ there, (keeps row).symm⟩
  · rw [get_update_of_ne t change isIt] at found
    exact ⟨row', found, rfl⟩

theorem update_id (t : Table α) (id : Nat) : t.update id (fun row => row) = t := by
  unfold update
  exact congrArg Table.mk ((congrArg (t.slots.modify id) Option.map_id).trans (List.modify_id _ _))

/-- A new row that is changed at once. -/
theorem update_insert_self (t : Table α) (row : α) (change : α → α) : (t.insert row).update t.nextId change = t.insert (change row) := by
  unfold update insert nextId
  dsimp only
  congr 1
  induction t.slots with
  | nil => rfl
  | cons slot rest ih => exact congrArg (slot :: ·) ih

theorem updateIf_other {t : Table α} {id other : Nat} {when' : α → Bool} {change : α → α} (ne : other ≠ id) :
    (t.updateIf id when' change).1.get other = t.get other := by
  unfold updateIf
  cases t.get id with
  | none => rfl
  | some row =>
    dsimp only
    split_ifs
    · exact get_update_of_ne t change ne
    · rfl

theorem updateIf_self {t : Table α} {id : Nat} {when' : α → Bool} {change : α → α} :
    (t.updateIf id when' change).1.get id = (t.get id).map fun row => if when' row then change row else row := by
  unfold updateIf
  cases found : t.get id with
  | none => exact found
  | some row =>
    dsimp only
    split_ifs with holds
    · rw [get_update_self, found, Option.map_some, Option.map_some, if_pos holds]
    · rw [found, Option.map_some, if_neg holds]

/-- A conditional update that says it has changed the row. -/
theorem updateIf_changed {t : Table α} {id : Nat} {when' : α → Bool} {change : α → α}
    (changed : (t.updateIf id when' change).2 = true) : ∃ row, t.get id = some row ∧ when' row = true := by
  unfold updateIf at changed
  cases found : t.get id with
  | none =>
    rw [found] at changed
    cases changed
  | some row =>
    rw [found] at changed
    dsimp only at changed
    split_ifs at changed with holds
    exact ⟨row, rfl, holds⟩

/-- A row after a conditional update, from the row before it. -/
theorem get_updateIf {t : Table α} {id other : Nat} {when' : α → Bool} {change : α → α} {row' : α}
    (found : (t.updateIf id when' change).1.get other = some row') :
    ∃ row, t.get other = some row ∧ (row' = row ∨ other = id ∧ when' row = true ∧ row' = change row) := by
  by_cases isIt : other = id
  · rw [isIt, updateIf_self] at found
    obtain ⟨row, there, changed⟩ := Option.map_eq_some_iff.mp found
    rw [isIt]
    refine ⟨row, there, ?_⟩
    split_ifs at changed with holds
    · exact .inr ⟨rfl, holds, changed.symm⟩
    · exact .inl changed.symm
  · rw [updateIf_other isIt] at found
    exact ⟨row', found, .inl rfl⟩

@[simp] theorem nextId_updateIf (t : Table α) (id : Nat) (when' : α → Bool) (change : α → α) :
    (t.updateIf id when' change).1.nextId = t.nextId := by
  unfold updateIf
  cases t.get id with
  | none => rfl
  | some row =>
    dsimp only
    split_ifs
    · exact nextId_update t id change
    · rfl

@[simp] theorem get_delete_self (t : Table α) (id : Nat) : (t.delete id).get id = none := by
  unfold get delete
  rw [List.getElem?_modify_eq]
  rcases t.slots[id]? with _ | slot
  · rfl
  · rfl

theorem get_delete_of_ne (t : Table α) {id other : Nat} (ne : other ≠ id) : (t.delete id).get other = t.get other := by
  unfold get delete
  dsimp only
  rw [List.getElem?_modify_ne _ _ ne.symm]

@[simp] theorem get_updateWhere (t : Table α) (p : α → Bool) (change : α → α) (id : Nat) :
    (t.updateWhere p change).get id = (t.get id).map fun row => if p row then change row else row := by
  unfold get updateWhere
  rw [List.getElem?_map]
  rcases t.slots[id]? with _ | slot
  · rfl
  · rfl

@[simp] theorem get_deleteWhere (t : Table α) (p : α → Bool) (id : Nat) :
    (t.deleteWhere p).get id = (t.get id).filter fun row => !p row := by
  unfold get deleteWhere
  rw [List.getElem?_map]
  rcases t.slots[id]? with _ | slot
  · rfl
  · rfl

/-- The rows that are left. -/
theorem get_deleteWhere_some {t : Table α} {p : α → Bool} {id : Nat} {row : α} :
    (t.deleteWhere p).get id = some row ↔ t.get id = some row ∧ p row = false := by
  rw [get_deleteWhere, Option.filter_eq_some_iff, Bool.not_eq_true']

theorem mem_rows {t : Table α} {id : Nat} {row : α} : (id, row) ∈ t.rows ↔ t.get id = some row := by
  unfold rows get
  rw [List.mem_filterMap, Option.join_eq_some_iff]
  constructor
  · intro ⟨slot, member, same⟩
    obtain ⟨row', found, pair⟩ := Option.map_eq_some_iff.mp same
    cases pair
    rw [List.mem_zipIdx_iff_getElem?] at member
    rw [← found]
    exact member
  · intro found
    exact ⟨(some row, id), List.mem_zipIdx_iff_getElem?.mpr found, rfl⟩

theorem mem_select {t : Table α} {p : α → Bool} {id : Nat} {row : α} :
    (id, row) ∈ t.select p ↔ t.get id = some row ∧ p row = true := by
  rw [select, List.mem_filter, mem_rows]

theorem rows_sorted (t : Table α) : (t.rows.map (·.1)).Pairwise (· < ·) := by
  have indexed : ∀ (slots : List (Option α)) (start : Nat),
      ((slots.zipIdx start).filterMap fun slot => slot.1.map fun row => (slot.2, row)).Pairwise (·.1 < ·.1) ∧
        ∀ entry ∈ (slots.zipIdx start).filterMap fun slot => slot.1.map fun row => (slot.2, row), start ≤ entry.1 := by
    intro slots
    induction slots with
    | nil => exact fun _ => ⟨List.Pairwise.nil, fun _ member => absurd member List.not_mem_nil⟩
    | cons slot rest ih =>
      intro start
      obtain ⟨sorted, bounded⟩ := ih (start + 1)
      rw [List.zipIdx_cons]
      rcases slot with _ | row
      · exact ⟨sorted, fun entry member => (Nat.le_succ start).trans (bounded entry member)⟩
      · refine ⟨List.Pairwise.cons bounded sorted, ?_⟩
        intro entry member
        rcases List.mem_cons.mp member with rfl | later
        · exact le_rfl
        · exact (Nat.le_succ start).trans (bounded entry later)
  rw [List.pairwise_map]
  exact (indexed t.slots 0).1

theorem select_nodup (t : Table α) (p : α → Bool) : ((t.select p).map (·.1)).Nodup :=
  ((t.rows_sorted.sublist (List.filter_sublist.map _)).imp Nat.ne_of_lt)

/-- One row of a sum, by its id. -/
theorem sum_filter_ne {M : Type*} [AddCommMonoid M] {rows : List (Nat × α)} (distinct : (rows.map (·.1)).Nodup) {id : Nat} {row : α}
    (member : (id, row) ∈ rows) (f : Nat × α → M) :
    (rows.map f).sum = f (id, row) + ((rows.filter fun r => r.1 ≠ id).map f).sum := by
  induction rows with
  | nil => cases member
  | cons first rest ih =>
    obtain ⟨once, distinctRest⟩ := List.nodup_cons.mp distinct
    rw [List.map_cons, List.sum_cons]
    rcases List.mem_cons.mp member with rfl | later
    · rw [List.filter_cons_of_neg (by simp), List.filter_eq_self.mpr fun r inside => ?_]
      exact decide_eq_true fun same => once (List.mem_map.mpr ⟨r, inside, same⟩)
    · have other : first.1 ≠ id := fun same => once (List.mem_map.mpr ⟨(id, row), later, same.symm⟩)
      rw [List.filter_cons, if_pos (decide_eq_true other), List.map_cons, List.sum_cons, ih distinctRest later,
        add_left_comm]

theorem rows_insert (t : Table α) (row : α) : (t.insert row).rows = t.rows ++ [(t.nextId, row)] := by
  unfold rows insert nextId
  rw [List.zipIdx_append, List.filterMap_append]
  simp

theorem rows_update (t : Table α) (id : Nat) (change : α → α) :
    (t.update id change).rows = t.rows.map fun entry => (entry.1, if entry.1 = id then change entry.2 else entry.2) := by
  have indexed : (t.slots.modify id (Option.map change)).zipIdx =
      t.slots.zipIdx.map fun slot => (if slot.2 = id then slot.1.map change else slot.1, slot.2) := by
    apply List.ext_getElem?
    intro i
    rw [List.getElem?_zipIdx, List.getElem?_map, List.getElem?_zipIdx, List.getElem?_modify]
    rcases t.slots[i]? with _ | slot
    · rfl
    · by_cases this : id = i
      · simp [this]
      · simp [this, Ne.symm this]
  unfold rows update
  dsimp only
  rw [indexed, List.filterMap_map, List.map_filterMap]
  congr 1
  funext slot
  obtain ⟨_ | row, i⟩ := slot
  · dsimp only [Function.comp_apply]
    split_ifs <;> rfl
  · dsimp only [Function.comp_apply]
    split_ifs with this
    · simp [this]
    · simp [this]

theorem rows_updateWhere (t : Table α) (p : α → Bool) (change : α → α) :
    (t.updateWhere p change).rows = t.rows.map fun entry => (entry.1, if p entry.2 then change entry.2 else entry.2) := by
  unfold rows updateWhere
  dsimp only
  rw [List.zipIdx_map, List.filterMap_map, List.map_filterMap]
  congr 1
  funext slot
  obtain ⟨_ | row, i⟩ := slot
  · rfl
  · rfl

/-- No changed row is chosen any more. -/
theorem select_updateWhere (t : Table α) {p q : α → Bool} {change : α → α}
    (out : ∀ row, p row = true → q (change row) = false) :
    (t.updateWhere p change).select q = t.select fun row => q row && !p row := by
  have chosen : ((fun entry : Nat × α => q entry.2) ∘
      fun entry : Nat × α => (entry.1, if p entry.2 then change entry.2 else entry.2)) =
        fun entry => q entry.2 && !p entry.2 := by
    funext entry
    dsimp only [Function.comp_apply]
    rcases changed : p entry.2 with _ | _
    · simp
    · simp [out entry.2 changed]
  unfold select
  rw [rows_updateWhere, List.filter_map, chosen]
  calc _ = (t.rows.filter fun entry => q entry.2 && !p entry.2).map id := by
        apply List.map_congr_left
        intro entry member
        have kept := (List.mem_filter.mp member).2
        rw [Bool.and_eq_true, Bool.not_eq_true'] at kept
        simp [kept.2]
    _ = _ := List.map_id _

theorem select_insert (t : Table α) (p : α → Bool) (row : α) :
    (t.insert row).select p = t.select p ++ if p row then [(t.nextId, row)] else [] := by
  rw [select, rows_insert, List.filter_append, List.filter_singleton, Bool.cond_eq_ite]
  rfl

/-- A change that leaves the choice of each row as it is. -/
theorem select_insertAll {t : Table α} {p : α → Bool} {rows : List α} (none : ∀ row ∈ rows, p row = false) :
    (t.insertAll rows).select p = t.select p := by
  induction rows generalizing t with
  | nil => rfl
  | cons row rest ih =>
    obtain ⟨first, others⟩ := List.forall_mem_cons.mp none
    refine (ih others).trans ?_
    rw [select_insert, first]
    exact List.append_nil _

theorem select_update (t : Table α) (p : α → Bool) (id : Nat) (change : α → α)
    (same : ∀ row, t.get id = some row → p (change row) = p row) :
    (t.update id change).select p =
      (t.select p).map fun entry => (entry.1, if entry.1 = id then change entry.2 else entry.2) := by
  unfold select
  rw [rows_update, List.filter_map]
  congr 1
  apply List.filter_congr
  intro entry member
  dsimp only [Function.comp_apply]
  split_ifs with this
  · exact same entry.2 (this ▸ mem_rows.mp member)
  · rfl

theorem ext_get {t u : Table α} (size : t.nextId = u.nextId) (same : ∀ id, t.get id = u.get id) : t = u := by
  obtain ⟨slots⟩ := t
  obtain ⟨slots'⟩ := u
  congr 1
  apply List.ext_getElem size
  intro i below below'
  have slot := same i
  unfold get at slot
  rwa [List.getElem?_eq_getElem below, List.getElem?_eq_getElem below', Option.join_some, Option.join_some] at slot

theorem nextId_updates (change : α → α) (ids : List Nat) (t : Table α) :
    (ids.foldl (fun table id => table.update id change) t).nextId = t.nextId := by
  induction ids generalizing t with
  | nil => rfl
  | cons id rest ih => rw [List.foldl_cons, ih, nextId_update]

theorem get_updates (change : α → α) {ids : List Nat} (distinct : ids.Nodup) (t : Table α) (i : Nat) :
    (ids.foldl (fun table id => table.update id change) t).get i =
      (t.get i).map fun row => if i ∈ ids then change row else row := by
  induction ids generalizing t with
  | nil => simp
  | cons id rest ih =>
    obtain ⟨fresh, distinct⟩ := List.nodup_cons.mp distinct
    rw [List.foldl_cons, ih distinct]
    by_cases this : i = id
    · rw [this, get_update_self, Option.map_map]
      congr 1
      funext row
      simp [fresh]
    · rw [get_update_of_ne t change this]
      simp [this]

/-- One update for each chosen row is one update of them all. -/
theorem updates_select (t : Table α) (p : α → Bool) (change : α → α) :
    ((t.select p).map (·.1)).foldl (fun table id => table.update id change) t = t.updateWhere p change := by
  apply ext_get
  · rw [nextId_updates, nextId_updateWhere]
  · intro id
    rw [get_updates change (t.select_nodup p), get_updateWhere]
    rcases found : t.get id with _ | row
    · rfl
    · have chosen : id ∈ (t.select p).map (·.1) ↔ p row = true := by
        rw [List.mem_map]
        constructor
        · intro ⟨entry, member, same⟩
          obtain ⟨found', chosen⟩ := mem_select.mp (show (entry.1, entry.2) ∈ t.select p from member)
          rw [same, found] at found'
          rwa [Option.some.inj found']
        · exact fun chosen => ⟨(id, row), mem_select.mpr ⟨found, chosen⟩, rfl⟩
      simp only [Option.map_some, chosen]

end

/-! Sums over a table. -/

section
variable {α M : Type*}

def total [AddCommMonoid M] (t : Table α) (f : α → M) : M :=
  (t.slots.map fun slot => (slot.map f).getD 0).sum

@[simp] theorem total_insert [AddCommMonoid M] (t : Table α) (row : α) (f : α → M) :
    (t.insert row).total f = t.total f + f row := by
  simp [total, insert]

theorem total_insertAll [AddCommMonoid M] (t : Table α) (rows : List α) (f : α → M) :
    (t.insertAll rows).total f = t.total f + (rows.map f).sum := by
  induction rows generalizing t with
  | nil => exact (add_zero _).symm
  | cons row rest ih =>
    refine (ih (t.insert row)).trans ?_
    rw [total_insert, List.map_cons, List.sum_cons, add_assoc]

theorem total_congr [AddCommMonoid M] {t : Table α} {f g : α → M} (same : ∀ id row, t.get id = some row → f row = g row) :
    t.total f = t.total g := by
  unfold total
  congr 1
  apply List.map_congr_left
  intro slot member
  rcases slot with _ | row
  · rfl
  · obtain ⟨id, found⟩ := List.mem_iff_getElem?.mp member
    exact same id row (by rw [get, found]; rfl)

theorem total_eq_zero [AddCommMonoid M] {t : Table α} {f : α → M} (zero : ∀ id row, t.get id = some row → f row = 0) :
    t.total f = 0 := by
  rw [total_congr (g := fun _ => 0) zero]
  unfold total
  apply List.sum_eq_zero
  intro x member
  obtain ⟨slot, -, rfl⟩ := List.mem_map.mp member
  cases slot <;> rfl

theorem total_updateWhere [AddCommMonoid M] (t : Table α) (p : α → Bool) (change : α → α) (f : α → M) :
    (t.updateWhere p change).total f = t.total fun row => f (if p row then change row else row) := by
  unfold total updateWhere
  rw [List.map_map]
  congr 1
  apply List.map_congr_left
  intro slot _
  cases slot <;> rfl

theorem total_add [AddCommMonoid M] (t : Table α) (f g : α → M) :
    (t.total fun row => f row + g row) = t.total f + t.total g := by
  unfold total
  rw [← List.sum_map_add]
  congr 1
  apply List.map_congr_left
  intro slot _
  cases slot
  · exact (add_zero 0).symm
  · rfl

/-- One part of a total is the total of that part. -/
theorem map_total [AddCommMonoid M] {N : Type*} [AddCommMonoid N] (part : M →+ N) (t : Table α) (f : α → M) :
    part (t.total f) = t.total fun row => part (f row) := by
  unfold total
  rw [map_list_sum, List.map_map]
  congr 1
  apply List.map_congr_left
  intro slot _
  cases slot
  · exact part.map_zero
  · rfl

theorem sum_modify [AddCommGroup M] (f : Option α → M) (change : Option α → Option α) (slots : List (Option α)) (id : Nat)
    {slot : Option α} (found : slots[id]? = some slot) :
    ((slots.modify id change).map f).sum = (slots.map f).sum - f slot + f (change slot) := by
  induction slots generalizing id with
  | nil => cases found
  | cons first rest ih =>
    cases id with
    | zero =>
      cases found
      rw [List.modify_zero_cons, List.map_cons, List.map_cons, List.sum_cons, List.sum_cons]
      abel
    | succ id =>
      rw [List.modify_succ_cons, List.map_cons, List.map_cons, List.sum_cons, List.sum_cons, ih id found]
      abel

theorem slot_of_get {t : Table α} {id : Nat} {row : α} (found : t.get id = some row) : t.slots[id]? = some (some row) :=
  Option.join_eq_some_iff.mp found

theorem total_update [AddCommGroup M] {t : Table α} {id : Nat} {row : α} (found : t.get id = some row) (change : α → α)
    (f : α → M) : (t.update id change).total f = t.total f - f row + f (change row) :=
  sum_modify (fun slot => (slot.map f).getD 0) (Option.map change) t.slots id (slot_of_get found)

/-- A change that no row is counted differently for. -/
theorem total_update_same [AddCommGroup M] (t : Table α) (id : Nat) {change : α → α} {f : α → M}
    (same : ∀ row, f (change row) = f row) : (t.update id change).total f = t.total f := by
  unfold total update
  dsimp only
  rcases found : t.slots[id]? with _ | slot
  · rw [List.modify_eq_self (List.getElem?_eq_none_iff.mp found)]
  · rw [sum_modify _ _ _ _ found]
    rcases slot with _ | row
    · exact sub_add_cancel _ _
    · simp [same row]

theorem total_delete [AddCommGroup M] {t : Table α} {id : Nat} {row : α} (found : t.get id = some row) (f : α → M) :
    (t.delete id).total f = t.total f - f row :=
  (sum_modify (fun slot => (slot.map f).getD 0) (fun _ => none) t.slots id (slot_of_get found)).trans (add_zero _)

/-- The total of what is left. -/
theorem total_deleteWhere_ite [AddCommMonoid M] (t : Table α) (p : α → Bool) (f : α → M) :
    (t.deleteWhere p).total f = t.total fun row => if p row then 0 else f row := by
  unfold total deleteWhere
  rw [List.map_map]
  congr 1
  apply List.map_congr_left
  intro slot _
  rcases slot with _ | row
  · rfl
  · cases gone : p row <;> simp [Option.filter, gone]

/-- The only row that counts. -/
theorem total_only [AddCommGroup M] {t : Table α} {id : Nat} {row : α} (found : t.get id = some row) {f : α → M}
    (others : ∀ id' row', t.get id' = some row' → id' ≠ id → f row' = 0) : t.total f = f row := by
  have rest : (t.delete id).total f = 0 := by
    refine total_eq_zero fun id' row' there => ?_
    by_cases isIt : id' = id
    · rw [isIt, get_delete_self] at there
      cases there
    · rw [get_delete_of_ne t isIt] at there
      exact others id' row' there isIt
  rw [total_delete found] at rest
  exact sub_eq_zero.mp rest

/-- Deleting rows that count for nothing. -/
theorem total_deleteWhere [AddCommMonoid M] {t : Table α} {p : α → Bool} {f : α → M}
    (zero : ∀ id row, t.get id = some row → p row = true → f row = 0) : (t.deleteWhere p).total f = t.total f := by
  unfold total deleteWhere
  rw [List.map_map]
  congr 1
  apply List.map_congr_left
  intro slot member
  rcases slot with _ | row
  · rfl
  · obtain ⟨id, found⟩ := List.mem_iff_getElem?.mp member
    rcases gone : p row with _ | _
    · simp [Option.filter, gone]
    · simp [Option.filter, gone, zero id row (by rw [get, found]; rfl) gone]

theorem total_rows [AddCommMonoid M] (t : Table α) (f : α → M) : t.total f = (t.rows.map fun entry => f entry.2).sum := by
  have indexed : ∀ (slots : List (Option α)) (start : Nat), (slots.map fun slot => (slot.map f).getD 0).sum =
      (((slots.zipIdx start).filterMap fun slot => slot.1.map fun row => (slot.2, row)).map fun entry => f entry.2).sum := by
    intro slots
    induction slots with
    | nil => exact fun _ => rfl
    | cons slot rest ih =>
      intro start
      rw [List.zipIdx_cons, List.map_cons, List.sum_cons, ih (start + 1)]
      rcases slot with _ | row
      · exact zero_add _
      · rfl
  exact indexed t.slots 0

theorem mul_total [NonUnitalNonAssocSemiring M] (t : Table α) (f : α → M) (a : M) :
    a * t.total f = t.total fun row => a * f row := by
  unfold total
  rw [← List.sum_map_mul_left]
  congr 1
  apply List.map_congr_left
  intro slot _
  rcases slot with _ | row
  · exact mul_zero a
  · rfl

theorem sum_filter_ite [AddCommMonoid M] (items : List α) (keep : α → Bool) (f : α → M) :
    (items.map fun item => if keep item then f item else 0).sum = ((items.filter keep).map f).sum := by
  induction items with
  | nil => rfl
  | cons item rest ih =>
    rw [List.map_cons, List.sum_cons, ih, List.filter_cons]
    split_ifs
    · rfl
    · exact zero_add _

theorem sum_select [AddCommMonoid M] (t : Table α) (p : α → Bool) (f : α → M) :
    ((t.select p).map fun entry => f entry.2).sum = t.total fun row => if p row then f row else 0 := by
  rw [total_rows, select]
  exact (sum_filter_ite t.rows (fun entry => p entry.2) fun entry => f entry.2).symm

theorem rows_nodup (t : Table α) : (t.rows.map (·.1)).Nodup :=
  t.rows_sorted.imp Nat.ne_of_lt

/-- Rows of one table that each stand for rows of another add up to the rows they stand for. -/
theorem total_fibers [AddCommMonoid M] {β : Type*} (t : Table α) (u : Table β) (p : α → Bool) (key : β → Option Nat)
    (f : β → M) (inside : ∀ id row r, u.get id = some row → key row = some r → ∃ owner, t.get r = some owner ∧ p owner = true) :
    (t.rows.map fun entry => if p entry.2 then u.total fun row => if key row = some entry.1 then f row else 0 else 0).sum =
      u.total fun row => if (key row).isSome then f row else 0 := by
  have swapped : (t.rows.map fun entry =>
        if p entry.2 then u.total fun row => if key row = some entry.1 then f row else 0 else 0).sum =
      (u.rows.map fun other => (t.rows.map fun entry =>
        if p entry.2 then if key other.2 = some entry.1 then f other.2 else 0 else 0).sum).sum := by
    have sums := Multiset.sum_map_sum_map (t.rows : Multiset (Nat × α)) (u.rows : Multiset (Nat × β))
      (f := fun entry other => if p entry.2 then if key other.2 = some entry.1 then f other.2 else 0 else 0)
    simp only [Multiset.map_coe, Multiset.sum_coe] at sums
    rw [← sums]
    congr 1
    apply List.map_congr_left
    intro entry _
    rw [total_rows]
    split_ifs
    · rfl
    · simp
  rw [swapped, total_rows]
  congr 1
  apply List.map_congr_left
  intro other member
  rcases owned : key other.2 with _ | r
  · simp
  · obtain ⟨owner, found, counts⟩ := inside other.1 other.2 r (mem_rows.mp member) owned
    have single : (t.rows.map fun entry => if p entry.2 then if some r = some entry.1 then f other.2 else 0 else 0) =
        (t.rows.map (·.1)).map fun i => if r = i then f other.2 else 0 := by
      rw [List.map_map]
      apply List.map_congr_left
      intro entry here
      by_cases this : r = entry.1
      · have same : t.get r = some entry.2 := this ▸ mem_rows.mp here
        rw [found] at same
        cases same
        simp [counts, this]
      · simp [this]
    have listed : r ∈ t.rows.map (·.1) := List.mem_map.mpr ⟨(r, owner), mem_rows.mpr found, rfl⟩
    rw [single, Coverage.sum_single t.rows_nodup listed]
    rfl

/-- What holds of nothing and of every sum of two, a total inherits from the rows. -/
theorem total_closed [AddCommMonoid M] {t : Table α} {f : α → M} {P : M → Prop} (zero : P 0)
    (add : ∀ x y, P x → P y → P (x + y)) (each : ∀ id row, t.get id = some row → P (f row)) : P (t.total f) := by
  rw [total_rows]
  have listed : ∀ entries : List (Nat × α), (∀ entry ∈ entries, P (f entry.2)) →
      P (entries.map fun entry => f entry.2).sum := by
    intro entries
    induction entries with
    | nil => exact fun _ => zero
    | cons entry rest ih =>
      intro all
      obtain ⟨first, others⟩ := List.forall_mem_cons.mp all
      exact add _ _ first (ih others)
  exact listed t.rows fun entry member => each entry.1 entry.2 (mem_rows.mp member)

/-- Where one figure of a sum goes up by `more`, and no other goes down. -/
theorem sum_add_le [AddCommMonoid M] [PartialOrder M] [IsOrderedAddMonoid M] {items : List α} {f g : α → M}
    (le : ∀ item ∈ items, f item ≤ g item) {item : α} (member : item ∈ items) {more : M} (goesUp : f item + more ≤ g item) :
    (items.map f).sum + more ≤ (items.map g).sum := by
  induction items with
  | nil => cases member
  | cons first rest ih =>
    obtain ⟨leFirst, leRest⟩ := List.forall_mem_cons.mp le
    rw [List.map_cons, List.map_cons, List.sum_cons, List.sum_cons]
    rcases List.mem_cons.mp member with rfl | later
    · rw [add_right_comm]
      exact add_le_add goesUp (List.sum_le_sum leRest)
    · rw [add_assoc]
      exact add_le_add leFirst (ih leRest later)

theorem total_nonneg [AddCommMonoid M] [PartialOrder M] [IsOrderedAddMonoid M] {t : Table α} {f : α → M}
    (nonneg : ∀ id row, t.get id = some row → 0 ≤ f row) : 0 ≤ t.total f := by
  apply List.sum_nonneg
  intro x member
  obtain ⟨slot, inside, rfl⟩ := List.mem_map.mp member
  rcases slot with _ | row
  · exact le_rfl
  · obtain ⟨id, found⟩ := List.mem_iff_getElem?.mp inside
    exact nonneg id row (by rw [get, found]; rfl)

theorem le_total [AddCommMonoid M] [PartialOrder M] [IsOrderedAddMonoid M] {t : Table α} {f : α → M}
    (nonneg : ∀ id row, t.get id = some row → 0 ≤ f row) {id : Nat} {row : α} (found : t.get id = some row) :
    f row ≤ t.total f := by
  refine List.single_le_sum ?_ _ (List.mem_map.mpr ⟨some row, List.mem_of_getElem? (slot_of_get found), rfl⟩)
  intro x member
  obtain ⟨slot, inside, rfl⟩ := List.mem_map.mp member
  rcases slot with _ | row
  · exact le_rfl
  · obtain ⟨id, found⟩ := List.mem_iff_getElem?.mp inside
    exact nonneg id row (by rw [get, found]; rfl)

end

end Table

end Liratek.Lib
