import Liratek.Lib.Table

/-! Lots drawn down by the rows of a second table. What a lot still has, and what is drawn on it, make up what it
started with. -/

namespace Liratek.Lib.Draws

variable {Lot Draw M : Type*}

/-- How a lot and a draw are read. -/
structure Reading (Lot Draw M : Type*) where
  original : Lot → M
  remaining : Lot → M
  /-- what a draw holds of the lot with this id -/
  holds : Draw → Nat → M

variable (reading : Reading Lot Draw M)

section
variable [AddCommGroup M]

def drawnOn (draws : Table Draw) (id : Nat) : M :=
  draws.total fun draw => reading.holds draw id

/-- Nothing of a lot is drawn twice, and nothing is lost. -/
def Balanced (lots : Table Lot) (draws : Table Draw) : Prop :=
  ∀ id lot, lots.get id = some lot → reading.remaining lot + drawnOn reading draws id = reading.original lot

variable {reading} {lots : Table Lot} {draws : Table Draw}

theorem balanced_empty : Balanced reading {} {} := by
  intro id lot found
  cases found

theorem drawnOn_insert (draw : Draw) (id : Nat) :
    drawnOn reading (draws.insert draw) id = drawnOn reading draws id + reading.holds draw id :=
  Table.total_insert ..

theorem drawnOn_update {d : Nat} {draw : Draw} (found : draws.get d = some draw) (change : Draw → Draw) (id : Nat) :
    drawnOn reading (draws.update d change) id =
      drawnOn reading draws id - reading.holds draw id + reading.holds (change draw) id :=
  Table.total_update found change _

/-- A new lot, full. -/
theorem Balanced.open (balanced : Balanced reading lots draws) {lot : Lot}
    (full : reading.remaining lot = reading.original lot) (undrawn : drawnOn reading draws lots.nextId = 0) :
    Balanced reading (lots.insert lot) draws := by
  intro id lot' found
  rcases Table.get_insert found with old | ⟨rfl, rfl⟩
  · exact balanced id lot' old
  · rw [undrawn, add_zero, full]

/-- A lot gives what the draws on it grow by. -/
theorem Balanced.change (balanced : Balanced reading lots draws) {draws' : Table Draw} {k : Nat} {change : Lot → Lot}
    (others : ∀ id, id ≠ k → drawnOn reading draws' id = drawnOn reading draws id)
    (here : ∀ lot, lots.get k = some lot →
      reading.remaining (change lot) + drawnOn reading draws' k = reading.remaining lot + drawnOn reading draws k)
    (same : ∀ lot, reading.original (change lot) = reading.original lot) :
    Balanced reading (lots.update k change) draws' := by
  intro id lot found
  by_cases this : id = k
  · subst this
    rw [Table.get_update_self] at found
    obtain ⟨lot', old, rfl⟩ := Option.map_eq_some_iff.mp found
    rw [here lot' old, same, balanced id lot' old]
  · rw [Table.get_update_of_ne lots change this] at found
    rw [others id this, balanced id lot found]

/-- A draw of `m` from one lot. -/
theorem Balanced.draw (balanced : Balanced reading lots draws) {k : Nat} {draw : Draw} {change : Lot → Lot} {m : M}
    (takes : ∀ lot, reading.remaining (change lot) = reading.remaining lot - m)
    (same : ∀ lot, reading.original (change lot) = reading.original lot) (holds : reading.holds draw k = m)
    (only : ∀ id, id ≠ k → reading.holds draw id = 0) :
    Balanced reading (lots.update k change) (draws.insert draw) := by
  refine balanced.change ?_ ?_ same
  · intro id other
    rw [drawnOn_insert, only id other, add_zero]
  · intro lot _
    rw [drawnOn_insert, takes, holds]
    abel

/-- A draw is lowered, or raised, by `m`: its lot gets it back, or gives it. -/
theorem Balanced.redraw (balanced : Balanced reading lots draws) {k d : Nat} {draw : Draw} {change : Lot → Lot}
    {redo : Draw → Draw} {m : M} (found : draws.get d = some draw)
    (gives : ∀ lot, reading.remaining (change lot) = reading.remaining lot + m)
    (same : ∀ lot, reading.original (change lot) = reading.original lot)
    (lowers : reading.holds (redo draw) k = reading.holds draw k - m)
    (only : ∀ id, id ≠ k → reading.holds (redo draw) id = reading.holds draw id) :
    Balanced reading (lots.update k change) (draws.update d redo) := by
  refine balanced.change ?_ ?_ same
  · intro id other
    rw [drawnOn_update found, only id other, sub_add_cancel]
  · intro lot _
    rw [drawnOn_update found, gives, lowers]
    abel

theorem Balanced.congr (balanced : Balanced reading lots draws) {draws' : Table Draw}
    (same : ∀ id, drawnOn reading draws' id = drawnOn reading draws id) : Balanced reading lots draws' := by
  intro id lot found
  rw [same, balanced id lot found]

/-- A draw that holds nothing. -/
theorem Balanced.idle (balanced : Balanced reading lots draws) {draw : Draw} (none : ∀ id, reading.holds draw id = 0) :
    Balanced reading lots (draws.insert draw) := by
  apply balanced.congr
  intro id
  rw [drawnOn_insert, none, add_zero]

/-- Marks on the lots that change no amount. -/
theorem Balanced.mark (balanced : Balanced reading lots draws) {p : Lot → Bool} {change : Lot → Lot}
    (original : ∀ lot, reading.original (change lot) = reading.original lot)
    (remaining : ∀ lot, reading.remaining (change lot) = reading.remaining lot) :
    Balanced reading (lots.updateWhere p change) draws := by
  intro id lot found
  rw [Table.get_updateWhere] at found
  obtain ⟨lot', old, rfl⟩ := Option.map_eq_some_iff.mp found
  have before := balanced id lot' old
  split_ifs
  · rw [original, remaining, before]
  · exact before

theorem Balanced.delete (balanced : Balanced reading lots draws) (k : Nat) : Balanced reading (lots.delete k) draws := by
  intro id lot found
  by_cases this : id = k
  · rw [this, Table.get_delete_self] at found
    cases found
  · rw [Table.get_delete_of_ne lots this] at found
    exact balanced id lot found

end

section
variable [AddCommGroup M] [PartialOrder M] [IsOrderedAddMonoid M]
variable {reading} {lots : Table Lot} {draws : Table Draw}

theorem drawnOn_nonneg {id : Nat} (nonneg : ∀ d draw, draws.get d = some draw → 0 ≤ reading.holds draw id) :
    0 ≤ drawnOn reading draws id :=
  Table.total_nonneg nonneg

/-- No lot has more than it started with. -/
theorem Balanced.remaining_le (balanced : Balanced reading lots draws)
    (nonneg : ∀ d draw, draws.get d = some draw → ∀ id, 0 ≤ reading.holds draw id) {id : Nat} {lot : Lot}
    (found : lots.get id = some lot) : reading.remaining lot ≤ reading.original lot := by
  rw [← balanced id lot found]
  exact le_add_of_nonneg_right (drawnOn_nonneg fun d draw drawn => nonneg d draw drawn id)

/-- A lot with everything left has no draw. -/
theorem Balanced.undrawn (balanced : Balanced reading lots draws)
    (nonneg : ∀ d draw, draws.get d = some draw → ∀ id, 0 ≤ reading.holds draw id) {id : Nat} {lot : Lot}
    (found : lots.get id = some lot) (full : reading.original lot ≤ reading.remaining lot) {d : Nat} {draw : Draw}
    (drawn : draws.get d = some draw) : reading.holds draw id = 0 := by
  have none : drawnOn reading draws id ≤ 0 := by
    have books := balanced id lot found
    rw [← books] at full
    exact nonpos_of_add_le_right full
  exact le_antisymm ((Table.le_total (fun d draw drawn => nonneg d draw drawn id) drawn).trans none) (nonneg d draw drawn id)

end

end Liratek.Lib.Draws
