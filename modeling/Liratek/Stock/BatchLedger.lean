import Liratek.Lib.Draws
import Liratek.Lib.Runs
import Liratek.Stock.Batches
import Mathlib.Algebra.Order.Ring.Int

/-! No unit of a batch is used twice, and none is lost, while every undone refund covers whole rows. -/

namespace Liratek.Stock.Batches
open Lib Lib.Draws Lib.Runs Money.FifoCoverage

/-- What a consumption row holds of a batch until it is given back. -/
def reading : Reading StockBatch ConsumptionRow ℤ where
  original := StockBatch.quantity
  remaining := StockBatch.quantityRemaining
  holds row id := if row.batchId = id ∧ row.isRestored = false then row.quantity else 0

theorem holds_active {row : ConsumptionRow} {id : Nat} (of : row.batchId = id) (active : row.isRestored = false) :
    reading.holds row id = row.quantity :=
  if_pos ⟨of, active⟩

theorem holds_off {row : ConsumptionRow} {id : Nat} (off : row.batchId ≠ id) : reading.holds row id = 0 :=
  if_neg fun both => off both.1

theorem holds_restored {row : ConsumptionRow} (restored : row.isRestored = true) (id : Nat) :
    reading.holds row id = 0 := by
  refine if_neg ?_
  rw [restored]
  intro both
  cases both.2

/-- The units of a batch in use. -/
def usedUnits (b : Book) (id : Nat) : ℤ :=
  drawnOn reading b.consumptions id

structure Sound (b : Book) : Prop where
  balanced : Balanced reading b.batches b.consumptions
  nonneg : ∀ id batch, b.batches.get id = some batch → 0 ≤ batch.quantityRemaining
  positive : ∀ r row, b.consumptions.get r = some row → 0 < row.quantity
  known : ∀ r row, b.consumptions.get r = some row → row.batchId < b.batches.nextId

theorem sound_empty : Sound {} where
  balanced := balanced_empty
  nonneg id batch found := by cases found
  positive r row found := by cases found
  known r row found := by cases found

section
variable {b : Book} (sound : Sound b)
include sound

theorem Sound.holds_nonneg (r : Nat) (row : ConsumptionRow) (found : b.consumptions.get r = some row) (id : Nat) :
    0 ≤ reading.holds row id := by
  unfold reading
  dsimp only
  split_ifs
  · exact (sound.positive r row found).le
  · exact le_rfl

theorem createBatch_sound {b' : Book} {data : CreateStockBatchData} {now : String}
    (done : createBatch b data now = .ok b') : Sound b' := by
  unfold createBatch at done
  split_ifs at done with units
  cases done
  have undrawn : drawnOn reading b.consumptions b.batches.nextId = 0 := by
    apply Table.total_eq_zero
    intro r row found
    exact holds_off (sound.known r row found).ne
  refine ⟨sound.balanced.open rfl undrawn, ?_, sound.positive, ?_⟩
  · intro id batch found
    rcases Table.get_insert found with old | ⟨-, rfl⟩
    · exact sound.nonneg id batch old
    · exact units.le
  · intro r row found
    rw [Table.nextId_insert]
    exact Nat.lt_succ_of_lt (sound.known r row found)

theorem takeFromBatch_sound (productId : Nat) (opts : ConsumeOptions) {batchId : Nat} {batch : StockBatch}
    (found : b.batches.get batchId = some batch) {takeQty : ℤ} (positive : 0 < takeQty)
    (within : takeQty ≤ batch.quantityRemaining) : Sound (takeFromBatch productId opts b batchId batch takeQty) := by
  refine ⟨?_, ?_, ?_, ?_⟩
  · refine sound.balanced.draw (m := takeQty) (fun _ => rfl) (fun _ => rfl) ?_ ?_
    · exact holds_active rfl rfl
    · exact fun id other => holds_off other.symm
  · intro id batch' found'
    dsimp only [takeFromBatch] at found'
    by_cases this : id = batchId
    · rw [this, Table.get_update_self, found] at found'
      cases found'
      exact sub_nonneg.mpr within
    · rw [Table.get_update_of_ne _ _ this] at found'
      exact sound.nonneg id batch' found'
  · intro r row found'
    rcases Table.get_insert found' with old | ⟨-, rfl⟩
    · exact sound.positive r row old
    · exact positive
  · intro r row found'
    dsimp only [takeFromBatch]
    rw [Table.nextId_update]
    rcases Table.get_insert found' with old | ⟨-, rfl⟩
    · exact sound.known r row old
    · exact Table.get_lt found

/-- One row changes by `m` units, and its batch by as many the other way. -/
theorem rowChange_sound {r : Nat} {row : ConsumptionRow} (found : b.consumptions.get r = some row)
    {redo : ConsumptionRow → ConsumptionRow} {m : ℤ} (batchId : (redo row).batchId = row.batchId)
    (positive : 0 < (redo row).quantity)
    (lowers : reading.holds (redo row) row.batchId = reading.holds row row.batchId - m)
    (room : ∀ batch, b.batches.get row.batchId = some batch → 0 ≤ batch.quantityRemaining + m) :
    Sound
      { batches := b.batches.update row.batchId fun x => { x with quantityRemaining := x.quantityRemaining + m }
        consumptions := b.consumptions.update r redo } := by
  refine ⟨?_, ?_, ?_, ?_⟩
  · refine sound.balanced.redraw (m := m) found (fun _ => rfl) (fun _ => rfl) lowers ?_
    intro id other
    rw [holds_off other.symm, holds_off (batchId ▸ other.symm)]
  · intro id batch found'
    dsimp only at found'
    by_cases this : id = row.batchId
    · rw [this, Table.get_update_self] at found'
      obtain ⟨batch', old, rfl⟩ := Option.map_eq_some_iff.mp found'
      exact room batch' old
    · rw [Table.get_update_of_ne _ _ this] at found'
      exact sound.nonneg id batch found'
  · intro r' row' found'
    dsimp only at found'
    by_cases this : r' = r
    · rw [this, Table.get_update_self, found] at found'
      cases found'
      exact positive
    · rw [Table.get_update_of_ne _ _ this] at found'
      exact sound.positive r' row' found'
  · intro r' row' found'
    dsimp only at found' ⊢
    rw [Table.nextId_update]
    by_cases this : r' = r
    · rw [this, Table.get_update_self, found] at found'
      cases found'
      rw [batchId]
      exact sound.known r row found
    · rw [Table.get_update_of_ne _ _ this] at found'
      exact sound.known r' row' found'

theorem giveBack_sound {r : Nat} {row : ConsumptionRow} (found : b.consumptions.get r = some row)
    (active : row.isRestored = false) {give : ℤ} (positive : 0 < give) (within : give ≤ row.quantity) :
    Sound (giveBack b r row give) := by
  have room : ∀ batch, b.batches.get row.batchId = some batch → 0 ≤ batch.quantityRemaining + give :=
    fun batch there => add_nonneg (sound.nonneg _ batch there) positive.le
  unfold giveBack
  apply rowChange_sound sound found _ _ _ room
  · split_ifs
    · rfl
    · rfl
  · split_ifs with all
    · exact sound.positive r row found
    · exact sub_pos.mpr (not_le.mp all)
  · rw [holds_active rfl active]
    split_ifs with all
    · rw [holds_restored rfl, le_antisymm within all, sub_self]
    · exact holds_active rfl active

/-- A whole row counts as used again. -/
theorem takeBack_sound {r : Nat} {row : ConsumptionRow} (found : b.consumptions.get r = some row)
    (restored : row.isRestored = true)
    (room : ∀ batch, b.batches.get row.batchId = some batch → row.quantity ≤ batch.quantityRemaining) :
    Sound (takeBack b r row row.quantity) := by
  have sum : ∀ x : ℤ, x - row.quantity = x + -row.quantity := fun x => sub_eq_add_neg x _
  unfold takeBack
  simp only [sum]
  apply rowChange_sound sound found rfl (sound.positive r row found)
  · rw [holds_restored restored, holds_active rfl rfl, sub_neg_eq_add, zero_add]
  · intro batch there
    rw [← sub_eq_add_neg]
    exact sub_nonneg.mpr (room batch there)

end

/-! The units of one call. -/

theorem mem_listOpenByProduct {b : Book} {productId id : Nat} {batch : StockBatch} :
    (id, batch) ∈ listOpenByProduct b productId ↔
      b.batches.get id = some batch ∧ batch.productId = productId ∧ 0 < batch.quantityRemaining := by
  unfold listOpenByProduct
  rw [List.mem_insertionSort, Table.mem_select, Bool.and_eq_true, decide_eq_true_iff, decide_eq_true_iff]

theorem listOpenByProduct_nodup (b : Book) (productId : Nat) : ((listOpenByProduct b productId).map (·.1)).Nodup :=
  ((List.perm_insertionSort _ _).map _).nodup_iff.mpr (Table.select_nodup ..)

theorem mem_allocations {b : Book} {productId : Nat} {quantity : ℤ} {t : (Nat × StockBatch) × ℤ}
    (member : t ∈ allocations b productId quantity) :
    b.batches.get t.1.1 = some t.1.2 ∧ 0 < t.2 ∧ t.2 ≤ t.1.2.quantityRemaining := by
  obtain ⟨take, inside, same⟩ := List.mem_filterMap.mp member
  obtain ⟨batch, found, rfl⟩ := Option.map_eq_some_iff.mp same
  obtain ⟨large, row, listed, id, within⟩ := allocateFifo_take inside
  obtain ⟨entry, isOpen, rfl⟩ := List.mem_map.mp listed
  obtain ⟨there, -⟩ := mem_listOpenByProduct.mp isOpen
  have id : entry.1 = take.id := id
  rw [id, found] at there
  cases there
  exact ⟨found, not_le.mp (of_decide_eq_false large), within⟩

theorem allocations_nodup (b : Book) (productId : Nat) (quantity : ℤ) :
    ((allocations b productId quantity).map (·.1.1)).Nodup := by
  have ids : ∀ takes : List (FifoTake Nat ℤ),
      ((takes.filterMap fun t => (b.batches.get t.id).map fun batch => ((t.id, batch), t.take)).map (·.1.1)).Sublist
        (takes.map (·.id)) := by
    intro takes
    induction takes with
    | nil => exact List.Sublist.slnil
    | cons t rest ih =>
      rw [List.filterMap_cons]
      rcases b.batches.get t.id with _ | batch
      · exact ih.cons _
      · exact ih.cons_cons _
  have queue : (((listOpenByProduct b productId).map fun entry =>
      ({ id := entry.1, outstanding := entry.2.quantityRemaining } : FifoOpenRow Nat ℤ)).map (·.id)).Nodup := by
    rw [List.map_map]
    exact listOpenByProduct_nodup b productId
  exact queue.sublist ((ids _).trans (allocateFifo_ids _ _))

theorem takes_sound (productId : Nat) (opts : ConsumeOptions) (takes : List ((Nat × StockBatch) × ℤ))
    (distinct : (takes.map (·.1.1)).Nodup) {b : Book} (sound : Sound b)
    (fits : ∀ t ∈ takes, b.batches.get t.1.1 = some t.1.2 ∧ 0 < t.2 ∧ t.2 ≤ t.1.2.quantityRemaining) :
    Sound (takes.foldl (fun acc t => takeFromBatch productId opts acc t.1.1 t.1.2 t.2) b) := by
  induction takes generalizing b with
  | nil => exact sound
  | cons t rest ih =>
    obtain ⟨found, positive, within⟩ := fits t List.mem_cons_self
    rw [List.map_cons, List.nodup_cons] at distinct
    apply ih distinct.2 (takeFromBatch_sound sound productId opts found positive within)
    intro t' member
    have other : t'.1.1 ≠ t.1.1 := fun same => distinct.1 (List.mem_map.mpr ⟨t', member, same⟩)
    dsimp only [takeFromBatch]
    rw [Table.get_update_of_ne _ _ other]
    exact fits t' (List.mem_cons_of_mem t member)

theorem consume_sound {b : Book} (sound : Sound b) (productId : Nat) (quantity : ℤ) (opts : ConsumeOptions) :
    Sound (consume b productId quantity opts).1 := by
  unfold consume
  split_ifs
  · exact sound
  · exact takes_sound productId opts _ (allocations_nodup b productId quantity) sound fun _ => mem_allocations

/-! Rows listed once, each as the table has it. -/

/-- The rows a walk goes through next. -/
structure Listed (b : Book) (rows : List (Nat × ConsumptionRow)) (restored : Bool) : Prop where
  distinct : (rows.map (·.1)).Nodup
  rows : ∀ entry ∈ rows, b.consumptions.get entry.1 = some entry.2 ∧ entry.2.isRestored = restored

theorem Listed.tail {b : Book} {entry : Nat × ConsumptionRow} {rest : List (Nat × ConsumptionRow)} {restored : Bool}
    (listed : Listed b (entry :: rest) restored) : Listed b rest restored := by
  obtain ⟨distinct, rows⟩ := listed
  rw [List.map_cons, List.nodup_cons] at distinct
  exact ⟨distinct.2, fun entry' member => rows entry' (List.mem_cons_of_mem entry member)⟩

/-- A change of the first row leaves the others as listed. -/
theorem Listed.next {b b' : Book} {entry : Nat × ConsumptionRow} {rest : List (Nat × ConsumptionRow)} {restored : Bool}
    (listed : Listed b (entry :: rest) restored)
    (others : ∀ r, r ≠ entry.1 → b'.consumptions.get r = b.consumptions.get r) : Listed b' rest restored := by
  obtain ⟨distinct, rows⟩ := listed
  rw [List.map_cons, List.nodup_cons] at distinct
  refine ⟨distinct.2, ?_⟩
  intro entry' member
  have other : entry'.1 ≠ entry.1 := fun same => distinct.1 (List.mem_map.mpr ⟨entry', member, same⟩)
  rw [others _ other]
  exact rows entry' (List.mem_cons_of_mem entry member)

theorem restorable_listed (b : Book) (ownerColumn : ConsumptionOwnerColumn) (ownerId : Nat) :
    Listed b (restorable b ownerColumn ownerId) false where
  distinct := ((List.perm_insertionSort _ _).map _).nodup_iff.mpr (Table.select_nodup ..)
  rows entry member := by
    unfold restorable at member
    rw [List.mem_insertionSort] at member
    obtain ⟨found, chosen⟩ := Table.mem_select.mp member
    rw [Bool.and_eq_true, Bool.not_eq_true'] at chosen
    exact ⟨found, chosen.2⟩

theorem restoredRows_listed (b : Book) (saleItemId : Nat) : Listed b (restoredRows b saleItemId) true where
  distinct := Table.select_nodup ..
  rows entry member := by
    obtain ⟨found, chosen⟩ := Table.mem_select.mp member
    rw [Bool.and_eq_true] at chosen
    exact ⟨found, chosen.2⟩

theorem restoreRows_sound (rows : List (Nat × ConsumptionRow)) (remaining : Option ℤ) {b : Book} (sound : Sound b)
    (listed : Listed b rows false) : Sound (restoreRows b rows remaining) := by
  induction rows generalizing b remaining with
  | nil => exact sound
  | cons entry rest ih =>
    obtain ⟨found, active⟩ := listed.rows entry List.mem_cons_self
    unfold restoreRows
    dsimp only
    split_ifs with spent none
    · exact sound
    · exact ih remaining sound listed.tail
    · have within : (remaining.map (min · entry.2.quantity)).getD entry.2.quantity ≤ entry.2.quantity := by
        cases remaining
        · exact le_rfl
        · exact min_le_right _ _
      apply ih _ (giveBack_sound sound found active (not_le.mp none) within)
      exact listed.next fun r other => Table.get_update_of_ne _ _ other

theorem restoreConsumptions_sound {b : Book} (sound : Sound b) (ownerColumn : ConsumptionOwnerColumn) (ownerId : Nat)
    (quantity : Option ℤ) : Sound (restoreConsumptions b ownerColumn ownerId quantity) :=
  restoreRows_sound _ quantity sound (restorable_listed b ownerColumn ownerId)

/-! An undone refund that covers whole rows. -/

def rowUnits (rows : List (Nat × ConsumptionRow)) : ℤ :=
  (rows.map (·.2.quantity)).sum

/-- The quantity takes back the first rows whole, or nothing. -/
def WholeRows (rows : List (Nat × ConsumptionRow)) (quantity : ℤ) : Prop :=
  quantity ≤ 0 ∨ ∃ n ≤ rows.length, quantity = rowUnits (rows.take n)

instance (rows : List (Nat × ConsumptionRow)) (quantity : ℤ) : Decidable (WholeRows rows quantity) :=
  inferInstanceAs (Decidable (_ ∨ ∃ n ≤ _, _))

theorem WholeRows.next {entry : Nat × ConsumptionRow} {rest : List (Nat × ConsumptionRow)} {remaining : ℤ}
    (whole : WholeRows (entry :: rest) remaining) (more : 0 < remaining) (nonneg : ∀ e ∈ rest, 0 ≤ e.2.quantity) :
    min remaining entry.2.quantity = entry.2.quantity ∧ WholeRows rest (remaining - entry.2.quantity) := by
  rcases whole with none | ⟨n, within, same⟩
  · exact absurd more (not_lt.mpr none)
  · cases n with
    | zero => exact absurd same more.ne'
    | succ n =>
      rw [List.take_succ_cons, rowUnits, List.map_cons, List.sum_cons] at same
      have later : 0 ≤ rowUnits (rest.take n) := by
        apply List.sum_nonneg
        intro x member
        obtain ⟨e, inside, rfl⟩ := List.mem_map.mp member
        exact nonneg e (List.mem_of_mem_take inside)
      have rest_eq : remaining = entry.2.quantity + rowUnits (rest.take n) := same
      refine ⟨min_eq_right ?_, Or.inr ⟨n, Nat.le_of_succ_le_succ within, ?_⟩⟩
      · omega
      · omega

theorem unrestoreRows_sound (rows : List (Nat × ConsumptionRow)) {remaining : ℤ} {b b' : Book} (sound : Sound b)
    (listed : Listed b rows true) (whole : WholeRows rows remaining) (done : unrestoreRows b rows remaining = .ok b') :
    Sound b' := by
  induction rows generalizing b remaining with
  | nil =>
    unfold unrestoreRows at done
    split_ifs at done
    cases done
    exact sound
  | cons entry rest ih =>
    obtain ⟨found, restored⟩ := listed.rows entry List.mem_cons_self
    have positive := sound.positive entry.1 entry.2 found
    unfold unrestoreRows at done
    dsimp only at done
    split_ifs at done with spent none enough
    · cases done
      exact sound
    · obtain ⟨all, -⟩ := whole.next (not_le.mp spent) fun e member =>
        (sound.positive e.1 e.2 (listed.tail.rows e member).1).le
      rw [all] at none
      exact absurd positive (not_lt.mpr none)
    · obtain ⟨all, later⟩ := whole.next (not_le.mp spent) fun e member =>
        (sound.positive e.1 e.2 (listed.tail.rows e member).1).le
      rw [all] at done enough
      have room : ∀ batch, b.batches.get entry.2.batchId = some batch → entry.2.quantity ≤ batch.quantityRemaining := by
        intro batch there
        rw [there] at enough
        exact of_decide_eq_true enough
      exact ih (takeBack_sound sound found restored room) (listed.next fun r other => Table.get_update_of_ne _ _ other)
        later done

/-! A delivery taken back out. -/

theorem delete_sound {b : Book} (sound : Sound b) (batchId : Nat) : Sound { b with batches := b.batches.delete batchId } := by
  refine ⟨sound.balanced.delete batchId, ?_, sound.positive, ?_⟩
  · intro id batch found
    dsimp only at found
    by_cases this : id = batchId
    · rw [this, Table.get_delete_self] at found
      cases found
    · rw [Table.get_delete_of_ne _ this] at found
      exact sound.nonneg id batch found
  · intro r row found
    rw [Table.nextId_delete]
    exact sound.known r row found

/-- Of a batch with every unit left, no row is in use. -/
theorem dropUnrestored_sound {b : Book} (sound : Sound b) {batchId : Nat} {batch : StockBatch}
    (found : b.batches.get batchId = some batch) (full : batch.quantity ≤ batch.quantityRemaining) :
    Sound (dropUnrestored b batchId) := by
  have rows : ∀ r row, (dropUnrestored b batchId).consumptions.get r = some row → b.consumptions.get r = some row := by
    intro r row there
    dsimp only [dropUnrestored] at there
    rw [Table.get_deleteWhere] at there
    exact (Option.filter_eq_some_iff.mp there).1
  refine ⟨?_, sound.nonneg, ?_, ?_⟩
  · apply sound.balanced.congr
    intro id
    apply Table.total_deleteWhere
    intro r row there dropped
    rw [Bool.and_eq_true, decide_eq_true_iff] at dropped
    by_cases this : id = batchId
    · rw [this]
      exact sound.balanced.undrawn sound.holds_nonneg found full there
    · exact holds_off (dropped.1 ▸ Ne.symm this)
  · exact fun r row there => sound.positive r row (rows r row there)
  · exact fun r row there => sound.known r row (rows r row there)

theorem removeUntouchedBatch_sound {b : Book} (sound : Sound b) (batchId : Nat) :
    Sound (removeUntouchedBatch b batchId).1 := by
  unfold removeUntouchedBatch
  split_ifs
  · exact sound
  · split
    · exact sound
    · split_ifs
      · exact delete_sound sound batchId
      · exact sound

theorem deleteBatchForVoid_sound {b : Book} (sound : Sound b) {batchId : Nat} {r : Book × Bool}
    (done : deleteBatchForVoid b batchId = .ok r) : Sound r.1 := by
  unfold deleteBatchForVoid at done
  split at done
  · cases done
    exact sound
  · rename_i batch found
    split_ifs at done with used
    · cases done
      exact sound
    · cases done
      exact delete_sound (dropUnrestored_sound sound found (not_lt.mp used)) batchId

/-! Any sequence of calls. -/

/-- An undone refund that can be traced covers whole rows, from the oldest. -/
def CoversWholeRows (b : Book) : Action → Prop
  | .unrestoreForSaleItem saleItemId quantity => canUnrestoreForSaleItem b saleItemId quantity = true →
    rowsOfSaleItem b saleItemId = [] ∨ WholeRows (restoredRows b saleItemId) quantity
  | _ => True

instance (b : Book) (action : Action) : Decidable (CoversWholeRows b action) := by
  cases action <;> unfold CoversWholeRows <;> infer_instance

theorem unrestoreForSaleItem_sound {b b' : Book} (sound : Sound b) {saleItemId : Nat} {quantity : ℤ}
    (whole : rowsOfSaleItem b saleItemId = [] ∨ WholeRows (restoredRows b saleItemId) quantity)
    (done : unrestoreForSaleItem b saleItemId quantity = .ok b') : Sound b' := by
  unfold unrestoreForSaleItem at done
  split_ifs at done with untracked
  · cases done
    exact sound
  · rcases whole with none | whole
    · exact absurd (List.isEmpty_iff.mpr none) untracked
    · exact unrestoreRows_sound _ sound (restoredRows_listed b saleItemId) whole done

theorem exec_sound {b : Book} (sound : Sound b) (action : Action) (whole : CoversWholeRows b action) :
    Sound (exec b action) := by
  cases action with
  | createBatch data now =>
    rcases done : createBatch b data now with refused | b'
    · simp only [exec, done]
      exact sound
    · simp only [exec, done]
      exact createBatch_sound sound done
  | consume productId quantity opts => exact consume_sound sound productId quantity opts
  | restoreForSaleItem saleItemId quantity => exact restoreConsumptions_sound sound _ saleItemId quantity
  | restoreForCustomService customServiceId quantity => exact restoreConsumptions_sound sound _ customServiceId quantity
  | restoreForMaintenancePart maintenancePartId quantity =>
    exact restoreConsumptions_sound sound _ maintenancePartId quantity
  | restoreForExpense expenseId quantity => exact restoreConsumptions_sound sound _ expenseId quantity
  | restoreForWarrantyClaim warrantyClaimId quantity => exact restoreConsumptions_sound sound _ warrantyClaimId quantity
  | unrestoreForSaleItem saleItemId quantity =>
    rcases traced : canUnrestoreForSaleItem b saleItemId quantity
    · simp only [exec, traced]
      exact sound
    · rcases done : unrestoreForSaleItem b saleItemId quantity with refused | b'
      · simp only [exec, traced, done]
        exact sound
      · simp only [exec, traced, done]
        exact unrestoreForSaleItem_sound sound (whole traced) done
  | removeUntouchedBatch batchId => exact removeUntouchedBatch_sound sound batchId
  | deleteBatchForVoid batchId =>
    rcases done : deleteBatchForVoid b batchId with refused | r
    · simp only [exec, done]
      exact sound
    · simp only [exec, done]
      exact deleteBatchForVoid_sound sound done

/-- What every batch satisfies: nothing used twice, nothing lost. -/
structure BatchKept (b : Book) (id : Nat) (batch : StockBatch) : Prop where
  conserved : batch.quantityRemaining + usedUnits b id = batch.quantity
  nonneg : 0 ≤ batch.quantityRemaining
  le : batch.quantityRemaining ≤ batch.quantity

/-- While every undone refund covers whole rows, every batch is kept in every book of the run. -/
theorem batches_kept (actions : List Action) (whole : Meets exec CoversWholeRows {} actions) (before after : List Action)
    (split : actions = before ++ after) (id : Nat) (batch : StockBatch)
    (found : (run exec {} before).batches.get id = some batch) : BatchKept (run exec {} before) id batch := by
  subst split
  have keeps : ∀ b action, Sound b → CoversWholeRows b action → Sound (exec b action) :=
    fun _ action sound whole => exec_sound sound action whole
  have sound : Sound (run exec {} before) := run_invariant keeps sound_empty (meets_append.mp whole).1
  exact ⟨sound.balanced id batch found, sound.nonneg id batch found, sound.balanced.remaining_le sound.holds_nonneg found⟩

def delivery : CreateStockBatchData where
  productId := 1
  supplierId := none
  quantity := 3
  unitCostUsd := 10
  booksDebt := false
  createdBy := none

def saleOf (saleItemId : Nat) : ConsumeOptions where
  owners := { saleItemId := some saleItemId }
  reason := .sale
  fallbackUnitCostUsd := 10
  now := "2026-10-10 18:44:47"

/-- Three units sold, one refunded and then the other two, and the refund of one undone. -/
def partUndone : List Action :=
  [.createBatch delivery "2026-10-10 09:00:00", .consume 1 3 (saleOf 7), .restoreForSaleItem 7 (some 1),
    .restoreForSaleItem 7 (some 2), .unrestoreForSaleItem 7 1]

/-- The batch has two units left and a row of two in use: four of three. -/
theorem partUndone_counts_twice :
    ¬ ∀ id batch, (run exec {} partUndone).batches.get id = some batch → BatchKept (run exec {} partUndone) id batch := by
  intro kept
  have found : ((run exec {} partUndone).batches.get 0).map (·.quantityRemaining) = some 2 := by decide
  obtain ⟨batch, there, remaining⟩ := Option.map_eq_some_iff.mp found
  have total : ((run exec {} partUndone).batches.get 0).map (·.quantity) = some 3 := by decide
  have used : usedUnits (run exec {} partUndone) 0 = 2 := by decide
  have conserved := (kept 0 batch there).conserved
  rw [there] at total
  have total : batch.quantity = 3 := Option.some.inj total
  have remaining : batch.quantityRemaining = 2 := remaining
  rw [used, total, remaining] at conserved
  cases conserved

/-- The same sale with the refund of two undone instead. -/
def wholeUndone : List Action :=
  [.createBatch delivery "2026-10-10 09:00:00", .consume 1 3 (saleOf 7), .restoreForSaleItem 7 (some 1),
    .restoreForSaleItem 7 (some 2), .unrestoreForSaleItem 7 2]

theorem wholeUndone_kept :
    ∃ batch, (run exec {} wholeUndone).batches.get 0 = some batch ∧ BatchKept (run exec {} wholeUndone) 0 batch := by
  have stands : ((run exec {} wholeUndone).batches.get 0).isSome = true := by decide
  obtain ⟨batch, found⟩ := Option.isSome_iff_exists.mp stands
  exact ⟨batch, found, batches_kept wholeUndone ⟨trivial, trivial, trivial, trivial, by decide, trivial⟩ wholeUndone []
    rfl 0 batch found⟩

end Liratek.Stock.Batches
