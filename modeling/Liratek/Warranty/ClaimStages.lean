import Liratek.Warranty.ClaimCosts

/-! Where a faulty item is, and which of its returns still stands. -/

namespace Liratek.Warranty.ClaimStages
open Lib ClaimTables WarrantyClaims ClaimWrites

/-- Where the item of a return is, as long as the return is not rejected. -/
def afterReturn : SupplierReturnStatus → DefectiveItemStatus
  | .sent | .credited => .sentToSupplier
  | .replaced => .returnedToStock
  | .rejected => .held

structure Staged (defective : Table DefectiveItem) (returns : Table SupplierReturn) : Prop where
  status : ∀ r ret item, returns.get r = some ret → ret.status ≠ .rejected → defective.get ret.defectiveItemId = some item →
    item.status = afterReturn ret.status
  one : ∀ r r' ret ret', returns.get r = some ret → returns.get r' = some ret' → ret.status ≠ .rejected → ret'.status ≠ .rejected →
    ret.defectiveItemId = ret'.defectiveItemId → r = r'
  away : ∀ i item, defective.get i = some item → item.status = .sentToSupplier →
    ∃ r ret, returns.get r = some ret ∧ ret.defectiveItemId = i ∧ (ret.status = .sent ∨ ret.status = .credited)

section
variable {defective : Table DefectiveItem} {returns : Table SupplierReturn}

theorem afterReturn_ne_held {status : SupplierReturnStatus} (standing : status ≠ .rejected) : afterReturn status ≠ .held := by
  cases status with
  | rejected => exact absurd rfl standing
  | sent | credited | replaced => exact DefectiveItemStatus.noConfusion

/-- An item that is held has only rejected returns. -/
theorem Staged.held (staged : Staged defective returns) {i : ℕ} {item : DefectiveItem} (there : defective.get i = some item)
    (held : item.status = .held) {r : ℕ} {ret : SupplierReturn} (isRow : returns.get r = some ret) (standing : ret.status ≠ .rejected) :
    ret.defectiveItemId ≠ i := by
  intro isOf
  have after := staged.status r ret item isRow standing (by rw [isOf, there])
  exact afterReturn_ne_held standing (after.symm.trans held)

theorem statusOf_status {i j : ℕ} {status : DefectiveItemStatus} {batch : Option ℕ} {item : DefectiveItem}
    (there : (defective.update i (statusOf status batch)).get j = some item) :
    j = i ∧ item.status = status ∨ j ≠ i ∧ defective.get j = some item := by
  by_cases isIt : j = i
  · rw [isIt, Table.get_update_self] at there
    obtain ⟨before, -, rfl⟩ := Option.map_eq_some_iff.mp there
    exact .inl ⟨isIt, rfl⟩
  · rw [Table.get_update_of_ne _ _ isIt] at there
    exact .inr ⟨isIt, there⟩

theorem Staged.takenIn (staged : Staged defective returns) {item : DefectiveItem} (held : item.status = .held)
    (owned : ∀ r ret, returns.get r = some ret → ∃ own, defective.get ret.defectiveItemId = some own) :
    Staged (defective.insert item) returns where
  status r ret other isRow standing otherThere := by
    obtain ⟨own, ownThere⟩ := owned r ret isRow
    rw [Table.get_insert_of_get ownThere] at otherThere
    exact staged.status r ret other isRow standing (ownThere.trans otherThere)
  one := staged.one
  away i other otherThere isAway := by
    rcases Table.get_insert otherThere with old | ⟨-, rfl⟩
    · exact staged.away i other old isAway
    · rw [held] at isAway
      cases isAway

/-- An item that was held goes nowhere but to the shelf or to the bin. -/
theorem Staged.settled (staged : Staged defective returns) {i : ℕ} {item : DefectiveItem} (there : defective.get i = some item)
    (held : item.status = .held) {status : DefectiveItemStatus} (batch : Option ℕ) (notAway : status ≠ .sentToSupplier) :
    Staged (defective.update i (statusOf status batch)) returns where
  status r ret other isRow standing otherThere := by
    rcases statusOf_status otherThere with ⟨isIt, -⟩ | ⟨-, old⟩
    · exact absurd isIt (staged.held there held isRow standing)
    · exact staged.status r ret other isRow standing old
  one := staged.one
  away j other otherThere isAway := by
    rcases statusOf_status otherThere with ⟨-, now⟩ | ⟨-, old⟩
    · exact absurd (now.symm.trans isAway) notAway
    · exact staged.away j other old isAway

theorem Staged.sent (staged : Staged defective returns) {i : ℕ} {item : DefectiveItem} (there : defective.get i = some item)
    (held : item.status = .held) {ret : SupplierReturn} (isOf : ret.defectiveItemId = i) (status : ret.status = .sent) :
    Staged (defective.update i (statusOf .sentToSupplier none)) (returns.insert ret) where
  status r other own isRow standing ownThere := by
    rcases Table.get_insert isRow with old | ⟨-, rfl⟩
    · rcases statusOf_status ownThere with ⟨isIt, -⟩ | ⟨-, before⟩
      · exact absurd isIt (staged.held there held old standing)
      · exact staged.status r other own old standing before
    · rcases statusOf_status ownThere with ⟨-, now⟩ | ⟨notIt, -⟩
      · rw [now, status]
        rfl
      · exact absurd isOf notIt
  one r r' one two oneThere twoThere oneStands twoStands same := by
    rcases Table.get_insert oneThere with oneOld | ⟨rfl, rfl⟩ <;> rcases Table.get_insert twoThere with twoOld | ⟨rfl, rfl⟩
    · exact staged.one r r' one two oneOld twoOld oneStands twoStands same
    · exact absurd (same.trans isOf) (staged.held there held oneOld oneStands)
    · exact absurd (same.symm.trans isOf) (staged.held there held twoOld twoStands)
    · rfl
  away j other otherThere isAway := by
    rcases statusOf_status otherThere with ⟨isIt, -⟩ | ⟨-, old⟩
    · exact ⟨returns.nextId, ret, Table.get_insert_self _ _, isOf.trans isIt.symm, .inl status⟩
    · obtain ⟨r, own, isRow, ofItem, stands⟩ := staged.away j other old isAway
      exact ⟨r, own, Table.get_insert_of_get isRow, ofItem, stands⟩

/-- The supplier answers, and the item is where the answer says. -/
theorem Staged.closed (staged : Staged defective returns) {r : ℕ} {ret : SupplierReturn} {close : SupplierReturn → SupplierReturn}
    (there : returns.get r = some ret) (wasSent : ret.status = .sent) (sameItem : (close ret).defectiveItemId = ret.defectiveItemId)
    (batch : Option ℕ) :
    Staged (defective.update ret.defectiveItemId (statusOf (afterReturn (close ret).status) batch)) (returns.update r close) := by
  have stood : ret.status ≠ .rejected := by rw [wasSent]; exact SupplierReturnStatus.noConfusion
  have before : ∀ r' ret', (returns.update r close).get r' = some ret' → r' = r ∧ ret' = close ret ∨
      r' ≠ r ∧ returns.get r' = some ret' := by
    intro r' ret' isRow
    by_cases isIt : r' = r
    · rw [isIt, Table.get_update_self, there] at isRow
      exact .inl ⟨isIt, (Option.some.inj isRow).symm⟩
    · rw [Table.get_update_of_ne _ _ isIt] at isRow
      exact .inr ⟨isIt, isRow⟩
  refine ⟨fun r' ret' item isRow standing itemThere => ?_, fun r₁ r₂ one two oneThere twoThere oneStands twoStands same => ?_,
    fun i item itemThere isAway => ?_⟩
  · rcases before r' ret' isRow with ⟨rfl, rfl⟩ | ⟨notIt, old⟩
    · rcases statusOf_status itemThere with ⟨-, now⟩ | ⟨elsewhere, -⟩
      · exact now
      · exact absurd sameItem elsewhere
    · rcases statusOf_status itemThere with ⟨sameAs, -⟩ | ⟨-, itemOld⟩
      · exact absurd (staged.one r' r ret' ret old there standing stood sameAs) notIt
      · exact staged.status r' ret' item old standing itemOld
  · rcases before r₁ one oneThere with ⟨rfl, rfl⟩ | ⟨notOne, oneOld⟩ <;>
      rcases before r₂ two twoThere with ⟨rfl, rfl⟩ | ⟨notTwo, twoOld⟩
    · rfl
    · exact staged.one r₁ r₂ ret two there twoOld stood twoStands (sameItem.symm.trans same)
    · exact staged.one r₁ r₂ one ret oneOld there oneStands stood (same.trans sameItem)
    · exact staged.one r₁ r₂ one two oneOld twoOld oneStands twoStands same
  · rcases statusOf_status itemThere with ⟨isIt, now⟩ | ⟨notIt, old⟩
    · refine ⟨r, close ret, by rw [Table.get_update_self, there]; rfl, sameItem.trans isIt.symm, ?_⟩
      rw [now] at isAway
      cases answered : (close ret).status with
      | sent => exact .inl rfl
      | credited => exact .inr rfl
      | replaced | rejected =>
        rw [answered] at isAway
        cases isAway
    · obtain ⟨r', own, isRow, ofItem, stands⟩ := staged.away i item old isAway
      have other : r' ≠ r := by
        rintro rfl
        rw [there] at isRow
        cases isRow
        exact notIt ofItem.symm
      exact ⟨r', own, (Table.get_update_of_ne _ _ other).trans isRow, ofItem, stands⟩

/-- A void takes an item and its returns together. -/
theorem Staged.voided (staged : Staged defective returns) {id : ℕ}
    (owned : ∀ r ret, returns.get r = some ret → ∃ own, defective.get ret.defectiveItemId = some own ∧
      own.warrantyClaimId = ret.warrantyClaimId) :
    Staged (defective.deleteWhere fun item => item.warrantyClaimId = id) (returns.deleteWhere fun ret => ret.warrantyClaimId = id) where
  status r ret item isRow standing itemThere :=
    staged.status r ret item (Table.get_deleteWhere_some.mp isRow).1 standing (Table.get_deleteWhere_some.mp itemThere).1
  one r r' one two oneThere twoThere :=
    staged.one r r' one two (Table.get_deleteWhere_some.mp oneThere).1 (Table.get_deleteWhere_some.mp twoThere).1
  away i item itemThere isAway := by
    obtain ⟨old, notOf⟩ := Table.get_deleteWhere_some.mp itemThere
    obtain ⟨r, ret, isRow, isOf, stands⟩ := staged.away i item old isAway
    obtain ⟨own, ownThere, ofClaim⟩ := owned r ret isRow
    rw [isOf, old] at ownThere
    cases ownThere
    exact ⟨r, ret, Table.get_deleteWhere_some.mpr ⟨isRow, by rw [← ofClaim]; exact notOf⟩, isOf, stands⟩

end

theorem staged_step {s s' : System} (linked : Linked s) (staged : Staged s.defective s.returns) (step : Step s s') :
    Staged s'.defective s'.returns := by
  have owned : ∀ r ret, s.returns.get r = some ret → ∃ own, s.defective.get ret.defectiveItemId = some own := by
    intro r ret isRow
    obtain ⟨own, ownThere, -⟩ := linked.returns r ret isRow
    exact ⟨own, ownThere⟩
  cases step with
  | quiet is | repairOpened claim status action is | repaired id claim cost there status first is =>
    rw [is]
    exact staged
  | takenIn claim item cost status action taken first refunded is =>
    rw [is]
    exact staged.takenIn taken.status owned
  | writtenOff i item there held is =>
    rw [is]
    exact staged.settled there held none DefectiveItemStatus.noConfusion
  | notFaulty i item batch cost there held recovered is =>
    rw [is]
    exact staged.settled there held batch DefectiveItemStatus.noConfusion
  | sent i item ret there held isOf claimId status nothing is =>
    rw [is]
    exact staged.sent there held isOf status
  | credited r ret close entry cost there wasSent same status nonneg owed row is =>
    have closed := staged.closed there wasSent same.1 none
    rw [status] at closed
    rw [is]
    exact closed
  | replaced r ret item batch close cost there wasSent itemThere same status nothing row is =>
    have closed := staged.closed there wasSent same.1 (some batch)
    rw [status] at closed
    rw [is]
    exact closed
  | rejected r ret close there wasSent same status nothing is =>
    have closed := staged.closed there wasSent same.1 none
    rw [status] at closed
    rw [is]
    exact closed
  | voided id userId claim there notVoided noneSent is =>
    rw [is]
    exact staged.voided linked.returns

end Liratek.Warranty.ClaimStages
