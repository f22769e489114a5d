import Liratek.Warranty.ClaimStages

/-! What the cost rows come to, against the returns and the items they are about. -/

namespace Liratek.Warranty.ClaimSums
open Lib Lib.Rounding ClaimTables WarrantyClaims ClaimWrites ClaimCosts ClaimStages

def creditWorth (ret : SupplierReturn) : Worth :=
  (roundTo 100 ret.creditUsd, (round ret.creditLbp : ℤ), 1)

def itemWorth (item : DefectiveItem) : Worth :=
  (roundTo 100 (item.unitCostUsd * item.quantity), 0, 1)

/-- The supplier's credit on a return of `of`. -/
def creditOf (of : ℕ → Bool) (ret : SupplierReturn) : Worth :=
  if of ret.warrantyClaimId && ret.status = .credited then creditWorth ret else 0

/-- The worth of the item that a supplier has replaced. -/
def replacedOf (defective : Table DefectiveItem) (of : ℕ → Bool) (ret : SupplierReturn) : Worth :=
  if of ret.warrantyClaimId && ret.status = .replaced then (defective.get ret.defectiveItemId).elim 0 itemWorth else 0

/-- The worth of an item that can be sold again. -/
def resoldOf (of : ℕ → Bool) (item : DefectiveItem) : Worth :=
  if of item.warrantyClaimId && item.status = .returnedToStock then itemWorth item else 0

/-- Every kind of the report against what it is booked for. -/
structure Summed (costs : Table WarrantyCost) (returns : Table SupplierReturn) (defective : Table DefectiveItem) : Prop where
  whole : ∀ c row, costs.get c = some row → WholeRow row
  credits : ∀ of, booked costs of .supplierCredit = returns.total (creditOf of)
  replaced : ∀ of, booked costs of .supplierReplaced = returns.total (replacedOf defective of)
  resold : ∀ of, booked costs of .notFaulty + booked costs of .supplierReplaced = defective.total (resoldOf of)

section
variable {of : ℕ → Bool} {ret : SupplierReturn} {item : DefectiveItem} {defective : Table DefectiveItem}

theorem creditOf_not (not : ret.status ≠ .credited) : creditOf of ret = 0 := by
  unfold creditOf
  rw [decide_eq_false not, Bool.and_false]
  rfl

theorem replacedOf_not (not : ret.status ≠ .replaced) : replacedOf defective of ret = 0 := by
  unfold replacedOf
  rw [decide_eq_false not, Bool.and_false]
  rfl

theorem resoldOf_not (not : item.status ≠ .returnedToStock) : resoldOf of item = 0 := by
  unfold resoldOf
  rw [decide_eq_false not, Bool.and_false]
  rfl

/-- What an item is worth does not change with where it is. -/
theorem replacedOf_update (defective : Table DefectiveItem) (i : ℕ) (status : DefectiveItemStatus) (batch : Option ℕ) (of : ℕ → Bool) :
    replacedOf (defective.update i (statusOf status batch)) of = replacedOf defective of := by
  funext ret
  have same : ((defective.update i (statusOf status batch)).get ret.defectiveItemId).elim 0 itemWorth =
      (defective.get ret.defectiveItemId).elim 0 itemWorth := by
    by_cases isIt : ret.defectiveItemId = i
    · rw [isIt, Table.get_update_self]
      cases defective.get i with
      | none => rfl
      | some item => rfl
    · rw [Table.get_update_of_ne _ _ isIt]
  unfold replacedOf
  rw [same]

theorem resold_update {i : ℕ} (there : defective.get i = some item) (status : DefectiveItemStatus) (batch : Option ℕ)
    (of : ℕ → Bool) : (defective.update i (statusOf status batch)).total (resoldOf of) =
      defective.total (resoldOf of) - resoldOf of item + resoldOf of (statusOf status batch item) :=
  Table.total_update there _ _

/-- An item that can be sold neither before nor after. -/
theorem resold_update_not {i : ℕ} (there : defective.get i = some item) {status : DefectiveItemStatus} (batch : Option ℕ)
    (before : item.status ≠ .returnedToStock) (after : status ≠ .returnedToStock) (of : ℕ → Bool) :
    (defective.update i (statusOf status batch)).total (resoldOf of) = defective.total (resoldOf of) := by
  have now : (statusOf status batch item).status ≠ .returnedToStock := after
  rw [resold_update there, resoldOf_not before, resoldOf_not now, sub_zero, add_zero]

/-- An item that can be sold again from now on. -/
theorem resold_update_now {i : ℕ} (there : defective.get i = some item) (batch : Option ℕ) (before : item.status ≠ .returnedToStock)
    (of : ℕ → Bool) : (defective.update i (statusOf .returnedToStock batch)).total (resoldOf of) =
      defective.total (resoldOf of) + if of item.warrantyClaimId then itemWorth item else 0 := by
  rw [resold_update there, resoldOf_not before, sub_zero]
  congr 1
  unfold resoldOf
  rw [show (statusOf .returnedToStock batch item).status = .returnedToStock from rfl, decide_eq_true rfl, Bool.and_true]
  rfl

theorem recovered_worth {kind : WarrantyCostKind} {row : WarrantyCost} (plain : row.kind ≠ .reversal)
    (recovered : RecoveredCost item kind row) : worth row = itemWorth item := by
  unfold worth itemWorth
  rw [recovered.usd, recovered.lbp, if_neg plain]

/-- A row of a kind of its own. -/
theorem booked_insert_same {s : System} (linked : Linked s) {row : WarrantyCost} (plain : row.kind ≠ .reversal) (of : ℕ → Bool) :
    booked (s.costs.insert row) of row.kind = booked s.costs of row.kind + if of row.claimId then worth row else 0 := by
  rw [booked_insert linked plain, decide_eq_true rfl, Bool.and_true]

theorem whole_insert {costs : Table WarrantyCost} {row : WarrantyCost} (whole : ∀ c row, costs.get c = some row → WholeRow row)
    (wholeRow : WholeRow row) : ∀ c row', (costs.insert row).get c = some row' → WholeRow row' := by
  intro c row' there
  rcases Table.get_insert there with old | ⟨-, rfl⟩
  · exact whole c row' old
  · exact wholeRow

end

section
variable {s : System}

/-- A row of another kind, with nothing else that counts. -/
theorem Summed.cost (linked : Linked s) (summed : Summed s.costs s.returns s.defective) {claimId : ℕ} {row : WarrantyCost}
    (first : FirstCost claimId row) : Summed (s.costs.insert row) s.returns s.defective := by
  have other : ∀ {kind}, .cost ≠ kind → ∀ of, booked (s.costs.insert row) of kind = booked s.costs of kind := by
    intro kind notCost of
    exact booked_insert_other linked (by rw [first.kind]; exact WarrantyCostKind.noConfusion) (by rw [first.kind]; exact notCost)
  refine ⟨whole_insert summed.whole ⟨first.usd, 0, by rw [first.lbp, Int.cast_zero]⟩, fun of => ?_, fun of => ?_, fun of => ?_⟩
  · rw [other WarrantyCostKind.noConfusion, summed.credits]
  · rw [other WarrantyCostKind.noConfusion, summed.replaced]
  · rw [other WarrantyCostKind.noConfusion, other WarrantyCostKind.noConfusion, summed.resold]

theorem Summed.takenIn {costs : Table WarrantyCost} (linked : Linked s) (summed : Summed costs s.returns s.defective)
    {item : DefectiveItem} (held : item.status = .held) : Summed costs s.returns (s.defective.insert item) := by
  refine ⟨summed.whole, summed.credits, fun of => ?_, fun of => ?_⟩
  · rw [summed.replaced]
    refine Table.total_congr fun r ret isRow => ?_
    obtain ⟨own, ownThere, -⟩ := linked.returns r ret isRow
    unfold replacedOf
    rw [ownThere, Table.get_insert_of_get ownThere]
  · rw [summed.resold, Table.total_insert, resoldOf_not (by rw [held]; exact DefectiveItemStatus.noConfusion), add_zero]

/-- An item that is moved, but not to the shelf. -/
theorem Summed.moved {costs : Table WarrantyCost} {returns : Table SupplierReturn} {defective : Table DefectiveItem}
    (summed : Summed costs returns defective) {i : ℕ} {item : DefectiveItem} (there : defective.get i = some item)
    {status : DefectiveItemStatus} (batch : Option ℕ) (before : item.status ≠ .returnedToStock) (after : status ≠ .returnedToStock) :
    Summed costs returns (defective.update i (statusOf status batch)) := by
  refine ⟨summed.whole, summed.credits, fun of => ?_, fun of => ?_⟩
  · rw [replacedOf_update, summed.replaced]
  · rw [resold_update_not there batch before after, summed.resold]

theorem Summed.notFaulty (linked : Linked s) (summed : Summed s.costs s.returns s.defective) {i : ℕ} {item : DefectiveItem}
    {batch : Option ℕ} {cost : WarrantyCost} (there : s.defective.get i = some item) (held : item.status = .held)
    (recovered : RecoveredCost item .notFaulty cost) :
    Summed (s.costs.insert cost) s.returns (s.defective.update i (statusOf .returnedToStock batch)) := by
  have plain : cost.kind ≠ .reversal := by rw [recovered.kind]; exact WarrantyCostKind.noConfusion
  have other : ∀ {kind}, .notFaulty ≠ kind → ∀ of, booked (s.costs.insert cost) of kind = booked s.costs of kind := by
    intro kind notThis of
    exact booked_insert_other linked plain (by rw [recovered.kind]; exact notThis)
  have wholeRow : WholeRow cost := ⟨by rw [recovered.usd]; exact roundTo_whole _ _, 0, by rw [recovered.lbp, Int.cast_zero]⟩
  refine ⟨whole_insert summed.whole wholeRow, fun of => ?_, fun of => ?_, fun of => ?_⟩
  · rw [other WarrantyCostKind.noConfusion, summed.credits]
  · rw [other WarrantyCostKind.noConfusion, replacedOf_update, summed.replaced]
  · have more := booked_insert_same linked plain of
    rw [recovered.kind, recovered_worth plain recovered, recovered.claimId] at more
    rw [more, other WarrantyCostKind.noConfusion, add_right_comm, summed.resold,
      resold_update_now there batch (by rw [held]; exact DefectiveItemStatus.noConfusion)]

theorem Summed.sent {costs : Table WarrantyCost} {returns : Table SupplierReturn} {defective : Table DefectiveItem}
    (summed : Summed costs returns defective) {ret : SupplierReturn} (status : ret.status = .sent) :
    Summed costs (returns.insert ret) defective := by
  refine ⟨summed.whole, fun of => ?_, fun of => ?_, summed.resold⟩
  · rw [Table.total_insert, creditOf_not (by rw [status]; exact SupplierReturnStatus.noConfusion), add_zero, summed.credits]
  · rw [Table.total_insert, replacedOf_not (by rw [status]; exact SupplierReturnStatus.noConfusion), add_zero, summed.replaced]

theorem Summed.rejected {costs : Table WarrantyCost} {returns : Table SupplierReturn} {defective : Table DefectiveItem}
    (summed : Summed costs returns defective) {r : ℕ} {ret : SupplierReturn} {close : SupplierReturn → SupplierReturn}
    (there : returns.get r = some ret) (wasSent : ret.status = .sent) (status : (close ret).status = .rejected) :
    Summed costs (returns.update r close) defective := by
  refine ⟨summed.whole, fun of => ?_, fun of => ?_, summed.resold⟩
  · rw [Table.total_update there, creditOf_not (by rw [wasSent]; exact SupplierReturnStatus.noConfusion),
      creditOf_not (by rw [status]; exact SupplierReturnStatus.noConfusion), sub_zero, add_zero, summed.credits]
  · rw [Table.total_update there, replacedOf_not (by rw [wasSent]; exact SupplierReturnStatus.noConfusion),
      replacedOf_not (by rw [status]; exact SupplierReturnStatus.noConfusion), sub_zero, add_zero, summed.replaced]

theorem Summed.credited (linked : Linked s) (summed : Summed s.costs s.returns s.defective) {r : ℕ} {ret : SupplierReturn}
    {close : SupplierReturn → SupplierReturn} {cost : WarrantyCost} (there : s.returns.get r = some ret) (wasSent : ret.status = .sent)
    (sameClaim : (close ret).warrantyClaimId = ret.warrantyClaimId) (status : (close ret).status = .credited)
    (row : cost.claimId = ret.warrantyClaimId ∧ cost.kind = .supplierCredit ∧ cost.reversesId = none ∧
      cost.profitUsd = roundTo 100 (close ret).creditUsd ∧ cost.profitLbp = round (close ret).creditLbp) :
    Summed (s.costs.insert cost) (s.returns.update r close) s.defective := by
  obtain ⟨claimId, kind, -, usd, lbp⟩ := row
  have plain : cost.kind ≠ .reversal := by rw [kind]; exact WarrantyCostKind.noConfusion
  have other : ∀ {kind'}, .supplierCredit ≠ kind' → ∀ of, booked (s.costs.insert cost) of kind' = booked s.costs of kind' := by
    intro kind' notThis of
    exact booked_insert_other linked plain (by rw [kind]; exact notThis)
  have isWorth : worth cost = creditWorth (close ret) := by
    unfold worth creditWorth
    rw [usd, lbp, if_neg plain]
  refine ⟨whole_insert summed.whole ⟨by rw [usd]; exact roundTo_whole _ _, _, lbp⟩, fun of => ?_, fun of => ?_, fun of => ?_⟩
  · have more := booked_insert_same linked plain of
    have now : creditOf of (close ret) = if of ret.warrantyClaimId then creditWorth (close ret) else 0 := by
      unfold creditOf
      rw [status, sameClaim, decide_eq_true rfl, Bool.and_true]
    rw [kind, isWorth, claimId] at more
    rw [more, summed.credits, Table.total_update there, now, creditOf_not (by rw [wasSent]; exact SupplierReturnStatus.noConfusion),
      sub_zero]
  · rw [other WarrantyCostKind.noConfusion, Table.total_update there,
      replacedOf_not (by rw [wasSent]; exact SupplierReturnStatus.noConfusion),
      replacedOf_not (by rw [status]; exact SupplierReturnStatus.noConfusion), sub_zero, add_zero, summed.replaced]
  · rw [other WarrantyCostKind.noConfusion, other WarrantyCostKind.noConfusion, summed.resold]

theorem Summed.swapped (linked : Linked s) (summed : Summed s.costs s.returns s.defective) {r batch : ℕ} {ret : SupplierReturn}
    {item : DefectiveItem} {close : SupplierReturn → SupplierReturn} {cost : WarrantyCost} (there : s.returns.get r = some ret)
    (wasSent : ret.status = .sent) (itemThere : s.defective.get ret.defectiveItemId = some item)
    (away : item.status ≠ .returnedToStock) (sameItem : (close ret).defectiveItemId = ret.defectiveItemId)
    (sameClaim : (close ret).warrantyClaimId = ret.warrantyClaimId) (status : (close ret).status = .replaced)
    (ofClaim : item.warrantyClaimId = ret.warrantyClaimId) (recovered : RecoveredCost item .supplierReplaced cost) :
    Summed (s.costs.insert cost) (s.returns.update r close)
      (s.defective.update ret.defectiveItemId (statusOf .returnedToStock (some batch))) := by
  have plain : cost.kind ≠ .reversal := by rw [recovered.kind]; exact WarrantyCostKind.noConfusion
  have other : ∀ {kind}, .supplierReplaced ≠ kind → ∀ of, booked (s.costs.insert cost) of kind = booked s.costs of kind := by
    intro kind notThis of
    exact booked_insert_other linked plain (by rw [recovered.kind]; exact notThis)
  have wholeRow : WholeRow cost := ⟨by rw [recovered.usd]; exact roundTo_whole _ _, 0, by rw [recovered.lbp, Int.cast_zero]⟩
  have more : ∀ of, booked (s.costs.insert cost) of .supplierReplaced =
      booked s.costs of .supplierReplaced + if of item.warrantyClaimId then itemWorth item else 0 := by
    intro of
    have same := booked_insert_same linked plain of
    rwa [recovered.kind, recovered_worth plain recovered, recovered.claimId] at same
  refine ⟨whole_insert summed.whole wholeRow, fun of => ?_, fun of => ?_, fun of => ?_⟩
  · rw [other WarrantyCostKind.noConfusion, Table.total_update there,
      creditOf_not (by rw [wasSent]; exact SupplierReturnStatus.noConfusion),
      creditOf_not (by rw [status]; exact SupplierReturnStatus.noConfusion), sub_zero, add_zero, summed.credits]
  · have now : replacedOf s.defective of (close ret) = if of item.warrantyClaimId then itemWorth item else 0 := by
      unfold replacedOf
      rw [status, sameItem, sameClaim, itemThere, ofClaim, decide_eq_true rfl, Bool.and_true, Option.elim_some]
    rw [more, summed.replaced, replacedOf_update, Table.total_update there, now,
      replacedOf_not (by rw [wasSent]; exact SupplierReturnStatus.noConfusion), sub_zero]
  · rw [more, other WarrantyCostKind.noConfusion, ← add_assoc, summed.resold, resold_update_now itemThere (some batch) away]

theorem Summed.voided (linked : Linked s) (summed : Summed s.costs s.returns s.defective) {id : ℕ} (userId : ℕ) {claim : WarrantyClaim}
    (there : s.claims.get id = some claim) (live : claim.status ≠ .voided) :
    Summed (s.costs.insertAll (reversalRows s.costs id userId)) (s.returns.deleteWhere fun ret => ret.warrantyClaimId = id)
      (s.defective.deleteWhere fun item => item.warrantyClaimId = id) := by
  have left : ∀ of kind, booked (s.costs.insertAll (reversalRows s.costs id userId)) of kind =
      booked s.costs (fun c => of c && c ≠ id) kind := fun of kind => booked_voided linked summed.whole userId there live
  refine ⟨fun c row isRow => ?_, fun of => ?_, fun of => ?_, fun of => ?_⟩
  · rcases Table.get_insertAll isRow with old | ⟨added, -⟩
    · exact summed.whole c row old
    · obtain ⟨r, original, -, -, rfl⟩ := reversal_mem added
      exact row_whole _
  · rw [left, summed.credits, Table.total_deleteWhere_ite]
    refine Table.total_congr fun r ret _ => ?_
    unfold creditOf
    by_cases isIt : ret.warrantyClaimId = id
    · simp [isIt]
    · simp [isIt]
  · rw [left, summed.replaced, Table.total_deleteWhere_ite]
    refine Table.total_congr fun r ret isRow => ?_
    obtain ⟨own, ownThere, ofClaim⟩ := linked.returns r ret isRow
    unfold replacedOf
    by_cases isIt : ret.warrantyClaimId = id
    · simp [isIt]
    · have kept : (s.defective.deleteWhere fun item => item.warrantyClaimId = id).get ret.defectiveItemId = some own :=
        Table.get_deleteWhere_some.mpr ⟨ownThere, decide_eq_false (by rwa [ofClaim])⟩
      rw [kept, ownThere]
      simp [isIt]
  · rw [left, left, summed.resold, Table.total_deleteWhere_ite]
    refine Table.total_congr fun i item _ => ?_
    unfold resoldOf
    by_cases isIt : item.warrantyClaimId = id
    · simp [isIt]
    · simp [isIt]

end

/-- The item of a return that is open. -/
theorem sent_item {s : System} (linked : Linked s) (staged : Staged s.defective s.returns) {r : ℕ} {ret : SupplierReturn}
    (there : s.returns.get r = some ret) (sent : ret.status = .sent) : ∃ item, s.defective.get ret.defectiveItemId = some item ∧
      item.warrantyClaimId = ret.warrantyClaimId ∧ item.status = .sentToSupplier := by
  obtain ⟨item, itemThere, ofClaim⟩ := linked.returns r ret there
  have status := staged.status r ret item there (by rw [sent]; exact SupplierReturnStatus.noConfusion) itemThere
  rw [sent] at status
  exact ⟨item, itemThere, ofClaim, status⟩

theorem summed_step {s s' : System} (linked : Linked s) (staged : Staged s.defective s.returns)
    (summed : Summed s.costs s.returns s.defective) (step : Step s s') : Summed s'.costs s'.returns s'.defective := by
  cases step with
  | quiet is | repairOpened claim status action is =>
    rw [is]
    exact summed
  | takenIn claim item cost status action taken first refunded is =>
    rw [is]
    exact (summed.cost linked first).takenIn linked taken.status
  | repaired id claim cost there status first is =>
    rw [is]
    exact summed.cost linked first
  | writtenOff i item there held is =>
    rw [is]
    exact summed.moved there none (by rw [held]; exact DefectiveItemStatus.noConfusion) DefectiveItemStatus.noConfusion
  | notFaulty i item batch cost there held recovered is =>
    rw [is]
    exact summed.notFaulty linked there held recovered
  | sent i item ret there held isOf claimId status nothing is =>
    rw [is]
    exact (summed.moved there none (by rw [held]; exact DefectiveItemStatus.noConfusion) DefectiveItemStatus.noConfusion).sent status
  | credited r ret close entry cost there wasSent same status nonneg owed row is =>
    obtain ⟨item, itemThere, -, away⟩ := sent_item linked staged there wasSent
    rw [is]
    exact (summed.credited linked there wasSent same.2.1 status row).moved itemThere none
      (by rw [away]; exact DefectiveItemStatus.noConfusion) DefectiveItemStatus.noConfusion
  | replaced r ret item batch close cost there wasSent itemThere same status nothing recovered is =>
    obtain ⟨own, ownThere, ofClaim, away⟩ := sent_item linked staged there wasSent
    rw [itemThere] at ownThere
    cases ownThere
    have ofItem : RecoveredCost item .supplierReplaced cost :=
      ⟨recovered.claimId.trans ofClaim.symm, recovered.kind, recovered.usd, recovered.lbp, recovered.reversesId⟩
    rw [is]
    exact summed.swapped linked there wasSent itemThere (by rw [away]; exact DefectiveItemStatus.noConfusion) same.1 same.2.1 status
      ofClaim ofItem
  | rejected r ret close there wasSent same status nothing is =>
    obtain ⟨item, itemThere, -, away⟩ := sent_item linked staged there wasSent
    rw [is]
    exact (summed.rejected there wasSent status).moved itemThere none (by rw [away]; exact DefectiveItemStatus.noConfusion)
      DefectiveItemStatus.noConfusion
  | voided id userId claim there notVoided noneSent is =>
    rw [is]
    exact summed.voided linked userId there notVoided

end Liratek.Warranty.ClaimSums
