import Liratek.Warranty.WarrantyClaims

/-! What a call writes in the rows of claims. -/

namespace Liratek.Warranty.ClaimWrites
open Lib Lib.Calls Lib.Rounding ClaimTables WarrantyClaims

/-- How the rows of claims name each other. -/
structure Linked (s : System) : Prop where
  items : ∀ i item, s.defective.get i = some item → ∃ claim, s.claims.get item.warrantyClaimId = some claim ∧
    claim.status = .done ∧ claim.action ≠ .repair
  oneItem : ∀ i j item other, s.defective.get i = some item → s.defective.get j = some other →
    item.warrantyClaimId = other.warrantyClaimId → i = j
  returns : ∀ r ret, s.returns.get r = some ret → ∃ item, s.defective.get ret.defectiveItemId = some item ∧
    item.warrantyClaimId = ret.warrantyClaimId
  costs : ∀ c row, s.costs.get c = some row → ∃ claim, s.claims.get row.claimId = some claim
  reversals : ∀ c row, s.costs.get c = some row → (row.reversesId ≠ none ↔ row.kind = .reversal)
  reversed : ∀ c row r, s.costs.get c = some row → row.reversesId = some r → ∃ original, s.costs.get r = some original ∧
    original.claimId = row.claimId ∧ original.kind ≠ .reversal
  standing : ∀ c row claim, s.costs.get c = some row → s.claims.get row.claimId = some claim → claim.status ≠ .voided →
    row.reversesId = none

/-- The first row that a claim books. -/
structure FirstCost (claimId : ℕ) (row : WarrantyCost) : Prop where
  claimId : row.claimId = claimId
  kind : row.kind = .cost
  usd : Whole 100 row.profitUsd
  lbp : row.profitLbp = 0
  reversesId : row.reversesId = none

/-- A faulty item as it is taken in. -/
structure TakenIn (claimId : ℕ) (item : DefectiveItem) : Prop where
  claimId : item.warrantyClaimId = claimId
  status : item.status = .held
  quantity : item.quantity = 1

/-- The row that takes back the worth of a faulty item. -/
structure RecoveredCost (item : DefectiveItem) (kind : WarrantyCostKind) (row : WarrantyCost) : Prop where
  claimId : row.claimId = item.warrantyClaimId
  kind : row.kind = kind
  usd : row.profitUsd = roundTo 100 (item.unitCostUsd * item.quantity)
  lbp : row.profitLbp = 0
  reversesId : row.reversesId = none

def statusOf (status : DefectiveItemStatus) (restockBatchId : Option ℕ) (item : DefectiveItem) : DefectiveItem :=
  { item with status, restockBatchId }

def creditBack (claimId userId : ℕ) (ret : ℕ × SupplierReturn) : LedgerEntry where
  supplierId := ret.2.supplierId
  amountUsd := |ret.2.creditUsd|
  amountLbp := |ret.2.creditLbp|
  note := "Warranty claim #" ++ claimId.repr ++ " voided — supplier credit on return #" ++ ret.1.repr ++ " reversed"
  createdBy := userId

/-- The rows that take back those of a claim. -/
def reversalRows (costs : Table WarrantyCost) (claimId userId : ℕ) : List WarrantyCost :=
  (costRowsForClaim costs claimId).map fun row => (reversalOf claimId userId row).row

/-- Everything a step can write in the rows of claims. -/
inductive Step (s s' : System) : Prop where
  | quiet (is : s' = s.withShop s'.shop)
  /-- a refund or a replacement -/
  | takenIn (claim : WarrantyClaim) (item : DefectiveItem) (cost : WarrantyCost) (status : claim.status = .done)
      (action : claim.action ≠ .repair) (taken : TakenIn s.claims.nextId item) (first : FirstCost s.claims.nextId cost)
      (refunded : claim.action = .refund → cost.profitUsd = roundTo 100 (-item.unitCostUsd))
      (is : s' = { s with
        claims := s.claims.insert claim, defective := s.defective.insert item, costs := s.costs.insert cost, shop := s'.shop })
  | repairOpened (claim : WarrantyClaim) (status : claim.status = .opened) (action : claim.action = .repair)
      (is : s' = { s with claims := s.claims.insert claim, shop := s'.shop })
  | repaired (id : ℕ) (claim : WarrantyClaim) (cost : WarrantyCost) (found : s.claims.get id = some claim)
      (status : claim.status = .opened) (first : FirstCost id cost)
      (is : s' = { s with
        claims := s.claims.update id fun claim => { claim with status := .done }, costs := s.costs.insert cost, shop := s'.shop })
  | writtenOff (i : ℕ) (item : DefectiveItem) (found : s.defective.get i = some item) (held : item.status = .held)
      (is : s' = { s with defective := s.defective.update i (statusOf .writtenOff none), shop := s'.shop })
  | notFaulty (i : ℕ) (item : DefectiveItem) (batch : Option ℕ) (cost : WarrantyCost) (found : s.defective.get i = some item)
      (held : item.status = .held) (recovered : RecoveredCost item .notFaulty cost)
      (is : s' = { s with
        defective := s.defective.update i (statusOf .returnedToStock batch), costs := s.costs.insert cost, shop := s'.shop })
  | sent (i : ℕ) (item : DefectiveItem) (ret : SupplierReturn) (found : s.defective.get i = some item) (held : item.status = .held)
      (isOf : ret.defectiveItemId = i) (claimId : ret.warrantyClaimId = item.warrantyClaimId) (status : ret.status = .sent)
      (nothing : ret.creditUsd = 0 ∧ ret.creditLbp = 0)
      (is : s' = { s with
        returns := s.returns.insert ret, defective := s.defective.update i (statusOf .sentToSupplier none), shop := s'.shop })
  | credited (r : ℕ) (ret : SupplierReturn) (close : SupplierReturn → SupplierReturn) (entry : LedgerEntry) (cost : WarrantyCost)
      (found : s.returns.get r = some ret) (wasSent : ret.status = .sent)
      (same : (close ret).defectiveItemId = ret.defectiveItemId ∧ (close ret).warrantyClaimId = ret.warrantyClaimId ∧
        (close ret).supplierId = ret.supplierId)
      (status : (close ret).status = .credited) (nonneg : 0 ≤ (close ret).creditUsd ∧ 0 ≤ (close ret).creditLbp)
      (owed : entry.supplierId = ret.supplierId ∧ entry.amountUsd = -(close ret).creditUsd ∧ entry.amountLbp = -(close ret).creditLbp)
      (row : cost.claimId = ret.warrantyClaimId ∧ cost.kind = .supplierCredit ∧ cost.reversesId = none ∧
        cost.profitUsd = roundTo 100 (close ret).creditUsd ∧ cost.profitLbp = round (close ret).creditLbp)
      (is : s' = { s with
        ledger := s.ledger.insert entry, costs := s.costs.insert cost
        defective := s.defective.update ret.defectiveItemId (statusOf .sentToSupplier none)
        returns := s.returns.update r close, shop := s'.shop })
  | replaced (r : ℕ) (ret : SupplierReturn) (item : DefectiveItem) (batch : ℕ) (close : SupplierReturn → SupplierReturn)
      (cost : WarrantyCost) (found : s.returns.get r = some ret) (wasSent : ret.status = .sent)
      (there : s.defective.get ret.defectiveItemId = some item)
      (same : (close ret).defectiveItemId = ret.defectiveItemId ∧ (close ret).warrantyClaimId = ret.warrantyClaimId ∧
        (close ret).supplierId = ret.supplierId)
      (status : (close ret).status = .replaced) (nothing : (close ret).creditUsd = 0 ∧ (close ret).creditLbp = 0)
      (row : RecoveredCost { item with warrantyClaimId := ret.warrantyClaimId } .supplierReplaced cost)
      (is : s' = { s with
        costs := s.costs.insert cost
        defective := s.defective.update ret.defectiveItemId (statusOf .returnedToStock (some batch))
        returns := s.returns.update r close, shop := s'.shop })
  | rejected (r : ℕ) (ret : SupplierReturn) (close : SupplierReturn → SupplierReturn) (found : s.returns.get r = some ret)
      (wasSent : ret.status = .sent)
      (same : (close ret).defectiveItemId = ret.defectiveItemId ∧ (close ret).warrantyClaimId = ret.warrantyClaimId ∧
        (close ret).supplierId = ret.supplierId)
      (status : (close ret).status = .rejected) (nothing : (close ret).creditUsd = 0 ∧ (close ret).creditLbp = 0)
      (is : s' = { s with
        defective := s.defective.update ret.defectiveItemId (statusOf .held none), returns := s.returns.update r close
        shop := s'.shop })
  | voided (id userId : ℕ) (claim : WarrantyClaim) (found : s.claims.get id = some claim) (notVoided : claim.status ≠ .voided)
      (noneSent : ∀ r ret, s.returns.get r = some ret → ret.warrantyClaimId = id → ret.status ≠ .sent)
      (is : s' =
        { claims := s.claims.update id fun claim => { claim with status := .voided }
          defective := s.defective.deleteWhere fun item => item.warrantyClaimId = id
          returns := s.returns.deleteWhere fun ret => ret.warrantyClaimId = id
          costs := s.costs.insertAll (reversalRows s.costs id userId)
          ledger := s.ledger.insertAll
            (((listForClaim s.returns id).filter fun ret => ret.2.status = .credited).map (creditBack id userId))
          shop := s'.shop })

/-! Claims that are opened. -/

section
variable {outside : Outside} {data : CreateWarrantyClaimData} {actor : WarrantyActor} {s s' : System}

theorem round_zero_lbp : ((round (0 : ℚ) : ℤ) : ℚ) = 0 := by
  rw [round_zero, Int.cast_zero]

theorem claimCost_first (line : SaleLine) (actor : WarrantyActor) (claimId : ℕ) (usd : ℚ) (what : String) :
    FirstCost claimId (claimCost line actor claimId usd what).row :=
  ⟨rfl, rfl, roundTo_whole _ _, round_zero_lbp, rfl⟩

theorem itemOf_takenIn (line : SaleLine) (data : CreateWarrantyClaimData) (claimId : ℕ) : TakenIn claimId (itemOf line data claimId) :=
  ⟨rfl, rfl, rfl⟩

/-- A claim that is not a repair is done as it is opened. -/
theorem claimRow_done {state : WarrantyState} (action : data.action ≠ .repair) : (claimRow data actor state).status = .done :=
  if_neg action

/-- The rows of a refund or a replacement, once the claim is inserted and linked. -/
theorem takenIn_step {row : WarrantyClaim} (given : System) (shop : Shop) {item : DefectiveItem} {input : CostInput}
    {link : WarrantyClaim → WarrantyClaim} (links : (link row).status = row.status ∧ (link row).action = row.action)
    (status : row.status = .done) (action : row.action ≠ .repair) (taken : TakenIn s.claims.nextId item)
    (first : FirstCost s.claims.nextId input.row)
    (refunded : row.action = .refund → input.row.profitUsd = roundTo 100 (-item.unitCostUsd))
    (is : given = (({ s with claims := s.claims.insert row } : System).withShop given.shop).changeClaim s.claims.nextId link) :
    Step s (((given.withShop shop).insertItem item).bookCost input) := by
  refine .takenIn (link row) item input.row (links.1.trans status) (by rwa [links.2]) taken first (by rwa [links.2]) ?_
  rw [is]
  unfold System.bookCost System.insertItem System.changeClaim System.withShop
  dsimp only
  rw [Table.update_insert_self]

theorem refundClaim_step {saleItemId : ℕ} {line : SaleLine} {row : WarrantyClaim} (status : row.status = .done)
    (action : row.action = .refund)
    (done : refundClaim outside data actor saleItemId line s.claims.nextId { s with claims := s.claims.insert row } = .ok s') :
    Step s s' := by
  obtain ⟨shop, -, rfl⟩ := map_ok done
  have notRepair : row.action ≠ .repair := by rw [action]; exact WarrantyClaimAction.noConfusion
  exact takenIn_step
    ((({ s with claims := s.claims.insert row } : System).withShop shop).changeClaim s.claims.nextId fun claim =>
      { claim with refundTransactionId := some s.shop.refunds.nextId }) shop
    ⟨rfl, rfl⟩ status notRepair (itemOf_takenIn line data _) (claimCost_first line actor _ _ _) (fun _ => rfl) rfl

theorem giveReplacement_ok {unitOverride : Option String} {line : SaleLine} {claimId : ℕ}
    (done : giveReplacement data unitOverride line claimId s = .ok s') :
    ∃ link : WarrantyClaim → WarrantyClaim, (∀ claim, (link claim).status = claim.status ∧ (link claim).action = claim.action) ∧
      s' = (s.withShop s'.shop).changeClaim claimId link := by
  unfold giveReplacement at done
  cases given : data.replacementUnitId with
  | none =>
    rw [given] at done
    cases done
    exact ⟨fun claim => claim, fun _ => ⟨rfl, rfl⟩, by unfold System.changeClaim; rw [Table.update_id]; rfl⟩
  | some unitId =>
    rw [given] at done
    obtain ⟨-, -, done⟩ := bind_ok done
    obtain ⟨-, -, rfl⟩ := map_ok done
    exact ⟨fun claim => { claim with replacementUnitId := some unitId }, fun _ => ⟨rfl, rfl⟩, rfl⟩

theorem replaceClaim_step {unitOverride : Option String} {line : SaleLine} {row : WarrantyClaim} (status : row.status = .done)
    (action : row.action = .replace)
    (done : replaceClaim outside data actor unitOverride line s.claims.nextId { s with claims := s.claims.insert row } = .ok s') :
    Step s s' := by
  obtain ⟨product, -, done⟩ := bind_ok done
  obtain ⟨-, -, done⟩ := bind_ok done
  obtain ⟨-, -, done⟩ := bind_ok done
  obtain ⟨given, isGiven, rfl⟩ := map_ok done
  obtain ⟨link, links, is⟩ := giveReplacement_ok isGiven
  have notRepair : row.action ≠ .repair := by rw [action]; exact WarrantyClaimAction.noConfusion
  have notRefund : row.action ≠ .refund := by rw [action]; exact WarrantyClaimAction.noConfusion
  exact takenIn_step given _ (links row) status notRepair (itemOf_takenIn line data _) (claimCost_first line actor _ _ _)
    (fun refund => absurd refund notRefund) is

theorem openJob_step {job : MaintenanceJob} {row : WarrantyClaim} (status : row.status = .opened) (action : row.action = .repair) :
    Step s (openJob job s.claims.nextId { s with claims := s.claims.insert row }) := by
  refine .repairOpened { row with repairJobId := some s.shop.jobs.nextId } status action ?_
  unfold openJob System.changeClaim System.withShop
  dsimp only
  rw [Table.update_insert_self]

theorem createSaleLineClaim_step {saleItemId : ℕ} (done : createSaleLineClaim outside data actor saleItemId s = .ok s') :
    Step s s' := by
  obtain ⟨line, -, done⟩ := bind_ok done
  obtain ⟨unitOverride, -, done⟩ := bind_ok done
  obtain ⟨-, -, done⟩ := bind_ok done
  obtain ⟨-, -, done⟩ := bind_ok done
  dsimp only at done
  cases action : data.action with
  | refund =>
    rw [action] at done
    exact refundClaim_step (claimRow_done (by rw [action]; exact WarrantyClaimAction.noConfusion)) action done
  | replace =>
    rw [action] at done
    exact replaceClaim_step (claimRow_done (by rw [action]; exact WarrantyClaimAction.noConfusion)) action done
  | repair =>
    rw [action] at done
    cases done
    exact openJob_step (if_pos action) action

theorem createClaim_step (done : createClaim outside data actor s = .ok s') : Step s s' := by
  obtain ⟨-, -, done⟩ := bind_ok done
  cases job : data.maintenanceId with
  | some maintenanceId =>
    rw [job] at done
    obtain ⟨_, repair, done⟩ := bind_ok done
    have isRepair : data.action = .repair := by simpa using check_ok repair
    obtain ⟨job, -, done⟩ := bind_ok done
    obtain ⟨-, -, done⟩ := bind_ok done
    obtain ⟨-, -, rfl⟩ := map_ok done
    exact openJob_step (if_pos isRepair) isRepair
  | none =>
    rw [job] at done
    cases line : data.saleItemId with
    | none =>
      rw [line] at done
      cases done
    | some saleItemId =>
      rw [line] at done
      exact createSaleLineClaim_step done

end

/-! A repair, and what becomes of a faulty item. -/

section
variable {outside : Outside} {actor : WarrantyActor} {s s' : System}

theorem quiet_self (s : System) : Step s s :=
  .quiet rfl

theorem findByRepairJob_get {jobId id : ℕ} {claim : WarrantyClaim} (isFound : findByRepairJob s.claims jobId = some (id, claim)) :
    s.claims.get id = some claim :=
  (Table.mem_select.mp (List.mem_of_getLast? isFound)).1

/-- The cost of a repair that is delivered. -/
def repairCost (job : MaintenanceJob) (actorUserId : Option ℕ) (claimId : ℕ) (claim : WarrantyClaim) : CostInput where
  claimId := claimId
  clientId := job.clientId
  userId := actorUserId.getD claim.userId
  usd := -(job.costUsd + job.partsCostUsd)
  summary := "WARRANTY: repair parts for " ++ job.deviceName ++ " (claim #" ++ claimId.repr ++ ")"
  kind := .cost

theorem repairCost_first (job : MaintenanceJob) (actorUserId : Option ℕ) (claimId : ℕ) (claim : WarrantyClaim) :
    FirstCost claimId (repairCost job actorUserId claimId claim).row :=
  ⟨rfl, rfl, roundTo_whole _ _, round_zero_lbp, rfl⟩

/-- A delivery changes nothing, or books an open claim's cost. -/
theorem deliverJob_cases (jobId : ℕ) (actorUserId : Option ℕ) (s : System) :
    deliverJob jobId actorUserId s = s ∨
      ∃ id claim job, s.claims.get id = some claim ∧ claim.status = .opened ∧ s.shop.jobs.get jobId = some job ∧
        deliverJob jobId actorUserId s =
          (s.bookCost (repairCost job actorUserId id claim)).changeClaim id fun claim => { claim with status := .done } := by
  unfold deliverJob
  split_ifs
  · unfold onRepairDelivered
    split
    · exact .inl rfl
    · rename_i id claim isFound
      split_ifs with skipped
      · exact .inl rfl
      · rw [Bool.or_eq_true, not_or] at skipped
        have isOpen : claim.status = .opened := by simpa using skipped.1
        split
        · exact .inl rfl
        · rename_i job isJob
          exact .inr ⟨id, claim, job, findByRepairJob_get isFound, isOpen, isJob, rfl⟩
  · exact .inl rfl

theorem deliverJob_step (jobId : ℕ) (actorUserId : Option ℕ) (s : System) : Step s (deliverJob jobId actorUserId s) := by
  rcases deliverJob_cases jobId actorUserId s with same | ⟨id, claim, job, there, isOpen, -, is⟩
  · rw [same]
    exact quiet_self s
  · rw [is]
    exact .repaired id claim _ there isOpen (repairCost_first job actorUserId id claim) rfl

theorem notFaulty_step {itemId : ℕ} {item : DefectiveItem} (there : s.defective.get itemId = some item) (held : item.status = .held)
    (done : notFaulty outside itemId item actor s = .ok s') : Step s s' := by
  obtain ⟨restocked, -, done⟩ := bind_ok done
  obtain ⟨shop, -, rfl⟩ := map_ok done
  exact .notFaulty itemId item restocked.2 _ there held ⟨rfl, rfl, rfl, round_zero_lbp, rfl⟩ rfl

theorem resolveDefective_step {itemId : ℕ} {outcome : DefectiveOutcome}
    (done : resolveDefective outside itemId outcome actor s = .ok s') : Step s s' := by
  obtain ⟨-, -, done⟩ := bind_ok done
  obtain ⟨item, there, done⟩ := bind_ok done
  obtain ⟨_, isHeld, done⟩ := bind_ok done
  have held : item.status = .held := by simpa using check_ok isHeld
  cases outcome with
  | writeOff =>
    cases done
    exact .writtenOff itemId item (found_ok there) held rfl
  | notFaulty => exact notFaulty_step (found_ok there) held done

theorem createSupplierReturn_step {itemId : ℕ} {supplierId : Option ℕ} {notes : Option String}
    (done : createSupplierReturn itemId supplierId notes actor s = .ok s') : Step s s' := by
  obtain ⟨-, -, done⟩ := bind_ok done
  obtain ⟨item, there, done⟩ := bind_ok done
  obtain ⟨_, isHeld, done⟩ := bind_ok done
  have held : item.status = .held := by simpa using check_ok isHeld
  obtain ⟨supplier, -, done⟩ := bind_ok done
  obtain ⟨-, -, rfl⟩ := map_ok done
  exact .sent itemId item _ (found_ok there) held rfl rfl rfl ⟨rfl, rfl⟩ rfl

theorem credit_nonneg {credit : Option ℚ} (nonneg : ∀ x ∈ credit, 0 ≤ x) : 0 ≤ credit.getD 0 := by
  cases credit with
  | none => exact le_rfl
  | some x => exact nonneg x rfl

theorem closeReturn_returns {r : ℕ} {ret : SupplierReturn} (there : s.returns.get r = some ret) (sent : ret.status = .sent)
    (close : SupplierReturn → SupplierReturn) : s.closeReturn r close = { s with returns := s.returns.update r close } := by
  unfold System.closeReturn Table.updateIf
  rw [there]
  dsimp only
  rw [if_pos (decide_eq_true sent)]

theorem closeSupplierReturn_step {data : CloseSupplierReturnData} (done : closeSupplierReturn outside data actor s = .ok s') :
    Step s s' := by
  obtain ⟨-, -, done⟩ := bind_ok done
  obtain ⟨ret, there, done⟩ := bind_ok done
  obtain ⟨_, isSent, done⟩ := bind_ok done
  have sent : ret.status = .sent := by simpa using check_ok isSent
  obtain ⟨item, itemThere, done⟩ := bind_ok done
  have returned := found_ok there
  cases outcome : data.outcome with
  | credited =>
    rw [outcome] at done
    cases done
    refine .credited data.supplierReturnId ret _ _ _ returned sent ?_ ?_ ?_ ?_ ?_ (closeReturn_returns (by exact returned) sent _)
    · exact ⟨rfl, rfl, rfl⟩
    · rfl
    · exact ⟨credit_nonneg fun x entered => (data.usdWithin x entered).1, credit_nonneg fun x entered => (data.lbpWithin x entered).1⟩
    · exact ⟨rfl, rfl, rfl⟩
    · exact ⟨rfl, rfl, rfl, rfl, rfl⟩
  | replaced =>
    rw [outcome] at done
    obtain ⟨restocked, -, done⟩ := bind_ok done
    obtain ⟨shop, -, rfl⟩ := map_ok done
    refine .replaced data.supplierReturnId ret item restocked.2 _ _ returned sent (found_ok itemThere) ?_ ?_ ?_ ?_
      (closeReturn_returns (by exact returned) sent _)
    · exact ⟨rfl, rfl, rfl⟩
    · rfl
    · exact ⟨rfl, rfl⟩
    · exact ⟨rfl, rfl, rfl, round_zero_lbp, rfl⟩
  | rejected =>
    rw [outcome] at done
    cases done
    refine .rejected data.supplierReturnId ret _ returned sent ?_ ?_ ?_ (closeReturn_returns (by exact returned) sent _)
    · exact ⟨rfl, rfl, rfl⟩
    · rfl
    · exact ⟨rfl, rfl⟩

end

/-! The void of a claim. -/

section
variable {outside : Outside} {claimId userId : ℕ} {s s' : System}

/-- What the undo of a claim's returns leaves. The holding of another item is as it was. -/
structure Undone (claimId userId : ℕ) (s : System) (undone : List (ℕ × SupplierReturn)) (s' : System) : Prop where
  claims : s'.claims = s.claims
  returns : s'.returns = s.returns
  costs : s'.costs = s.costs
  ledger : s'.ledger = s.ledger.insertAll ((undone.filter fun ret => ret.2.status = .credited).map (creditBack claimId userId))
  size : s'.defective.nextId = s.defective.nextId
  other : ∀ i, (∀ ret ∈ undone, ret.2.defectiveItemId ≠ i) → s'.defective.get i = s.defective.get i
  ofClaim : ∀ i, (s'.defective.get i).map (·.warrantyClaimId) = (s.defective.get i).map (·.warrantyClaimId)

theorem takeBackReplacement_ok {ret : ℕ × SupplierReturn} (done : takeBackReplacement ret s = .ok s') : s' = s.withShop s'.shop := by
  unfold takeBackReplacement at done
  split_ifs at done
  · split at done
    · cases done
      rfl
    · obtain ⟨-, -, rfl⟩ := map_ok done
      rfl
  · cases done
    rfl

theorem undoReturn_ok {ret : ℕ × SupplierReturn} (done : undoReturn claimId userId s ret = .ok s') :
    Undone claimId userId s [ret] s' := by
  obtain ⟨taken, isTaken, rfl⟩ := map_ok done
  have is := takeBackReplacement_ok isTaken
  have ledger : (takeBackCredit claimId userId ret s).ledger =
      s.ledger.insertAll (([ret].filter fun ret => ret.2.status = .credited).map (creditBack claimId userId)) := by
    unfold takeBackCredit
    rw [List.filter_singleton]
    split_ifs with credited
    · rw [decide_eq_true credited]
      rfl
    · rw [decide_eq_false credited]
      rfl
  have rest : (takeBackCredit claimId userId ret s).claims = s.claims ∧ (takeBackCredit claimId userId ret s).returns = s.returns ∧
      (takeBackCredit claimId userId ret s).costs = s.costs ∧ (takeBackCredit claimId userId ret s).defective = s.defective := by
    unfold takeBackCredit
    split_ifs <;> exact ⟨rfl, rfl, rfl, rfl⟩
  obtain ⟨claims, returns, costs, defective⟩ := rest
  rw [is]
  split_ifs
  · refine ⟨claims, returns, costs, ledger, ?_, fun i notIt => ?_, fun i => ?_⟩
    · exact (Table.nextId_update _ _ _).trans (congrArg Table.nextId defective)
    · refine (Table.get_update_of_ne _ _ ?_).trans (congrArg (·.get i) defective)
      exact (notIt ret List.mem_cons_self).symm
    · unfold System.setStatus System.withShop
      dsimp only
      rw [defective]
      by_cases isIt : i = ret.2.defectiveItemId
      · rw [isIt, Table.get_update_self, Option.map_map]
        rfl
      · rw [Table.get_update_of_ne _ _ isIt]
  · exact ⟨claims, returns, costs, ledger, congrArg Table.nextId defective, fun i _ => congrArg (·.get i) defective, fun i => by
      rw [← defective]
      rfl⟩

theorem undoReturns_ok {returns : List (ℕ × SupplierReturn)} (done : each (undoReturn claimId userId) s returns = .ok s') :
    Undone claimId userId s returns s' := by
  induction returns generalizing s with
  | nil =>
    cases done
    exact ⟨rfl, rfl, rfl, rfl, rfl, fun _ _ => rfl, fun _ => rfl⟩
  | cons ret rest ih =>
    obtain ⟨next, first, others⟩ := each_cons done
    have one := undoReturn_ok first
    have more := ih others
    refine ⟨more.claims.trans one.claims, more.returns.trans one.returns, more.costs.trans one.costs, ?_, more.size.trans one.size,
      fun i notIt => ?_, fun i => (more.ofClaim i).trans (one.ofClaim i)⟩
    · have split : ((ret :: rest).filter fun ret => ret.2.status = .credited).map (creditBack claimId userId) =
          ([ret].filter fun ret => ret.2.status = .credited).map (creditBack claimId userId) ++
            (rest.filter fun ret => ret.2.status = .credited).map (creditBack claimId userId) := by
        rw [← List.map_append, ← List.filter_append]
        rfl
      rw [more.ledger, one.ledger, split]
      exact List.foldl_append.symm
    · obtain ⟨notFirst, notRest⟩ := List.forall_mem_cons.mp notIt
      exact (more.other i notRest).trans (one.other i fun ret' member => List.mem_singleton.mp member ▸ notFirst)

theorem removeRestocks_ok {batches : List ℕ} (done : each removeRestock s batches = .ok s') : s' = s.withShop s'.shop := by
  induction batches generalizing s with
  | nil =>
    cases done
    rfl
  | cons batchId rest ih =>
    obtain ⟨next, first, others⟩ := each_cons done
    obtain ⟨-, -, rfl⟩ := map_ok first
    rw [ih others]
    rfl

theorem undoReplacement_ok {claim : WarrantyClaim} (done : undoReplacement claimId claim s = .ok s') : s' = s.withShop s'.shop := by
  unfold undoReplacement at done
  split at done
  · cases done
    rfl
  · obtain ⟨shop, -, rfl⟩ := map_ok done
    rfl

theorem undoAction_ok {claim : WarrantyClaim} (done : undoAction outside claimId claim s = .ok s') : s' = s.withShop s'.shop := by
  unfold undoAction at done
  cases action : claim.action with
  | refund =>
    rw [action] at done
    cases refund : claim.refundTransactionId with
    | none =>
      rw [refund] at done
      cases done
      rfl
    | some refundId =>
      rw [refund] at done
      obtain ⟨shop, -, rfl⟩ := map_ok done
      rfl
  | replace =>
    rw [action] at done
    exact undoReplacement_ok done
  | repair =>
    rw [action] at done
    cases done
    rfl

/-- Nothing of a live claim is taken back yet. -/
theorem standingCosts_live (linked : Linked s) {claim : WarrantyClaim} (there : s.claims.get claimId = some claim)
    (live : claim.status ≠ .voided) : standingCosts s.costs claimId = costRowsForClaim s.costs claimId := by
  have none' : ∀ row ∈ costRowsForClaim s.costs claimId, row.2.reversesId = none := by
    intro row member
    obtain ⟨isRow, isOf⟩ := Table.mem_select.mp (show (row.1, row.2) ∈ costRowsForClaim s.costs claimId from member)
    exact linked.standing row.1 row.2 claim isRow (by rw [of_decide_eq_true isOf, there]) live
  unfold standingCosts
  dsimp only
  have nothing : (costRowsForClaim s.costs claimId).filterMap (·.2.reversesId) = [] :=
    List.filterMap_eq_nil_iff.mpr none'
  rw [nothing]
  exact List.filter_eq_self.mpr fun row member => by simp [none' row member]

theorem bookCosts (inputs : List CostInput) (s : System) :
    inputs.foldl System.bookCost s = { s with costs := s.costs.insertAll (inputs.map CostInput.row) } := by
  induction inputs generalizing s with
  | nil => rfl
  | cons input rest ih => exact ih _

theorem reverseCosts_eq (s : System) : reverseCosts claimId userId s =
    { s with costs := s.costs.insertAll ((standingCosts s.costs claimId).map fun row => (reversalOf claimId userId row).row) } := by
  unfold reverseCosts
  rw [← List.foldl_map, bookCosts, List.map_map]
  rfl

theorem findByClaim_some {defective : Table DefectiveItem} {i : ℕ} {item : DefectiveItem}
    (isFound : findByClaim defective claimId = some (i, item)) : defective.get i = some item ∧ item.warrantyClaimId = claimId := by
  obtain ⟨there, isOf⟩ := Table.mem_select.mp (List.mem_of_head? isFound)
  exact ⟨there, of_decide_eq_true isOf⟩

theorem findByClaim_none {defective : Table DefectiveItem} (none' : findByClaim defective claimId = none) {i : ℕ}
    {item : DefectiveItem} (there : defective.get i = some item) : item.warrantyClaimId ≠ claimId := by
  intro isOf
  have member : (i, item) ∈ defective.select fun item => item.warrantyClaimId = claimId :=
    Table.mem_select.mpr ⟨there, decide_eq_true isOf⟩
  rw [findByClaim, List.head?_eq_none_iff] at none'
  rw [none'] at member
  cases member

/-- Nothing of the claim is left in the holding. -/
theorem holding_voided (linked : Linked s) (undone : Undone claimId userId s (listForClaim s.returns claimId) s') :
    (findByClaim s'.defective claimId).elim s'.defective (fun item => s'.defective.delete item.1) =
      s.defective.deleteWhere fun item => item.warrantyClaimId = claimId := by
  have onlyOf : ∀ i item, s.defective.get i = some item → item.warrantyClaimId ≠ claimId →
      ∀ ret ∈ listForClaim s.returns claimId, ret.2.defectiveItemId ≠ i := by
    intro i item there notOf ret member isIt
    obtain ⟨isRow, isOf⟩ := Table.mem_select.mp (show (ret.1, ret.2) ∈ listForClaim s.returns claimId from member)
    obtain ⟨own, ownThere, ofClaim⟩ := linked.returns ret.1 ret.2 isRow
    rw [isIt, there] at ownThere
    cases ownThere
    exact notOf (ofClaim.trans (of_decide_eq_true isOf))
  have kept : ∀ i, (∀ item, s.defective.get i = some item → item.warrantyClaimId ≠ claimId) →
      s'.defective.get i = (s.defective.deleteWhere fun item => item.warrantyClaimId = claimId).get i := by
    intro i notOf
    rw [Table.get_deleteWhere]
    cases there : s.defective.get i with
    | none => exact Option.map_eq_none_iff.mp (by rw [undone.ofClaim i, there]; rfl)
    | some item =>
      rw [undone.other i (onlyOf i item there (notOf item there)), there, Option.filter_some, decide_eq_false (notOf item there)]
      rfl
  have before {i : ℕ} {item : DefectiveItem} (there : s'.defective.get i = some item) :
      ∃ own, s.defective.get i = some own ∧ own.warrantyClaimId = item.warrantyClaimId := by
    have same := undone.ofClaim i
    rw [there, Option.map_some] at same
    exact Option.map_eq_some_iff.mp same.symm
  cases isFound : findByClaim s'.defective claimId with
  | none =>
    refine Table.ext_get (undone.size.trans (Table.nextId_deleteWhere _ _).symm) fun i => kept i fun item there => ?_
    have same := undone.ofClaim i
    rw [there, Option.map_some] at same
    obtain ⟨own, ownThere, ofClaim⟩ := Option.map_eq_some_iff.mp same
    rw [← ofClaim]
    exact findByClaim_none isFound ownThere
  | some found =>
    obtain ⟨i, item⟩ := found
    obtain ⟨there, isOf⟩ := findByClaim_some isFound
    obtain ⟨own, ownThere, ofClaim⟩ := before there
    refine Table.ext_get ?_ fun j => ?_
    · rw [Option.elim_some, Table.nextId_delete, Table.nextId_deleteWhere]
      exact undone.size
    · rw [Option.elim_some]
      dsimp only
      by_cases isIt : j = i
      · rw [isIt, Table.get_delete_self, Table.get_deleteWhere, ownThere, Option.filter_some, decide_eq_true (ofClaim.trans isOf)]
        rfl
      · rw [Table.get_delete_of_ne _ isIt]
        exact kept j fun other otherThere isOther =>
          isIt (linked.oneItem j i other own otherThere ownThere (isOther.trans (ofClaim.trans isOf).symm))

/-- No row of the claim is left in the returns, whether it had any or not. -/
theorem returns_undone
    (done : (if (listForClaim s.returns claimId).isEmpty then .ok s
      else undoSupplierReturns claimId userId (listForClaim s.returns claimId) s) = Except.ok s') :
    ∃ mid, Undone claimId userId s (listForClaim s.returns claimId) mid ∧
      s' = { mid with returns := s.returns.deleteWhere fun ret => ret.warrantyClaimId = claimId, shop := s'.shop } := by
  split_ifs at done with none'
  · cases done
    rw [List.isEmpty_iff] at none'
    refine ⟨s, by rw [none']; exact ⟨rfl, rfl, rfl, rfl, rfl, fun _ _ => rfl, fun _ => rfl⟩, ?_⟩
    have same : (s.returns.deleteWhere fun ret => ret.warrantyClaimId = claimId) = s.returns := by
      refine Table.ext_get (Table.nextId_deleteWhere _ _) fun r => ?_
      rw [Table.get_deleteWhere]
      cases there : s.returns.get r with
      | none => rfl
      | some ret =>
        have notOf : ret.warrantyClaimId ≠ claimId := fun isOf => by
          have member : (r, ret) ∈ listForClaim s.returns claimId := Table.mem_select.mpr ⟨there, decide_eq_true isOf⟩
          rw [none'] at member
          cases member
        rw [Option.filter_some, decide_eq_false notOf]
        rfl
    rw [same]
  · obtain ⟨mid, isMid, removed⟩ := bind_ok done
    have undone := undoReturns_ok isMid
    refine ⟨mid, undone, ?_⟩
    rw [removeRestocks_ok removed, ← undone.returns]
    rfl

theorem voidClaim_step {actor : WarrantyActor} (linked : Linked s) (done : voidClaim outside claimId actor s = .ok s') : Step s s' := by
  obtain ⟨-, -, done⟩ := bind_ok done
  obtain ⟨claim, there, done⟩ := bind_ok done
  obtain ⟨_, notVoided, done⟩ := bind_ok done
  obtain ⟨_, noneSent, done⟩ := bind_ok done
  obtain ⟨undone, isUndone, done⟩ := bind_ok done
  obtain ⟨-, -, done⟩ := bind_ok done
  obtain ⟨reached, isReached, rfl⟩ := map_ok done
  have live : claim.status ≠ .voided := by simpa using check_ok notVoided
  obtain ⟨mid, left, isMid⟩ := returns_undone isUndone
  have holding : (findByClaim undone.defective claimId).elim undone.defective (fun item => undone.defective.delete item.1) =
      s.defective.deleteWhere fun item => item.warrantyClaimId = claimId := by
    have onMid := holding_voided linked left
    rw [isMid]
    exact onMid
  refine .voided claimId actor.userId claim (found_ok there) live (fun r ret isRow isOf isSent => ?_) ?_
  · have member : (r, ret) ∈ listForClaim s.returns claimId := Table.mem_select.mpr ⟨isRow, decide_eq_true isOf⟩
    have none' := List.any_eq_false.mp (check_ok noneSent) (r, ret) member
    exact none' (decide_eq_true isSent)
  · rw [reverseCosts_eq, undoAction_ok isReached]
    unfold markVoided System.changeClaim System.withShop
    dsimp only
    rw [holding, isMid]
    dsimp only
    rw [left.claims, left.costs, left.ledger, standingCosts_live linked (found_ok there) live]
    rfl

theorem exec_step (linked : Linked s) (event : Event) : Step s (exec s event) := by
  unfold exec
  refine leaves_invariant (quiet_self s) fun s' done => ?_
  cases event with
  | createClaim outside data actor => exact createClaim_step done
  | deliverJob jobId actorUserId =>
    cases done
    exact deliverJob_step jobId actorUserId s
  | resolveDefective outside itemId outcome actor => exact resolveDefective_step done
  | createSupplierReturn itemId supplierId notes actor => exact createSupplierReturn_step done
  | closeSupplierReturn outside data actor => exact closeSupplierReturn_step done
  | voidClaim outside claimId actor => exact voidClaim_step linked done
  | elsewhere change =>
    cases done
    exact .quiet rfl

end

end Liratek.Warranty.ClaimWrites
