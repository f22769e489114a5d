import Liratek.Warranty.ClaimSums

/-! What each claim has cost, and what suppliers owe for its returns. -/

namespace Liratek.Warranty.ClaimOwing
open Lib Lib.Calls Lib.Rounding Stock.Batches ClaimTables WarrantyClaims ClaimWrites ClaimCosts ClaimSums

/-- A claim costs once, and one that is void costs nothing. -/
structure Owing (claims : Table WarrantyClaim) (costs : Table WarrantyCost) (defective : Table DefectiveItem) : Prop where
  opened : ∀ id claim, claims.get id = some claim → claim.status = .opened → claim.action = .repair
  nothing : ∀ of : ℕ → Bool, (∀ id claim, of id = true → claims.get id = some claim → claim.status = .voided) →
    ∀ kind, booked costs of kind = 0
  once : ∀ id claim, claims.get id = some claim → claim.status = .done → (booked costs (· = id) .cost).2 = (0, 1)
  free : ∀ id claim, claims.get id = some claim → claim.status ≠ .done → booked costs (· = id) .cost = 0
  refunded : ∀ i item claim, defective.get i = some item → claims.get item.warrantyClaimId = some claim → claim.action = .refund →
    (booked costs (· = item.warrantyClaimId) .cost).1 = roundTo 100 (-item.unitCostUsd)
  hasItem : ∀ id claim, claims.get id = some claim → claim.status = .done → claim.action ≠ .repair →
    ∃ i item, defective.get i = some item ∧ item.warrantyClaimId = id

section
variable {s : System}

/-- No row is booked for a claim that is not there yet. -/
theorem booked_new (linked : Linked s) (kind : WarrantyCostKind) : booked s.costs (· = s.claims.nextId) kind = 0 := by
  refine Table.total_eq_zero fun c row there => ?_
  obtain ⟨claim, owner⟩ := linked.costs c row there
  exact if_neg (by simp [(Table.get_lt owner).ne])

theorem FirstCost.plain {claimId : ℕ} {row : WarrantyCost} (first : FirstCost claimId row) : row.kind ≠ .reversal := by
  rw [first.kind]
  exact WarrantyCostKind.noConfusion

/-- The first row of a claim, and the rows of the others. -/
theorem booked_first (linked : Linked s) {claimId : ℕ} {row : WarrantyCost} (first : FirstCost claimId row) :
    booked (s.costs.insert row) (· = claimId) .cost = booked s.costs (· = claimId) .cost + (row.profitUsd, 0, 1) := by
  rw [booked_insert linked (FirstCost.plain first), first.claimId, first.kind]
  congr 1
  rw [if_pos (by simp)]
  unfold worth
  rw [first.lbp, if_neg (FirstCost.plain first)]

theorem booked_first_other (linked : Linked s) {claimId : ℕ} {row : WarrantyCost} (first : FirstCost claimId row) {id : ℕ}
    (other : claimId ≠ id) : booked (s.costs.insert row) (· = id) .cost = booked s.costs (· = id) .cost :=
  booked_insert_elsewhere linked (FirstCost.plain first) (by rw [first.claimId]; exact decide_eq_false other)

/-- A row of a claim that stands is none of a claim that is void. -/
theorem nothing_insert (linked : Linked s) (owing : Owing s.claims s.costs s.defective) {row : WarrantyCost} (plain : row.kind ≠ .reversal)
    {claims : Table WarrantyClaim} {claim : WarrantyClaim} (owner : claims.get row.claimId = some claim) (live : claim.status ≠ .voided)
    (stands : ∀ id before, s.claims.get id = some before → ∃ after, claims.get id = some after ∧
      (after.status = .voided → before.status = .voided)) :
    ∀ of : ℕ → Bool, (∀ id claim, of id = true → claims.get id = some claim → claim.status = .voided) →
      ∀ kind, booked (s.costs.insert row) of kind = 0 := by
  intro of allVoid kind
  have elsewhere : of row.claimId = false := by
    by_contra isOf
    exact live (allVoid row.claimId claim (eq_true_of_ne_false isOf) owner)
  rw [booked_insert_elsewhere linked plain elsewhere]
  refine owing.nothing of (fun id before isOf there => ?_) kind
  obtain ⟨after, afterThere, keeps⟩ := stands id before there
  exact keeps (allVoid id after isOf afterThere)

theorem Owing.takenIn (linked : Linked s) (owing : Owing s.claims s.costs s.defective) {claim : WarrantyClaim} {item : DefectiveItem}
    {cost : WarrantyCost} (status : claim.status = .done) (taken : TakenIn s.claims.nextId item)
    (first : FirstCost s.claims.nextId cost)
    (refunded : claim.action = .refund → cost.profitUsd = roundTo 100 (-item.unitCostUsd)) :
    Owing (s.claims.insert claim) (s.costs.insert cost) (s.defective.insert item) where
  opened id other there isOpen := by
    rcases Table.get_insert there with old | ⟨-, rfl⟩
    · exact owing.opened id other old isOpen
    · rw [status] at isOpen
      cases isOpen
  nothing := nothing_insert linked owing (FirstCost.plain first) (by rw [first.claimId]; exact Table.get_insert_self _ _)
    (by rw [status]; exact WarrantyClaimStatus.noConfusion) fun id before there => ⟨before, Table.get_insert_of_get there, fun is => is⟩
  once id other there done := by
    rcases Table.get_insert there with old | ⟨rfl, rfl⟩
    · rw [booked_first_other linked first (Table.get_lt old).ne']
      exact owing.once id other old done
    · rw [booked_first linked first, booked_new linked, zero_add]
  free id other there notDone := by
    rcases Table.get_insert there with old | ⟨-, rfl⟩
    · rw [booked_first_other linked first (Table.get_lt old).ne']
      exact owing.free id other old notDone
    · exact absurd status notDone
  refunded i own other ownThere there isRefund := by
    rcases Table.get_insert ownThere with old | ⟨-, rfl⟩
    · obtain ⟨before, beforeThere, -⟩ := linked.items i own old
      rw [Table.get_insert_of_get beforeThere] at there
      rw [booked_first_other linked first (Table.get_lt beforeThere).ne']
      exact owing.refunded i own other old (beforeThere.trans there) isRefund
    · rw [taken.claimId] at there ⊢
      rw [Table.get_insert_self] at there
      cases there
      rw [booked_first linked first, booked_new linked, zero_add]
      exact refunded isRefund
  hasItem id other there done notRepair := by
    rcases Table.get_insert there with old | ⟨rfl, -⟩
    · obtain ⟨i, own, ownThere, isOf⟩ := owing.hasItem id other old done notRepair
      exact ⟨i, own, Table.get_insert_of_get ownThere, isOf⟩
    · exact ⟨s.defective.nextId, item, Table.get_insert_self _ _, taken.claimId⟩

theorem Owing.repairOpened (linked : Linked s) (owing : Owing s.claims s.costs s.defective) {claim : WarrantyClaim}
    (status : claim.status = .opened) (action : claim.action = .repair) : Owing (s.claims.insert claim) s.costs s.defective where
  opened id other there isOpen := by
    rcases Table.get_insert there with old | ⟨-, rfl⟩
    · exact owing.opened id other old isOpen
    · exact action
  nothing of allVoid := owing.nothing of fun id before isOf there => allVoid id before isOf (Table.get_insert_of_get there)
  once id other there done := by
    rcases Table.get_insert there with old | ⟨-, rfl⟩
    · exact owing.once id other old done
    · rw [status] at done
      cases done
  free id other there notDone := by
    rcases Table.get_insert there with old | ⟨rfl, -⟩
    · exact owing.free id other old notDone
    · exact booked_new linked .cost
  refunded i own other ownThere there isRefund := by
    obtain ⟨before, beforeThere, -⟩ := linked.items i own ownThere
    rw [Table.get_insert_of_get beforeThere] at there
    exact owing.refunded i own other ownThere (beforeThere.trans there) isRefund
  hasItem id other there done notRepair := by
    rcases Table.get_insert there with old | ⟨-, rfl⟩
    · exact owing.hasItem id other old done notRepair
    · exact absurd action notRepair

theorem Owing.repaired (linked : Linked s) (owing : Owing s.claims s.costs s.defective) {id : ℕ} {claim : WarrantyClaim}
    {cost : WarrantyCost} (there : s.claims.get id = some claim) (status : claim.status = .opened) (first : FirstCost id cost) :
    Owing (s.claims.update id fun claim => { claim with status := .done }) (s.costs.insert cost) s.defective where
  opened id' other otherThere isOpen := by
    by_cases isIt : id' = id
    · rw [isIt, Table.get_update_self, there] at otherThere
      cases otherThere
      cases isOpen
    · rw [Table.get_update_of_ne _ _ isIt] at otherThere
      exact owing.opened id' other otherThere isOpen
  nothing := by
    refine nothing_insert linked owing (FirstCost.plain first) (by rw [first.claimId, Table.get_update_self, there]; rfl)
      WarrantyClaimStatus.noConfusion fun id' before beforeThere => ⟨_, Table.get_update_of_get beforeThere id _, fun isVoid => ?_⟩
    by_cases isIt : id = id'
    · rw [if_pos isIt] at isVoid
      cases isVoid
    · rwa [if_neg isIt] at isVoid
  once id' other otherThere done := by
    by_cases isIt : id' = id
    · have before := owing.free id claim there (by rw [status]; exact WarrantyClaimStatus.noConfusion)
      rw [isIt, booked_first linked first, before, zero_add]
    · rw [Table.get_update_of_ne _ _ isIt] at otherThere
      rw [booked_first_other linked first (Ne.symm isIt)]
      exact owing.once id' other otherThere done
  free id' other otherThere notDone := by
    by_cases isIt : id' = id
    · rw [isIt, Table.get_update_self, there] at otherThere
      cases otherThere
      exact absurd rfl notDone
    · rw [Table.get_update_of_ne _ _ isIt] at otherThere
      rw [booked_first_other linked first (Ne.symm isIt)]
      exact owing.free id' other otherThere notDone
  refunded i own other ownThere otherThere isRefund := by
    obtain ⟨before, beforeThere, done, -⟩ := linked.items i own ownThere
    have notIt : own.warrantyClaimId ≠ id := by
      intro isIt
      rw [isIt, there] at beforeThere
      cases beforeThere
      rw [status] at done
      cases done
    rw [Table.get_update_of_ne _ _ notIt] at otherThere
    rw [booked_first_other linked first notIt.symm]
    exact owing.refunded i own other ownThere otherThere isRefund
  hasItem id' other otherThere done notRepair := by
    by_cases isIt : id' = id
    · rw [isIt, Table.get_update_self, there] at otherThere
      cases otherThere
      exact absurd (owing.opened id claim there status) notRepair
    · rw [Table.get_update_of_ne _ _ isIt] at otherThere
      exact owing.hasItem id' other otherThere done notRepair

/-- A row that takes back some of what a claim has cost. -/
theorem Owing.recovered (linked : Linked s) (owing : Owing s.claims s.costs s.defective) {row : WarrantyCost} {claim : WarrantyClaim}
    (plain : row.kind ≠ .reversal) (notCost : row.kind ≠ .cost) (owner : s.claims.get row.claimId = some claim)
    (live : claim.status ≠ .voided) : Owing s.claims (s.costs.insert row) s.defective where
  opened := owing.opened
  nothing := nothing_insert linked owing plain owner live fun id before there => ⟨before, there, fun is => is⟩
  once id other there done := by
    rw [booked_insert_other linked plain notCost]
    exact owing.once id other there done
  free id other there notDone := by
    rw [booked_insert_other linked plain notCost]
    exact owing.free id other there notDone
  refunded i own other ownThere there isRefund := by
    rw [booked_insert_other linked plain notCost]
    exact owing.refunded i own other ownThere there isRefund
  hasItem := owing.hasItem

theorem Owing.moved {claims : Table WarrantyClaim} {costs : Table WarrantyCost} {defective : Table DefectiveItem}
    (owing : Owing claims costs defective) (i : ℕ) (status : DefectiveItemStatus) (batch : Option ℕ) :
    Owing claims costs (defective.update i (statusOf status batch)) where
  opened := owing.opened
  nothing := owing.nothing
  once := owing.once
  free := owing.free
  refunded j own other ownThere there isRefund := by
    have keeps : ∀ item, ((statusOf status batch item).warrantyClaimId, (statusOf status batch item).unitCostUsd) =
        (item.warrantyClaimId, item.unitCostUsd) := fun _ => rfl
    obtain ⟨before, beforeThere, same⟩ := Table.get_update_keeps (fun item => (item.warrantyClaimId, item.unitCostUsd)) keeps ownThere
    obtain ⟨sameClaim, sameCost⟩ := Prod.mk.inj same
    rw [← sameClaim] at there ⊢
    rw [← sameCost]
    exact owing.refunded j before other beforeThere there isRefund
  hasItem id other there done notRepair := by
    obtain ⟨j, own, ownThere, isOf⟩ := owing.hasItem id other there done notRepair
    refine ⟨j, _, Table.get_update_of_get ownThere i _, ?_⟩
    split_ifs
    · exact isOf
    · exact isOf

theorem Owing.voided (linked : Linked s) (owing : Owing s.claims s.costs s.defective)
    (whole : ∀ c row, s.costs.get c = some row → WholeRow row) {id : ℕ} (userId : ℕ) {claim : WarrantyClaim}
    (there : s.claims.get id = some claim) (live : claim.status ≠ .voided) :
    Owing (s.claims.update id fun claim => { claim with status := .voided }) (s.costs.insertAll (reversalRows s.costs id userId))
      (s.defective.deleteWhere fun item => item.warrantyClaimId = id) := by
  have others : ∀ {id' : ℕ}, id' ≠ id → ∀ kind, booked (s.costs.insertAll (reversalRows s.costs id userId)) (· = id') kind =
      booked s.costs (· = id') kind := fun notIt kind => booked_voided_other linked whole userId there live notIt kind
  refine ⟨fun id' other otherThere isOpen => ?_, fun of allVoid kind => ?_, fun id' other otherThere done => ?_,
    fun id' other otherThere notDone => ?_, fun i own other ownThere otherThere isRefund => ?_,
    fun id' other otherThere done notRepair => ?_⟩
  · by_cases isIt : id' = id
    · rw [isIt, Table.get_update_self, there] at otherThere
      cases otherThere
      cases isOpen
    · rw [Table.get_update_of_ne _ _ isIt] at otherThere
      exact owing.opened id' other otherThere isOpen
  · rw [booked_voided linked whole userId there live]
    refine owing.nothing _ (fun id' before isOf beforeThere => ?_) kind
    obtain ⟨isOf, notIt⟩ := Bool.and_eq_true_iff.mp isOf
    exact allVoid id' before isOf ((Table.get_update_of_ne _ _ (of_decide_eq_true notIt)).trans beforeThere)
  · by_cases isIt : id' = id
    · rw [isIt, Table.get_update_self, there] at otherThere
      cases otherThere
      cases done
    · rw [Table.get_update_of_ne _ _ isIt] at otherThere
      rw [others isIt]
      exact owing.once id' other otherThere done
  · by_cases isIt : id' = id
    · have noRows : (fun c => decide (c = id') && decide (c ≠ id)) = fun _ => false := by
        funext c
        simp [isIt]
      rw [booked_voided linked whole userId there live, noRows, booked_none]
    · rw [Table.get_update_of_ne _ _ isIt] at otherThere
      rw [others isIt]
      exact owing.free id' other otherThere notDone
  · obtain ⟨old, notOf⟩ := Table.get_deleteWhere_some.mp ownThere
    have notIt : own.warrantyClaimId ≠ id := of_decide_eq_false notOf
    rw [Table.get_update_of_ne _ _ notIt] at otherThere
    rw [others notIt]
    exact owing.refunded i own other old otherThere isRefund
  · by_cases isIt : id' = id
    · rw [isIt, Table.get_update_self, there] at otherThere
      cases otherThere
      cases done
    · rw [Table.get_update_of_ne _ _ isIt] at otherThere
      obtain ⟨i, own, ownThere, isOf⟩ := owing.hasItem id' other otherThere done notRepair
      exact ⟨i, own, Table.get_deleteWhere_some.mpr ⟨ownThere, decide_eq_false (by rwa [isOf])⟩, isOf⟩

/-! What a claim has cost stays. -/

/-- A later state: a void is for good, and until then a claim that is done has cost what it did. -/
def Later (s s' : System) : Prop :=
  ∀ id claim, s.claims.get id = some claim → ∃ claim', s'.claims.get id = some claim' ∧
    (claim.status = .voided → claim'.status = .voided) ∧
    (claim.status = .done → claim'.status ≠ .voided →
      claim'.status = .done ∧ booked s'.costs (· = id) .cost = booked s.costs (· = id) .cost)

theorem Later.refl (s : System) : Later s s :=
  fun _ claim there => ⟨claim, there, fun isVoid => isVoid, fun done _ => ⟨done, rfl⟩⟩

theorem Later.trans {a b c : System} (first : Later a b) (second : Later b c) : Later a c := by
  intro id claim there
  obtain ⟨claim', there', isVoid, costs⟩ := first id claim there
  obtain ⟨claim'', there'', isVoid', costs'⟩ := second id claim' there'
  refine ⟨claim'', there'', fun before => isVoid' (isVoid before), fun done live => ?_⟩
  obtain ⟨done', same⟩ := costs done fun wasVoid => live (isVoid' wasVoid)
  obtain ⟨done'', same'⟩ := costs' done' live
  exact ⟨done'', same'.trans same⟩

/-- Where the claims are as they were, and no cost is booked. -/
theorem later_of_same {s' : System} (claims : s'.claims = s.claims)
    (costs : ∀ id, booked s'.costs (· = id) .cost = booked s.costs (· = id) .cost) : Later s s' := by
  intro id claim there
  exact ⟨claim, by rw [claims, there], fun isVoid => isVoid, fun done _ => ⟨done, costs id⟩⟩

theorem later_step {s' : System} (linked : Linked s) (whole : ∀ c row, s.costs.get c = some row → WholeRow row) (step : Step s s') :
    Later s s' := by
  have recoveredCosts {row : WarrantyCost} {kind : WarrantyCostKind} (isKind : row.kind = kind) (plain : kind ≠ .reversal)
      (notCost : kind ≠ .cost) (id : ℕ) : booked (s.costs.insert row) (· = id) .cost = booked s.costs (· = id) .cost :=
    booked_insert_other linked (isKind ▸ plain) (isKind ▸ notCost)
  cases step with
  | quiet is =>
    rw [is]
    exact Later.refl s
  | takenIn claim item cost status action taken first refunded is =>
    intro id other there
    rw [is]
    exact ⟨other, Table.get_insert_of_get there, fun isVoid => isVoid, fun done _ =>
      ⟨done, booked_first_other linked first (Table.get_lt there).ne'⟩⟩
  | repairOpened claim status action is =>
    intro id other there
    rw [is]
    exact ⟨other, Table.get_insert_of_get there, fun isVoid => isVoid, fun done _ => ⟨done, rfl⟩⟩
  | repaired repairedId claim cost there status first is =>
    intro id other otherThere
    rw [is]
    refine ⟨_, Table.get_update_of_get otherThere repairedId _, ?_⟩
    by_cases isIt : repairedId = id
    · rw [← isIt, there] at otherThere
      cases otherThere
      rw [status]
      exact ⟨(fun impossible => by cases impossible), fun impossible => by cases impossible⟩
    · rw [if_neg isIt]
      exact ⟨fun isVoid => isVoid, fun done _ => ⟨done, booked_first_other linked first isIt⟩⟩
  | writtenOff i item there held is | sent i item ret there held isOf claimId status nothing is
  | rejected r ret close there wasSent same status nothing is =>
    rw [is]
    exact later_of_same rfl fun _ => rfl
  | notFaulty i item batch cost there held recovered is =>
    rw [is]
    exact later_of_same rfl (recoveredCosts recovered.kind WarrantyCostKind.noConfusion WarrantyCostKind.noConfusion)
  | credited r ret close entry cost there wasSent same status nonneg owed row is =>
    rw [is]
    exact later_of_same rfl (recoveredCosts row.2.1 WarrantyCostKind.noConfusion WarrantyCostKind.noConfusion)
  | replaced r ret item batch close cost there wasSent itemThere same status nothing recovered is =>
    rw [is]
    exact later_of_same rfl (recoveredCosts recovered.kind WarrantyCostKind.noConfusion WarrantyCostKind.noConfusion)
  | voided voidedId userId claim there notVoided noneSent is =>
    intro id other otherThere
    rw [is]
    refine ⟨_, Table.get_update_of_get otherThere voidedId _, ?_⟩
    by_cases isIt : voidedId = id
    · rw [if_pos isIt]
      exact ⟨fun _ => rfl, fun _ live => absurd rfl live⟩
    · rw [if_neg isIt]
      exact ⟨fun isVoid => isVoid, fun done _ =>
        ⟨done, booked_voided_other linked whole userId there notVoided (Ne.symm isIt) .cost⟩⟩

/-! What a replacement and a repair cost. -/

/-- What the batches charge for one more unit of the product of a line. -/
def replacementCost (outside : Outside) (s : System) (line : SaleLine) (product : Product) : ℚ :=
  (consume (s.shop.takeOneFromStock line.productId).1.book line.productId 1
    { owners := { warrantyClaimId := some s.claims.nextId }, reason := .adjustment, fallbackUnitCostUsd := product.costPriceUsd
      now := outside.now }).2.totalCostUsd

theorem replaceClaim_costs {outside : Outside} {data : CreateWarrantyClaimData} {actor : WarrantyActor} {unitOverride : Option String}
    {line : SaleLine} {row : WarrantyClaim} {s' : System} (linked : Linked s)
    (done : replaceClaim outside data actor unitOverride line s.claims.nextId { s with claims := s.claims.insert row } = .ok s') :
    ∃ product, s.shop.products.get line.productId = some product ∧
      booked s'.costs (· = s.claims.nextId) .cost = (roundTo 100 (-replacementCost outside s line product), 0, 1) := by
  obtain ⟨product, isProduct, done⟩ := bind_ok done
  obtain ⟨-, -, done⟩ := bind_ok done
  obtain ⟨-, -, done⟩ := bind_ok done
  obtain ⟨given, isGiven, rfl⟩ := map_ok done
  obtain ⟨link, -, is⟩ := giveReplacement_ok isGiven
  have costs : given.costs = s.costs := by rw [is]; rfl
  refine ⟨product, found_ok isProduct, ?_⟩
  have first := claimCost_first line actor s.claims.nextId (-replacementCost outside s line product) ("replacement " ++ product.name)
  have booked' := booked_first linked first
  rw [booked_new linked, zero_add] at booked'
  rw [← costs] at booked'
  exact booked'

theorem createClaim_costs {outside : Outside} {data : CreateWarrantyClaimData} {actor : WarrantyActor} {s' : System} (linked : Linked s)
    (done : createClaim outside data actor s = .ok s') (action : data.action = .replace) :
    ∃ saleItemId line product, data.saleItemId = some saleItemId ∧ s.shop.lines.get saleItemId = some line ∧
      s.shop.products.get line.productId = some product ∧
      booked s'.costs (· = s.claims.nextId) .cost = (roundTo 100 (-replacementCost outside s line product), 0, 1) := by
  obtain ⟨-, -, done⟩ := bind_ok done
  cases isJob : data.maintenanceId with
  | some maintenanceId =>
    rw [isJob] at done
    obtain ⟨_, repair, -⟩ := bind_ok done
    have isRepair : data.action = .repair := by simpa using check_ok repair
    rw [action] at isRepair
    cases isRepair
  | none =>
    rw [isJob] at done
    cases isLine : data.saleItemId with
    | none =>
      rw [isLine] at done
      cases done
    | some saleItemId =>
      rw [isLine] at done
      obtain ⟨line, there, done⟩ := bind_ok done
      obtain ⟨unitOverride, -, done⟩ := bind_ok done
      obtain ⟨-, -, done⟩ := bind_ok done
      obtain ⟨-, -, done⟩ := bind_ok done
      dsimp only at done
      rw [action] at done
      obtain ⟨product, isProduct, costs⟩ := replaceClaim_costs linked done
      exact ⟨saleItemId, line, product, rfl, found_ok there, isProduct, costs⟩

theorem deliverJob_costs {jobId id : ℕ} {actorUserId : Option ℕ} {claim claim' : WarrantyClaim} (linked : Linked s)
    (owing : Owing s.claims s.costs s.defective) (there : s.claims.get id = some claim) (wasOpen : claim.status = .opened)
    (after : (deliverJob jobId actorUserId s).claims.get id = some claim') (done : claim'.status = .done) :
    ∃ job, s.shop.jobs.get jobId = some job ∧
      booked (deliverJob jobId actorUserId s).costs (· = id) .cost = (roundTo 100 (-(job.costUsd + job.partsCostUsd)), 0, 1) := by
  have changed : s.claims.get id ≠ some claim' := by
    intro same
    cases there.symm.trans same
    rw [wasOpen] at done
    cases done
  rcases deliverJob_cases jobId actorUserId s with same | ⟨found, foundClaim, job, foundThere, -, isJob, is⟩
  · rw [same] at after
    exact absurd after changed
  · rw [is] at after ⊢
    have isIt : id = found := by
      by_contra other
      exact changed ((Table.get_update_of_ne _ _ other).symm.trans after)
    rw [← isIt] at foundThere ⊢
    refine ⟨job, isJob, ?_⟩
    have first := repairCost_first job actorUserId id foundClaim
    have nothing := owing.free id claim there (by rw [wasOpen]; exact WarrantyClaimStatus.noConfusion)
    exact (booked_first linked first).trans (by rw [nothing, zero_add]; rfl)

theorem owing_step {s' : System} (linked : Linked s) (whole : ∀ c row, s.costs.get c = some row → WholeRow row)
    (owing : Owing s.claims s.costs s.defective) (step : Step s s') : Owing s'.claims s'.costs s'.defective := by
  have notVoid : ∀ {claim : WarrantyClaim}, claim.status = .done → claim.status ≠ .voided := by
    intro claim done
    rw [done]
    exact WarrantyClaimStatus.noConfusion
  cases step with
  | quiet is =>
    rw [is]
    exact owing
  | takenIn claim item cost status action taken first refunded is =>
    rw [is]
    exact owing.takenIn linked status taken first refunded
  | repairOpened claim status action is =>
    rw [is]
    exact owing.repairOpened linked status action
  | repaired id claim cost there status first is =>
    rw [is]
    exact owing.repaired linked there status first
  | writtenOff i item there held is | sent i item ret there held isOf claimId status nothing is =>
    rw [is]
    exact owing.moved i _ _
  | rejected r ret close there wasSent same status nothing is =>
    rw [is]
    exact owing.moved ret.defectiveItemId _ _
  | notFaulty i item batch cost there held recovered is =>
    obtain ⟨claim, owner, done, -⟩ := linked.items i item there
    rw [is]
    exact (owing.recovered linked (by rw [recovered.kind]; exact WarrantyCostKind.noConfusion)
      (by rw [recovered.kind]; exact WarrantyCostKind.noConfusion) (by rw [recovered.claimId, owner]) (notVoid done)).moved i _ _
  | credited r ret close entry cost there wasSent same status nonneg owed row is =>
    obtain ⟨item, itemThere, ofClaim⟩ := linked.returns r ret there
    obtain ⟨claim, owner, done, -⟩ := linked.items _ item itemThere
    rw [is]
    exact (owing.recovered linked (by rw [row.2.1]; exact WarrantyCostKind.noConfusion)
      (by rw [row.2.1]; exact WarrantyCostKind.noConfusion) (by rw [row.1, ← ofClaim, owner]) (notVoid done)).moved _ _ _
  | replaced r ret item batch close cost there wasSent itemThere same status nothing recovered is =>
    obtain ⟨own, ownThere, ofClaim⟩ := linked.returns r ret there
    obtain ⟨claim, owner, done, -⟩ := linked.items _ own ownThere
    rw [is]
    exact (owing.recovered linked (by rw [recovered.kind]; exact WarrantyCostKind.noConfusion)
      (by rw [recovered.kind]; exact WarrantyCostKind.noConfusion) (by rw [recovered.claimId, ← ofClaim, owner]) (notVoid done)).moved
      _ _ _
  | voided id userId claim there notVoided noneSent is =>
    rw [is]
    exact owing.voided linked whole userId there notVoided

end

/-! The balance of a supplier. -/

def owedOf (supplierId : ℕ) (entry : LedgerEntry) : ℚ × ℚ :=
  if entry.supplierId = supplierId then (entry.amountUsd, entry.amountLbp) else 0

def creditedBy (supplierId : ℕ) (ret : SupplierReturn) : ℚ × ℚ :=
  if ret.supplierId = supplierId ∧ ret.status = .credited then (ret.creditUsd, ret.creditLbp) else 0

/-- Every supplier is owed less by the credits that stand. -/
structure Balanced (ledger : Table LedgerEntry) (returns : Table SupplierReturn) : Prop where
  balance : ∀ supplierId, ledger.total (owedOf supplierId) = -returns.total (creditedBy supplierId)
  nonneg : ∀ r ret, returns.get r = some ret → 0 ≤ ret.creditUsd ∧ 0 ≤ ret.creditLbp

section
variable {ledger : Table LedgerEntry} {returns : Table SupplierReturn} {supplierId : ℕ} {ret : SupplierReturn}

theorem creditedBy_not (not : ret.status ≠ .credited) : creditedBy supplierId ret = 0 :=
  if_neg fun is => not is.2

theorem Balanced.closed (balanced : Balanced ledger returns) {r : ℕ} {close : SupplierReturn → SupplierReturn}
    (there : returns.get r = some ret) (wasSent : ret.status = .sent) (status : (close ret).status ≠ .credited)
    (nothing : (close ret).creditUsd = 0 ∧ (close ret).creditLbp = 0) : Balanced ledger (returns.update r close) where
  balance supplierId := by
    rw [balanced.balance, Table.total_update there, creditedBy_not status,
      creditedBy_not (by rw [wasSent]; exact SupplierReturnStatus.noConfusion), sub_zero, add_zero]
  nonneg r' other otherThere := by
    by_cases isIt : r' = r
    · rw [isIt, Table.get_update_self, there] at otherThere
      cases otherThere
      exact ⟨nothing.1.ge, nothing.2.ge⟩
    · rw [Table.get_update_of_ne _ _ isIt] at otherThere
      exact balanced.nonneg r' other otherThere

theorem Balanced.credited (balanced : Balanced ledger returns) {r : ℕ} {close : SupplierReturn → SupplierReturn} {entry : LedgerEntry}
    (there : returns.get r = some ret) (wasSent : ret.status = .sent) (sameSupplier : (close ret).supplierId = ret.supplierId)
    (status : (close ret).status = .credited) (nonneg : 0 ≤ (close ret).creditUsd ∧ 0 ≤ (close ret).creditLbp)
    (owed : entry.supplierId = ret.supplierId ∧ entry.amountUsd = -(close ret).creditUsd ∧ entry.amountLbp = -(close ret).creditLbp) :
    Balanced (ledger.insert entry) (returns.update r close) where
  balance supplierId := by
    have entered : owedOf supplierId entry = -creditedBy supplierId (close ret) := by
      unfold owedOf creditedBy
      rw [owed.1, owed.2.1, owed.2.2, status, sameSupplier]
      by_cases isIt : ret.supplierId = supplierId
      · rw [if_pos isIt, if_pos ⟨isIt, rfl⟩]
        rfl
      · rw [if_neg isIt, if_neg fun is => isIt is.1, neg_zero]
    have before : creditedBy supplierId ret = 0 := creditedBy_not (by rw [wasSent]; exact SupplierReturnStatus.noConfusion)
    rw [Table.total_insert, entered, balanced.balance, Table.total_update there, before, sub_zero, neg_add]
  nonneg r' other otherThere := by
    by_cases isIt : r' = r
    · rw [isIt, Table.get_update_self, there] at otherThere
      cases otherThere
      exact nonneg
    · rw [Table.get_update_of_ne _ _ isIt] at otherThere
      exact balanced.nonneg r' other otherThere

theorem Balanced.voided (balanced : Balanced ledger returns) (id userId : ℕ) :
    Balanced (ledger.insertAll (((listForClaim returns id).filter fun ret => ret.2.status = .credited).map (creditBack id userId)))
      (returns.deleteWhere fun ret => ret.warrantyClaimId = id) where
  balance supplierId := by
    have back : ((((listForClaim returns id).filter fun ret => ret.2.status = .credited).map (creditBack id userId)).map
        (owedOf supplierId)).sum = returns.total fun ret => if ret.warrantyClaimId = id then creditedBy supplierId ret else 0 := by
      have each : ∀ row ∈ listForClaim returns id, (if row.2.status = .credited then owedOf supplierId (creditBack id userId row) else 0) =
          creditedBy supplierId row.2 := by
        rintro ⟨r, row⟩ member
        obtain ⟨usd, lbp⟩ := balanced.nonneg r row (Table.mem_select.mp member).1
        unfold creditedBy owedOf creditBack
        dsimp only
        rw [abs_of_nonneg usd, abs_of_nonneg lbp]
        by_cases isCredited : row.status = .credited
        · by_cases isIt : row.supplierId = supplierId
          · rw [if_pos isCredited, if_pos isIt, if_pos ⟨isIt, isCredited⟩]
          · rw [if_pos isCredited, if_neg isIt, if_neg fun is => isIt is.1]
        · rw [if_neg isCredited, if_neg fun is => isCredited is.2]
      have selected := Table.sum_select returns (fun ret => ret.warrantyClaimId = id) (creditedBy supplierId)
      have filtered := Table.sum_filter_ite (listForClaim returns id) (fun row => row.2.status = .credited)
        fun row => owedOf supplierId (creditBack id userId row)
      simp only [decide_eq_true_eq] at selected filtered
      rw [List.map_map, ← selected]
      exact filtered.symm.trans (congrArg List.sum (List.map_congr_left each))
    have kept : (returns.deleteWhere fun ret => ret.warrantyClaimId = id).total (creditedBy supplierId) +
        (returns.total fun ret => if ret.warrantyClaimId = id then creditedBy supplierId ret else 0) =
          returns.total (creditedBy supplierId) := by
      rw [Table.total_deleteWhere_ite, ← Table.total_add]
      refine Table.total_congr fun r ret _ => ?_
      by_cases isIt : ret.warrantyClaimId = id
      · simp [isIt]
      · simp [isIt]
    rw [Table.total_insertAll, back, balanced.balance, ← kept]
    abel
  nonneg r ret isRow := balanced.nonneg r ret (Table.get_deleteWhere_some.mp isRow).1

end

theorem balanced_step {s s' : System} (balanced : Balanced s.ledger s.returns) (step : Step s s') : Balanced s'.ledger s'.returns := by
  cases step with
  | quiet is | takenIn claim item cost status action taken first refunded is | repairOpened claim status action is
  | repaired id claim cost there status first is | writtenOff i item there held is
  | notFaulty i item batch cost there held recovered is =>
    rw [is]
    exact balanced
  | sent i item ret there held isOf claimId status nothing is =>
    rw [is]
    refine ⟨fun supplierId => ?_, fun r other otherThere => ?_⟩
    · rw [Table.total_insert, creditedBy_not (by rw [status]; exact SupplierReturnStatus.noConfusion), add_zero]
      exact balanced.balance supplierId
    · rcases Table.get_insert otherThere with old | ⟨-, rfl⟩
      · exact balanced.nonneg r other old
      · exact ⟨nothing.1.ge, nothing.2.ge⟩
  | credited r ret close entry cost there wasSent same status nonneg owed row is =>
    rw [is]
    exact balanced.credited there wasSent same.2.2 status nonneg owed
  | replaced r ret item batch close cost there wasSent itemThere same status nothing row is
  | rejected r ret close there wasSent same status nothing is =>
    rw [is]
    exact balanced.closed there wasSent (by rw [status]; exact SupplierReturnStatus.noConfusion) nothing
  | voided id userId claim there notVoided noneSent is =>
    rw [is]
    exact balanced.voided id userId

end Liratek.Warranty.ClaimOwing
