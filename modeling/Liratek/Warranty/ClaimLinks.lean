import Liratek.Warranty.ClaimWrites

/-! The rows of claims name each other in the same way after every step. -/

namespace Liratek.Warranty.ClaimWrites
open Lib ClaimTables WarrantyClaims

section
variable {s : System}

theorem Linked.shop (linked : Linked s) (shop : Shop) : Linked (s.withShop shop) :=
  ⟨linked.items, linked.oneItem, linked.returns, linked.costs, linked.reversals, linked.reversed, linked.standing⟩

theorem Linked.ledger (linked : Linked s) (ledger : Table LedgerEntry) : Linked { s with ledger } :=
  ⟨linked.items, linked.oneItem, linked.returns, linked.costs, linked.reversals, linked.reversed, linked.standing⟩

theorem Linked.opened (linked : Linked s) (claim : WarrantyClaim) : Linked { s with claims := s.claims.insert claim } where
  items i item there := by
    obtain ⟨own, ownThere, done, action⟩ := linked.items i item there
    exact ⟨own, Table.get_insert_of_get ownThere, done, action⟩
  oneItem := linked.oneItem
  returns := linked.returns
  costs c row there := by
    obtain ⟨own, ownThere⟩ := linked.costs c row there
    exact ⟨own, Table.get_insert_of_get ownThere⟩
  reversals := linked.reversals
  reversed := linked.reversed
  standing c row own there ownThere := by
    obtain ⟨before, beforeThere⟩ := linked.costs c row there
    rw [Table.get_insert_of_get beforeThere] at ownThere
    exact linked.standing c row own there (beforeThere.trans ownThere)

/-- A claim that is live stays so. -/
theorem Linked.done (linked : Linked s) {id : ℕ} {claim : WarrantyClaim} (there : s.claims.get id = some claim)
    (live : claim.status ≠ .voided) : Linked { s with claims := s.claims.update id fun claim => { claim with status := .done } } where
  items i item itemThere := by
    obtain ⟨own, ownThere, done, action⟩ := linked.items i item itemThere
    refine ⟨_, Table.get_update_of_get ownThere id _, ?_, ?_⟩
    · split_ifs
      · rfl
      · exact done
    · split_ifs
      · exact action
      · exact action
  oneItem := linked.oneItem
  returns := linked.returns
  costs c row rowThere := by
    obtain ⟨own, ownThere⟩ := linked.costs c row rowThere
    exact ⟨_, Table.get_update_of_get ownThere id _⟩
  reversals := linked.reversals
  reversed := linked.reversed
  standing c row own rowThere ownThere notVoided := by
    obtain ⟨before, beforeThere⟩ := linked.costs c row rowThere
    rw [Table.get_update_of_get beforeThere] at ownThere
    cases ownThere
    refine linked.standing c row before rowThere beforeThere fun voided => ?_
    split_ifs at notVoided with isIt
    · rw [← isIt, there] at beforeThere
      cases beforeThere
      exact live voided
    · exact notVoided voided

theorem Linked.takenIn (linked : Linked s) {claimId : ℕ} {claim : WarrantyClaim} {item : DefectiveItem}
    (there : s.claims.get claimId = some claim) (status : claim.status = .done) (action : claim.action ≠ .repair)
    (isOf : item.warrantyClaimId = claimId) (first : ∀ i other, s.defective.get i = some other → other.warrantyClaimId ≠ claimId) :
    Linked { s with defective := s.defective.insert item } where
  items i other otherThere := by
    rcases Table.get_insert otherThere with old | ⟨-, rfl⟩
    · exact linked.items i other old
    · exact ⟨claim, by rw [isOf, there], status, action⟩
  oneItem i j one two oneThere twoThere same := by
    rcases Table.get_insert oneThere with oneOld | ⟨rfl, rfl⟩ <;> rcases Table.get_insert twoThere with twoOld | ⟨rfl, rfl⟩
    · exact linked.oneItem i j one two oneOld twoOld same
    · exact absurd (same.trans isOf) (first i one oneOld)
    · exact absurd (same.symm.trans isOf) (first j two twoOld)
    · rfl
  returns r ret retThere := by
    obtain ⟨own, ownThere, ofClaim⟩ := linked.returns r ret retThere
    exact ⟨own, Table.get_insert_of_get ownThere, ofClaim⟩
  costs := linked.costs
  reversals := linked.reversals
  reversed := linked.reversed
  standing := linked.standing

theorem Linked.cost (linked : Linked s) {row : WarrantyCost} {claim : WarrantyClaim} (there : s.claims.get row.claimId = some claim)
    (kind : row.kind ≠ .reversal) (notReversal : row.reversesId = none) : Linked { s with costs := s.costs.insert row } where
  items := linked.items
  oneItem := linked.oneItem
  returns := linked.returns
  costs c other otherThere := by
    rcases Table.get_insert otherThere with old | ⟨-, rfl⟩
    · exact linked.costs c other old
    · exact ⟨claim, there⟩
  reversals c other otherThere := by
    rcases Table.get_insert otherThere with old | ⟨-, rfl⟩
    · exact linked.reversals c other old
    · exact ⟨fun some' => absurd notReversal some', fun is => absurd is kind⟩
  reversed c other r otherThere reverses := by
    rcases Table.get_insert otherThere with old | ⟨-, rfl⟩
    · obtain ⟨original, originalThere, facts⟩ := linked.reversed c other r old reverses
      exact ⟨original, Table.get_insert_of_get originalThere, facts⟩
    · rw [notReversal] at reverses
      cases reverses
  standing c other own otherThere ownThere live := by
    rcases Table.get_insert otherThere with old | ⟨-, rfl⟩
    · exact linked.standing c other own old ownThere live
    · exact notReversal

theorem statusOf_keeps {defective : Table DefectiveItem} {i j : ℕ} {status : DefectiveItemStatus} {batch : Option ℕ}
    {item : DefectiveItem} (there : (defective.update i (statusOf status batch)).get j = some item) :
    ∃ before, defective.get j = some before ∧ before.warrantyClaimId = item.warrantyClaimId := by
  have keeps : ∀ row, (statusOf status batch row).warrantyClaimId = row.warrantyClaimId := fun _ => rfl
  exact Table.get_update_keeps (·.warrantyClaimId) keeps there

theorem Linked.holding (linked : Linked s) (i : ℕ) (status : DefectiveItemStatus) (batch : Option ℕ) :
    Linked { s with defective := s.defective.update i (statusOf status batch) } where
  items j item itemThere := by
    obtain ⟨before, beforeThere, ofClaim⟩ := statusOf_keeps itemThere
    rw [← ofClaim]
    exact linked.items j before beforeThere
  oneItem j k one two oneThere twoThere same := by
    obtain ⟨oneBefore, oneOld, ofOne⟩ := statusOf_keeps oneThere
    obtain ⟨twoBefore, twoOld, ofTwo⟩ := statusOf_keeps twoThere
    exact linked.oneItem j k oneBefore twoBefore oneOld twoOld (ofOne.trans (same.trans ofTwo.symm))
  returns r ret retThere := by
    obtain ⟨own, ownThere, ofClaim⟩ := linked.returns r ret retThere
    refine ⟨_, Table.get_update_of_get ownThere i _, ?_⟩
    split_ifs
    · exact ofClaim
    · exact ofClaim
  costs := linked.costs
  reversals := linked.reversals
  reversed := linked.reversed
  standing := linked.standing

theorem Linked.sent (linked : Linked s) {ret : SupplierReturn} {item : DefectiveItem}
    (there : s.defective.get ret.defectiveItemId = some item) (ofClaim : item.warrantyClaimId = ret.warrantyClaimId) :
    Linked { s with returns := s.returns.insert ret } where
  items := linked.items
  oneItem := linked.oneItem
  returns r other otherThere := by
    rcases Table.get_insert otherThere with old | ⟨-, rfl⟩
    · exact linked.returns r other old
    · exact ⟨item, there, ofClaim⟩
  costs := linked.costs
  reversals := linked.reversals
  reversed := linked.reversed
  standing := linked.standing

theorem Linked.closed (linked : Linked s) {r : ℕ} {ret : SupplierReturn} {close : SupplierReturn → SupplierReturn}
    (there : s.returns.get r = some ret) (sameItem : (close ret).defectiveItemId = ret.defectiveItemId)
    (sameClaim : (close ret).warrantyClaimId = ret.warrantyClaimId) : Linked { s with returns := s.returns.update r close } where
  items := linked.items
  oneItem := linked.oneItem
  returns r' other otherThere := by
    by_cases isIt : r' = r
    · rw [isIt, Table.get_update_self, there] at otherThere
      cases otherThere
      rw [sameItem, sameClaim]
      exact linked.returns r ret there
    · rw [Table.get_update_of_ne _ _ isIt] at otherThere
      exact linked.returns r' other otherThere
  costs := linked.costs
  reversals := linked.reversals
  reversed := linked.reversed
  standing := linked.standing

/-- Each row that a void adds takes back a row of the claim. -/
theorem reversal_mem {claimId userId : ℕ} {row : WarrantyCost}
    (member : row ∈ reversalRows s.costs claimId userId) :
    ∃ r original, s.costs.get r = some original ∧ original.claimId = claimId ∧ row = (reversalOf claimId userId (r, original)).row := by
  obtain ⟨⟨r, original⟩, listed, rfl⟩ := List.mem_map.mp member
  obtain ⟨there, isOf⟩ := Table.mem_select.mp listed
  exact ⟨r, original, there, of_decide_eq_true isOf, rfl⟩

/-- A row of a live claim takes nothing back. -/
theorem Linked.plain (linked : Linked s) {c : ℕ} {row : WarrantyCost} {claim : WarrantyClaim} (there : s.costs.get c = some row)
    (owner : s.claims.get row.claimId = some claim) (live : claim.status ≠ .voided) : row.kind ≠ .reversal := by
  intro reversal
  exact (linked.reversals c row there).mpr reversal (linked.standing c row claim there owner live)

/-- A void takes the rows of the claim and of no other. -/
theorem Linked.voided (linked : Linked s) {id : ℕ} (userId : ℕ) {claim : WarrantyClaim} (there : s.claims.get id = some claim)
    (live : claim.status ≠ .voided) : Linked
      { s with
        claims := s.claims.update id fun claim => { claim with status := .voided }
        defective := s.defective.deleteWhere fun item => item.warrantyClaimId = id
        returns := s.returns.deleteWhere fun ret => ret.warrantyClaimId = id
        costs := s.costs.insertAll (reversalRows s.costs id userId) } where
  items i item itemThere := by
    obtain ⟨old, notOf⟩ := Table.get_deleteWhere_some.mp itemThere
    obtain ⟨own, ownThere, done⟩ := linked.items i item old
    exact ⟨own, (Table.get_update_of_ne _ _ (of_decide_eq_false notOf)).trans ownThere, done⟩
  oneItem i j one two oneThere twoThere same :=
    linked.oneItem i j one two (Table.get_deleteWhere_some.mp oneThere).1 (Table.get_deleteWhere_some.mp twoThere).1 same
  returns r ret retThere := by
    obtain ⟨old, notOf⟩ := Table.get_deleteWhere_some.mp retThere
    obtain ⟨own, ownThere, ofClaim⟩ := linked.returns r ret old
    refine ⟨own, Table.get_deleteWhere_some.mpr ⟨ownThere, ?_⟩, ofClaim⟩
    rw [ofClaim]
    exact notOf
  costs c row rowThere := by
    rcases Table.get_insertAll rowThere with old | ⟨added, -⟩
    · obtain ⟨own, ownThere⟩ := linked.costs c row old
      exact ⟨_, Table.get_update_of_get ownThere id _⟩
    · obtain ⟨r, original, -, -, rfl⟩ := reversal_mem added
      exact ⟨_, Table.get_update_of_get there id _⟩
  reversals c row rowThere := by
    rcases Table.get_insertAll rowThere with old | ⟨added, -⟩
    · exact linked.reversals c row old
    · obtain ⟨r, original, -, -, rfl⟩ := reversal_mem added
      exact ⟨fun _ => rfl, fun _ => Option.some_ne_none r⟩
  reversed c row r rowThere reverses := by
    rcases Table.get_insertAll rowThere with old | ⟨added, -⟩
    · obtain ⟨original, originalThere, facts⟩ := linked.reversed c row r old reverses
      exact ⟨original, Table.get_insertAll_of_get originalThere, facts⟩
    · obtain ⟨r', original, originalThere, isOf, rfl⟩ := reversal_mem added
      cases reverses
      exact ⟨original, Table.get_insertAll_of_get originalThere, isOf,
        linked.plain originalThere (by rw [isOf, there]) live⟩
  standing c row own rowThere ownThere notVoided := by
    by_cases isIt : row.claimId = id
    · rw [isIt, Table.get_update_self, there] at ownThere
      cases ownThere
      exact absurd rfl notVoided
    · rw [Table.get_update_of_ne _ _ isIt] at ownThere
      rcases Table.get_insertAll rowThere with old | ⟨added, -⟩
      · exact linked.standing c row own old ownThere notVoided
      · obtain ⟨r', original, -, -, rfl⟩ := reversal_mem added
        exact absurd rfl isIt

theorem linked_step {s' : System} (linked : Linked s) (step : Step s s') : Linked s' := by
  cases step with
  | quiet is =>
    rw [is]
    exact linked.shop _
  | takenIn claim item cost status action taken first refunded is =>
    have there := Table.get_insert_self s.claims claim
    have newClaim : ∀ i other, s.defective.get i = some other → other.warrantyClaimId ≠ s.claims.nextId := by
      intro i other otherThere
      obtain ⟨own, ownThere, -⟩ := linked.items i other otherThere
      exact (Table.get_lt ownThere).ne
    have withItem := (linked.opened claim).takenIn there status action taken.claimId newClaim
    have withCost := withItem.cost (by rw [first.claimId]; exact there) (by rw [first.kind]; exact WarrantyCostKind.noConfusion)
      first.reversesId
    rw [is]
    exact withCost.shop _
  | repairOpened claim status action is =>
    rw [is]
    exact (linked.opened claim).shop _
  | repaired id claim cost there status first is =>
    have live : claim.status ≠ .voided := by rw [status]; exact WarrantyClaimStatus.noConfusion
    have withCost := (linked.done there live).cost (by rw [first.claimId]; exact Table.get_update_of_get there id _)
      (by rw [first.kind]; exact WarrantyCostKind.noConfusion) first.reversesId
    rw [is]
    exact withCost.shop _
  | writtenOff i item there held is =>
    rw [is]
    exact (linked.holding i _ _).shop _
  | notFaulty i item batch cost there held recovered is =>
    obtain ⟨claim, owner, -⟩ := linked.items i item there
    have withCost := (linked.holding i .returnedToStock batch).cost (by rw [recovered.claimId]; exact owner)
      (by rw [recovered.kind]; exact WarrantyCostKind.noConfusion) recovered.reversesId
    rw [is]
    exact withCost.shop _
  | sent i item ret there held isOf claimId status nothing is =>
    rw [is]
    exact ((linked.sent (by rw [isOf]; exact there) claimId.symm).holding i _ _).shop _
  | credited r ret close entry cost there wasSent same status nonneg owed row is =>
    obtain ⟨item, itemThere, ofClaim⟩ := linked.returns r ret there
    obtain ⟨claim, owner, -⟩ := linked.items _ item itemThere
    have closed := ((linked.closed there same.1 same.2.1).holding ret.defectiveItemId .sentToSupplier none).ledger
      (s.ledger.insert entry)
    have withCost := closed.cost (by rw [row.1, ← ofClaim]; exact owner) (by rw [row.2.1]; exact WarrantyCostKind.noConfusion)
      row.2.2.1
    rw [is]
    exact withCost.shop _
  | replaced r ret item batch close cost there wasSent itemThere same status nothing recovered is =>
    obtain ⟨own, ownThere, ofClaim⟩ := linked.returns r ret there
    obtain ⟨claim, owner, -⟩ := linked.items _ own ownThere
    have closed := (linked.closed there same.1 same.2.1).holding ret.defectiveItemId .returnedToStock (some batch)
    have withCost := closed.cost (by rw [recovered.claimId, ← ofClaim]; exact owner)
      (by rw [recovered.kind]; exact WarrantyCostKind.noConfusion) recovered.reversesId
    rw [is]
    exact withCost.shop _
  | rejected r ret close there wasSent same status nothing is =>
    rw [is]
    exact ((linked.closed there same.1 same.2.1).holding _ _ _).shop _
  | voided id userId claim there notVoided noneSent is =>
    rw [is]
    exact ((linked.voided userId there notVoided).ledger _).shop _

end

end Liratek.Warranty.ClaimWrites
