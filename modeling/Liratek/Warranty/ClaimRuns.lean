import Liratek.Lib.Runs
import Liratek.Warranty.ClaimOwing

/-! What the claims come to, after any run of calls. -/

namespace Liratek.Warranty.ClaimRuns
open Lib Lib.Runs Lib.Rounding ClaimTables WarrantyClaims ClaimWrites ClaimCosts ClaimStages ClaimSums ClaimOwing

/-- What holds of the rows of claims before and after every call. -/
structure Books (s : System) : Prop where
  linked : Linked s
  staged : Staged s.defective s.returns
  summed : Summed s.costs s.returns s.defective
  owing : Owing s.claims s.costs s.defective
  balanced : Balanced s.ledger s.returns

theorem books_start (shop : Shop) : Books { shop } := by
  have empty : ∀ {α : Type} {i : ℕ} {row : α}, ({} : Table α).get i ≠ some row := by
    intro α i row there
    rw [Table.get_empty] at there
    cases there
  exact
    { linked := ⟨fun _ _ there => absurd there empty, fun _ _ _ _ there => absurd there empty, fun _ _ there => absurd there empty,
        fun _ _ there => absurd there empty, fun _ _ there => absurd there empty, fun _ _ _ there => absurd there empty,
        fun _ _ _ there => absurd there empty⟩
      staged := ⟨fun _ _ _ there => absurd there empty, fun _ _ _ _ there => absurd there empty, fun _ _ there => absurd there empty⟩
      summed := ⟨fun _ _ there => absurd there empty, fun _ => rfl, fun _ => rfl, fun _ => add_zero 0⟩
      owing := ⟨fun _ _ there => absurd there empty, fun _ _ _ => rfl, fun _ _ there => absurd there empty,
        fun _ _ there => absurd there empty, fun _ _ _ there => absurd there empty, fun _ _ there => absurd there empty⟩
      balanced := ⟨fun _ => neg_zero.symm, fun _ _ there => absurd there empty⟩ }

theorem books_exec {s : System} (books : Books s) (event : Event) : Books (exec s event) := by
  have step := exec_step books.linked event
  exact ⟨linked_step books.linked step, staged_step books.linked books.staged step,
    summed_step books.linked books.staged books.summed step, owing_step books.linked books.summed.whole books.owing step,
    balanced_step books.balanced step⟩

/-- What a claim has back for its faulty item. -/
structure Back (s : System) (id : ℕ) (found swapped credit : Worth) : Prop where
  notFaulty : booked s.costs (· = id) .notFaulty = found
  replaced : booked s.costs (· = id) .supplierReplaced = swapped
  credits : booked s.costs (· = id) .supplierCredit = credit

/-- The claim has nothing back, or the item once, or its credit once, by where the item is. -/
inductive Recovered (s : System) (id i : ℕ) (item : DefectiveItem) : Prop where
  | kept (here : item.status = .held ∨ item.status = .writtenOff) (back : Back s id 0 0 0)
  | away (r : ℕ) (ret : SupplierReturn) (there : s.returns.get r = some ret) (isOf : ret.defectiveItemId = i)
      (status : ret.status = .sent ∧ item.status = .sentToSupplier) (back : Back s id 0 0 0)
  | credited (r : ℕ) (ret : SupplierReturn) (there : s.returns.get r = some ret) (isOf : ret.defectiveItemId = i)
      (status : ret.status = .credited ∧ item.status = .sentToSupplier) (back : Back s id 0 0 (creditWorth ret))
  | replaced (r : ℕ) (ret : SupplierReturn) (there : s.returns.get r = some ret) (isOf : ret.defectiveItemId = i)
      (status : ret.status = .replaced ∧ item.status = .returnedToStock) (back : Back s id 0 (itemWorth item) 0)
  | notFaulty (status : item.status = .returnedToStock) (back : Back s id (itemWorth item) 0 0)

section
variable {s : System}

/-- The item of a claim is the only one of its sum. -/
theorem resold_only (linked : Linked s) {i : ℕ} {item : DefectiveItem} (there : s.defective.get i = some item) :
    s.defective.total (resoldOf (· = item.warrantyClaimId)) = if item.status = .returnedToStock then itemWorth item else 0 := by
  rw [Table.total_only there fun j other otherThere notIt => ?_]
  · simp [resoldOf]
  · have notOf : other.warrantyClaimId ≠ item.warrantyClaimId := fun same => notIt (linked.oneItem j i other item otherThere there same)
    simp [resoldOf, notOf]

/-- A return of the claim is one of its item. -/
theorem return_of (linked : Linked s) {i r : ℕ} {item : DefectiveItem} {ret : SupplierReturn} (there : s.defective.get i = some item)
    (isRow : s.returns.get r = some ret) (ofClaim : ret.warrantyClaimId = item.warrantyClaimId) : ret.defectiveItemId = i := by
  obtain ⟨own, ownThere, same⟩ := linked.returns r ret isRow
  exact linked.oneItem _ i own item ownThere there (same.trans ofClaim)

/-- Where every return of an item is rejected. -/
theorem back_rejected (books : Books s) {i : ℕ} {item : DefectiveItem} (there : s.defective.get i = some item)
    (rejected : ∀ r ret, s.returns.get r = some ret → ret.defectiveItemId = i → ret.status = .rejected) :
    Back s item.warrantyClaimId (if item.status = .returnedToStock then itemWorth item else 0) 0 0 := by
  have each : ∀ r ret, s.returns.get r = some ret → ret.warrantyClaimId = item.warrantyClaimId → ret.status = .rejected :=
    fun r ret isRow ofClaim => rejected r ret isRow (return_of books.linked there isRow ofClaim)
  have credits : s.returns.total (creditOf (· = item.warrantyClaimId)) = 0 := by
    refine Table.total_eq_zero fun r ret isRow => ?_
    by_cases ofClaim : ret.warrantyClaimId = item.warrantyClaimId
    · exact creditOf_not (by rw [each r ret isRow ofClaim]; exact SupplierReturnStatus.noConfusion)
    · simp [creditOf, ofClaim]
  have swapped : s.returns.total (replacedOf s.defective (· = item.warrantyClaimId)) = 0 := by
    refine Table.total_eq_zero fun r ret isRow => ?_
    by_cases ofClaim : ret.warrantyClaimId = item.warrantyClaimId
    · exact replacedOf_not (by rw [each r ret isRow ofClaim]; exact SupplierReturnStatus.noConfusion)
    · simp [replacedOf, ofClaim]
  have replaced := (books.summed.replaced _).trans swapped
  have resold := (books.summed.resold _).trans (resold_only books.linked there)
  rw [replaced, add_zero] at resold
  exact ⟨resold, replaced, (books.summed.credits _).trans credits⟩

/-- Where one return of an item is not rejected. -/
theorem back_standing (books : Books s) {i r : ℕ} {item : DefectiveItem} {ret : SupplierReturn} (there : s.defective.get i = some item)
    (isRow : s.returns.get r = some ret) (isOf : ret.defectiveItemId = i) (standing : ret.status ≠ .rejected) :
    Back s item.warrantyClaimId 0 (if ret.status = .replaced then itemWorth item else 0)
      (if ret.status = .credited then creditWorth ret else 0) := by
  obtain ⟨own, ownThere, ofClaim⟩ := books.linked.returns r ret isRow
  rw [isOf, there] at ownThere
  cases ownThere
  have others : ∀ r' other, s.returns.get r' = some other → r' ≠ r → other.warrantyClaimId = item.warrantyClaimId →
      other.status = .rejected := by
    intro r' other otherThere notIt same
    by_contra stands
    exact notIt (books.staged.one r' r other ret otherThere isRow stands standing
      ((return_of books.linked there otherThere same).trans isOf.symm))
  have credits : s.returns.total (creditOf (· = item.warrantyClaimId)) = if ret.status = .credited then creditWorth ret else 0 := by
    rw [Table.total_only isRow fun r' other otherThere notIt => ?_]
    · simp [creditOf, ofClaim]
    · by_cases same : other.warrantyClaimId = item.warrantyClaimId
      · exact creditOf_not (by rw [others r' other otherThere notIt same]; exact SupplierReturnStatus.noConfusion)
      · simp [creditOf, same]
  have swapped : s.returns.total (replacedOf s.defective (· = item.warrantyClaimId)) =
      if ret.status = .replaced then itemWorth item else 0 := by
    rw [Table.total_only isRow fun r' other otherThere notIt => ?_]
    · simp [replacedOf, ofClaim, isOf, there]
    · by_cases same : other.warrantyClaimId = item.warrantyClaimId
      · exact replacedOf_not (by rw [others r' other otherThere notIt same]; exact SupplierReturnStatus.noConfusion)
      · simp [replacedOf, same]
  have status := books.staged.status r ret item isRow standing (by rw [isOf, there])
  have replaced := (books.summed.replaced _).trans swapped
  have resold := (books.summed.resold _).trans (resold_only books.linked there)
  have same : (if item.status = .returnedToStock then itemWorth item else 0) = if ret.status = .replaced then itemWorth item else 0 := by
    rw [status]
    cases ret.status with
    | rejected | sent | credited | replaced => rfl
  rw [replaced, same] at resold
  exact ⟨add_eq_right.mp resold, replaced, (books.summed.credits _).trans credits⟩

theorem recovered_of (books : Books s) {i : ℕ} {item : DefectiveItem} (there : s.defective.get i = some item) :
    Recovered s item.warrantyClaimId i item := by
  by_cases some' : ∃ r ret, s.returns.get r = some ret ∧ ret.defectiveItemId = i ∧ ret.status ≠ .rejected
  · obtain ⟨r, ret, isRow, isOf, standing⟩ := some'
    have back := back_standing books there isRow isOf standing
    have status := books.staged.status r ret item isRow standing (by rw [isOf, there])
    cases returned : ret.status with
    | rejected => exact absurd returned standing
    | sent =>
      rw [returned] at back status
      exact .away r ret isRow isOf ⟨returned, status⟩ back
    | credited =>
      rw [returned] at back status
      exact .credited r ret isRow isOf ⟨returned, status⟩ back
    | replaced =>
      rw [returned] at back status
      exact .replaced r ret isRow isOf ⟨returned, status⟩ back
  · have rejected : ∀ r ret, s.returns.get r = some ret → ret.defectiveItemId = i → ret.status = .rejected := by
      intro r ret isRow isOf
      by_contra standing
      exact some' ⟨r, ret, isRow, isOf, standing⟩
    have back := back_rejected books there rejected
    cases status : item.status with
    | held =>
      rw [status] at back
      exact .kept (.inl status) back
    | writtenOff =>
      rw [status] at back
      exact .kept (.inr status) back
    | returnedToStock =>
      rw [status] at back
      exact .notFaulty status back
    | sentToSupplier =>
      obtain ⟨r, ret, isRow, isOf, stands⟩ := books.staged.away i item there status
      rw [rejected r ret isRow isOf] at stands
      rcases stands with stands | stands <;> cases stands

end

/-! The report. -/

/-- A row of a claim that is not void. -/
def stands (s : System) (row : WarrantyCost) : Bool :=
  (s.claims.get row.claimId).any (·.status ≠ .voided)

/-- What the claims that stand have cost, less what was not faulty after all. -/
def spent (s : System) : Worth :=
  s.costs.total fun row => if stands s row && (row.kind = .cost || row.kind = .notFaulty) then worth row else 0

/-- What suppliers have made good, as their returns say. -/
def recovered (s : System) : Worth :=
  s.returns.total fun ret => creditOf (fun _ => true) ret + replacedOf s.defective (fun _ => true) ret

section
variable {s : System}

/-- Only the rows of claims that stand count, each in its own kind. -/
theorem booked_stands (books : Books s) (kind : WarrantyCostKind) :
    booked s.costs (fun _ => true) kind = s.costs.total fun row => if stands s row && row.kind = kind then worth row else 0 := by
  have void := books.owing.nothing (fun id => (s.claims.get id).any (·.status = .voided)) (fun id claim isVoid there => by
    rw [there] at isVoid
    exact of_decide_eq_true isVoid) kind
  refine Eq.trans ?_ ((congrArg (_ + ·) void).trans (add_zero _))
  unfold booked
  rw [← Table.total_add]
  refine Table.total_congr fun c row there => ?_
  obtain ⟨claim, owner⟩ := books.linked.costs c row there
  by_cases isVoid : claim.status = .voided
  · simp [stands, owner, isVoid]
  · simp [stands, owner, isVoid, kindOf_plain (books.linked.plain there owner isVoid)]

/-- No row counts as a reversal. -/
theorem kindOf_counts (linked : Linked s) {c : ℕ} {row : WarrantyCost} (there : s.costs.get c = some row) :
    ∃ kind, kindOf s.costs row = some kind ∧ kind ≠ .reversal := by
  by_cases reversal : row.kind = .reversal
  · obtain ⟨r, reverses⟩ := Option.ne_none_iff_exists'.mp ((linked.reversals c row there).mpr reversal)
    obtain ⟨original, originalThere, -, plain⟩ := linked.reversed c row r there reverses
    refine ⟨original.kind, ?_, plain⟩
    rw [kindOf, if_pos reversal, reverses, Option.bind_some, originalThere]
    rfl
  · exact ⟨row.kind, kindOf_plain reversal, reversal⟩

theorem supplier_booked (books : Books s) :
    (s.costs.total fun row => if isSupplierKind (kindOf s.costs row) then worth row else 0) = recovered s := by
  have both : recovered s = booked s.costs (fun _ => true) .supplierCredit + booked s.costs (fun _ => true) .supplierReplaced := by
    rw [books.summed.credits, books.summed.replaced, recovered, Table.total_add]
  rw [both, booked, booked, ← Table.total_add]
  refine Table.total_congr fun c row there => ?_
  obtain ⟨kind, isKind, -⟩ := kindOf_counts books.linked there
  rw [isKind]
  cases kind <;> simp [isSupplierKind]

theorem net_booked (books : Books s) : s.costs.total worth = spent s + recovered s := by
  have both : spent s = booked s.costs (fun _ => true) .cost + booked s.costs (fun _ => true) .notFaulty := by
    rw [booked_stands books, booked_stands books, ← Table.total_add]
    refine Table.total_congr fun c row _ => ?_
    cases row.kind <;> simp
  rw [both, ← supplier_booked books, booked, booked, ← Table.total_add, ← Table.total_add]
  refine Table.total_congr fun c row there => ?_
  obtain ⟨kind, isKind, plain⟩ := kindOf_counts books.linked there
  rw [isKind]
  cases kind with
  | reversal => exact absurd rfl plain
  | cost | notFaulty | supplierCredit | supplierReplaced => simp [isSupplierKind]

/-- A total of whole rows is whole. -/
theorem whole_total (whole : ∀ c row, s.costs.get c = some row → WholeRow row) (counts : WarrantyCost → Bool) :
    Whole 100 (s.costs.total fun row => if counts row then worth row else 0).1 ∧
      ∃ lira : ℤ, (s.costs.total fun row => if counts row then worth row else 0).2.1 = lira := by
  refine Table.total_closed (P := fun x : Worth => Whole 100 x.1 ∧ ∃ lira : ℤ, x.2.1 = lira) ⟨whole_zero 100, 0, Int.cast_zero.symm⟩
    ?_ fun c row there => ?_
  · rintro x y ⟨usd, lira, isLira⟩ ⟨usd', lira', isLira'⟩
    exact ⟨usd.add usd', lira + lira', by rw [Prod.snd_add, Prod.fst_add, isLira, isLira', Int.cast_add]⟩
  · split_ifs
    · exact ⟨(whole c row there).usd, (whole c row there).lbp⟩
    · exact ⟨whole_zero 100, 0, Int.cast_zero.symm⟩

theorem report_right (books : Books s) :
    (claimsReport s).grossCostUsd = -(spent s).1 ∧ (claimsReport s).grossCostLbp = -(spent s).2.1 ∧
      (claimsReport s).supplierRecoveredUsd = (recovered s).1 ∧ (claimsReport s).supplierRecoveredLbp = (recovered s).2.1 := by
  have netUsd : (costSplit s.costs).netUsd = (spent s).1 + (recovered s).1 :=
    (Table.map_total (AddMonoidHom.fst ℚ (ℚ × ℤ)) s.costs worth).symm.trans (congrArg Prod.fst (net_booked books))
  have netLbp : (costSplit s.costs).netLbp = (spent s).2.1 + (recovered s).2.1 :=
    (Table.map_total ((AddMonoidHom.fst ℚ ℤ).comp (AddMonoidHom.snd ℚ (ℚ × ℤ))) s.costs worth).symm.trans
      (congrArg (·.2.1) (net_booked books))
  have fromUsd : (costSplit s.costs).recoveredUsd = (recovered s).1 := by
    rw [← supplier_booked books]
    refine Eq.trans (Table.total_congr fun c row _ => ?_)
      (Table.map_total (AddMonoidHom.fst ℚ (ℚ × ℤ)) s.costs fun row => if isSupplierKind (kindOf s.costs row) then worth row else 0).symm
    split_ifs <;> rfl
  have fromLbp : (costSplit s.costs).recoveredLbp = (recovered s).2.1 := by
    rw [← supplier_booked books]
    refine Eq.trans (Table.total_congr fun c row _ => ?_) (Table.map_total ((AddMonoidHom.fst ℚ ℤ).comp (AddMonoidHom.snd ℚ (ℚ × ℤ)))
      s.costs fun row => if isSupplierKind (kindOf s.costs row) then worth row else 0).symm
    split_ifs <;> rfl
  obtain ⟨recoveredUsd, lira, recoveredLbp⟩ := whole_total books.summed.whole fun row => isSupplierKind (kindOf s.costs row)
  obtain ⟨spentUsd, lira', spentLbp⟩ := whole_total books.summed.whole
    fun row => stands s row && (row.kind = .cost || row.kind = .notFaulty)
  rw [supplier_booked books] at recoveredUsd recoveredLbp
  change Whole 100 (spent s).1 at spentUsd
  change (spent s).2.1 = lira' at spentLbp
  have toUsd : roundTo 100 (recovered s).1 = (recovered s).1 := recoveredUsd.roundTo (by norm_num)
  have netWhole : roundTo 100 (-((spent s).1 + (recovered s).1)) = -((spent s).1 + (recovered s).1) :=
    (spentUsd.add recoveredUsd).neg.roundTo (by norm_num)
  have grossWhole : roundTo 100 (-(spent s).1) = -(spent s).1 := spentUsd.neg.roundTo (by norm_num)
  have netLira : ((round (-((spent s).2.1 + (recovered s).2.1)) : ℤ) : ℚ) = -((spent s).2.1 + (recovered s).2.1) := by
    rw [spentLbp, recoveredLbp, ← Int.cast_add, ← Int.cast_neg, round_intCast]
  have toLira : ((round (recovered s).2.1 : ℤ) : ℚ) = (recovered s).2.1 := by
    rw [recoveredLbp, round_intCast]
  unfold claimsReport
  dsimp only
  rw [netUsd, netLbp, fromUsd, fromLbp, toUsd, toLira, netWhole, netLira]
  refine ⟨?_, ?_, rfl, rfl⟩
  · rw [neg_add, neg_add_cancel_right, grossWhole]
  · rw [neg_add, neg_add_cancel_right]

end

/-! Every run. -/

/-- What the claims come to. -/
structure Accounted (s : System) : Prop where
  /-- a claim that is void comes to nothing in every kind, and nothing of it is left -/
  void : ∀ id claim, s.claims.get id = some claim → claim.status = .voided →
    (∀ kind, booked s.costs (· = id) kind = 0) ∧ (∀ i item, s.defective.get i = some item → item.warrantyClaimId ≠ id) ∧
      ∀ r ret, s.returns.get r = some ret → ret.warrantyClaimId ≠ id
  /-- a claim that is done has cost once, in dollars -/
  once : ∀ id claim, s.claims.get id = some claim → claim.status = .done → (booked s.costs (· = id) .cost).2 = (0, 1)
  /-- and no other has cost anything -/
  free : ∀ id claim, s.claims.get id = some claim → claim.status ≠ .done → booked s.costs (· = id) .cost = 0
  /-- a refund or a replacement has one faulty item, and has something back for it at most once -/
  item : ∀ id claim, s.claims.get id = some claim → claim.status = .done → claim.action ≠ .repair → ∃ i item,
    s.defective.get i = some item ∧ item.warrantyClaimId = id ∧
      (∀ j other, s.defective.get j = some other → other.warrantyClaimId = id → j = i) ∧ Recovered s id i item ∧
      (claim.action = .refund → (booked s.costs (· = id) .cost).1 = roundTo 100 (-item.unitCostUsd))
  /-- what is owed to a supplier is less by the credits on its returns -/
  supplier : ∀ supplierId, s.ledger.total (owedOf supplierId) = -s.returns.total (creditedBy supplierId)
  /-- the report is right on both sides -/
  report : (claimsReport s).grossCostUsd = -(spent s).1 ∧ (claimsReport s).grossCostLbp = -(spent s).2.1 ∧
    (claimsReport s).supplierRecoveredUsd = (recovered s).1 ∧ (claimsReport s).supplierRecoveredLbp = (recovered s).2.1

theorem accounted {s : System} (books : Books s) : Accounted s where
  void id claim there isVoid := by
    refine ⟨books.owing.nothing _ fun id' other isOf otherThere => ?_, fun i item itemThere isOf => ?_, fun r ret isRow isOf => ?_⟩
    · rw [of_decide_eq_true isOf, there] at otherThere
      cases otherThere
      exact isVoid
    · obtain ⟨own, ownThere, done, -⟩ := books.linked.items i item itemThere
      rw [isOf, there] at ownThere
      cases ownThere
      rw [isVoid] at done
      cases done
    · obtain ⟨item, itemThere, ofClaim⟩ := books.linked.returns r ret isRow
      obtain ⟨own, ownThere, done, -⟩ := books.linked.items _ item itemThere
      rw [ofClaim, isOf, there] at ownThere
      cases ownThere
      rw [isVoid] at done
      cases done
  once := books.owing.once
  free := books.owing.free
  item id claim there done notRepair := by
    obtain ⟨i, item, itemThere, isOf⟩ := books.owing.hasItem id claim there done notRepair
    refine ⟨i, item, itemThere, isOf, fun j other otherThere otherOf => ?_, ?_, fun isRefund => ?_⟩
    · exact books.linked.oneItem j i other item otherThere itemThere (otherOf.trans isOf.symm)
    · rw [← isOf]
      exact recovered_of books itemThere
    · rw [← isOf]
      exact books.owing.refunded i item claim itemThere (by rw [isOf, there]) isRefund
  supplier := books.balanced.balance
  report := report_right books

/-- What a replacement and a repair book as they are done. -/
structure Charged (s : System) : Prop where
  replacement : ∀ outside data actor s', createClaim outside data actor s = .ok s' → data.action = .replace →
    ∃ saleItemId line product, data.saleItemId = some saleItemId ∧ s.shop.lines.get saleItemId = some line ∧
      s.shop.products.get line.productId = some product ∧
      booked s'.costs (· = s.claims.nextId) .cost = (roundTo 100 (-replacementCost outside s line product), 0, 1)
  repair : ∀ jobId actorUserId id claim claim', s.claims.get id = some claim → claim.status = .opened →
    (deliverJob jobId actorUserId s).claims.get id = some claim' → claim'.status = .done →
    ∃ job, s.shop.jobs.get jobId = some job ∧
      booked (deliverJob jobId actorUserId s).costs (· = id) .cost = (roundTo 100 (-(job.costUsd + job.partsCostUsd)), 0, 1)

theorem charged {s : System} (books : Books s) : Charged s where
  replacement _ _ _ _ done action := createClaim_costs books.linked done action
  repair _ _ _ _ _ there wasOpen after done := deliverJob_costs books.linked books.owing there wasOpen after done

theorem later_exec {s : System} (books : Books s) (event : Event) : Later s (exec s event) :=
  later_step books.linked books.summed.whole (exec_step books.linked event)

/-- Whatever is claimed, delivered, resolved, sent back and voided, and whatever happens elsewhere; what a claim has cost stays as it
was booked until it is voided. -/
theorem run_accounted (shop : Shop) (events more : List Event) :
    Accounted (run exec { shop } events) ∧ Charged (run exec { shop } events) ∧
      Later (run exec { shop } events) (run exec { shop } (events ++ more)) := by
  have books : Books (run exec { shop } events) := run_always Books (fun _ event books => books_exec books event) (books_start shop) events
  refine ⟨accounted books, charged books, ?_⟩
  rw [run_append]
  exact run_relation (fun _ event books _ => books_exec books event) Later.refl (fun _ _ _ => Later.trans)
    (fun _ event books _ => later_exec books event) books (meets_of_forall (fun _ _ => trivial) _)

end Liratek.Warranty.ClaimRuns
