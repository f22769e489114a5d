import Liratek.Warranty.ClaimTables

/-! Warranty claims: a repair, a replacement or a refund of a covered item, what becomes of the faulty one, and the void of a claim. -/

namespace Liratek.Warranty.WarrantyClaims
open Lib Lib.Calls Lib.Rounding Stock.Batches ClaimTables

inductive WarrantyClaimErrorCode where
  | notCovered | alreadyClaimed | outOfStock | noCoveredUnitLeft | forbiddenAction | replacementUnitRequired | alreadyVoided
  | defectiveAlreadySent | defectiveResolved | notHeld | notFound | invalid | supplierRequired | returnNotOpen | restockAlreadySold
  deriving DecidableEq, Repr

structure WarrantyClaimError where
  code : WarrantyClaimErrorCode
  message : String
  deriving DecidableEq, Repr

abbrev Result := Except WarrantyClaimError System

/-- Any other error is answered as `INVALID`. -/
def asInvalid {α : Type} (call : Except String α) : Except WarrantyClaimError α :=
  call.mapError fun message => ⟨.invalid, message⟩

structure WarrantyActor where
  userId : ℕ
  role : String

def isAdmin (actor : WarrantyActor) : Bool :=
  actor.role = "admin"

/-- What a call meets outside the claims. -/
structure Outside where
  now : String
  /-- the money side of a refund or of its undo, which may refuse -/
  money : Except String Unit := .ok ()

/-- A claim input after its schema. -/
structure CreateWarrantyClaimData where
  saleItemId : Option ℕ
  maintenanceId : Option ℕ
  unitId : Option ℕ
  action : WarrantyClaimAction
  replacementUnitId : Option ℕ
  notes : Option String
  overrideReason : Option String
  clientDay : String
  pickedOne : saleItemId.isNone ≠ maintenanceId.isNone

inductive SupplierReturnOutcome where
  | credited | replaced | rejected
  deriving DecidableEq, Repr

/-- A supplier's answer after its schema. -/
structure CloseSupplierReturnData where
  supplierReturnId : ℕ
  outcome : SupplierReturnOutcome
  creditUsd : Option ℚ
  creditLbp : Option ℚ
  notes : Option String
  usdWithin : ∀ usd ∈ creditUsd, 0 ≤ usd ∧ usd ≤ 1000000
  lbpWithin : ∀ lbp ∈ creditLbp, 0 ≤ lbp ∧ lbp ≤ 100000000000
  entered : outcome = .credited → 0 < creditUsd.getD 0 ∨ 0 < creditLbp.getD 0
  said : outcome = .rejected → notes.isSome

inductive DefectiveOutcome where
  | writeOff | notFaulty
  deriving DecidableEq, Repr

/-! Reads. -/

/-- The claims of a unit that are open. -/
def openForUnit (claims : Table WarrantyClaim) (unitId : ℕ) : List (ℕ × WarrantyClaim) :=
  claims.select fun claim => claim.unitId = some unitId && claim.status = .opened

/-- A refund has lowered what is covered itself. -/
def countLiveNonRefundForLine (claims : Table WarrantyClaim) (saleItemId : ℕ) : ℕ :=
  (claims.select fun claim => claim.saleItemId = some saleItemId && claim.status ≠ .voided && claim.action ≠ .refund).length

def countLiveForJob (claims : Table WarrantyClaim) (maintenanceId : ℕ) : ℕ :=
  (claims.select fun claim => claim.maintenanceId = some maintenanceId && claim.status ≠ .voided).length

/-- The last claim that has opened a job. -/
def findByRepairJob (claims : Table WarrantyClaim) (jobId : ℕ) : Option (ℕ × WarrantyClaim) :=
  (claims.select fun claim => claim.repairJobId = some jobId).getLast?

def findByClaim (defective : Table DefectiveItem) (claimId : ℕ) : Option (ℕ × DefectiveItem) :=
  (defective.select fun item => item.warrantyClaimId = claimId).head?

def listForClaim (returns : Table SupplierReturn) (claimId : ℕ) : List (ℕ × SupplierReturn) :=
  returns.select fun ret => ret.warrantyClaimId = claimId

def costRowsForClaim (costs : Table WarrantyCost) (claimId : ℕ) : List (ℕ × WarrantyCost) :=
  costs.select fun row => row.claimId = claimId

def lineForClaim (s : System) (claim : WarrantyClaim) : Option SaleLine :=
  claim.saleItemId.bind s.shop.lines.get

def covered (line : SaleLine) : ℤ :=
  if isSaleLineFullyRefunded line then 0 else max 0 (line.quantity - line.refundedQuantity)

/-- A void cover is always refused, an expired one unless an admin says why. -/
def assertCovered (state : WarrantyState) (overrideReason : Option String) (actor : WarrantyActor) : Except WarrantyClaimError Unit :=
  match state with
  | .covered => .ok ()
  | .expired =>
    check (!((overrideReason.filter (· ≠ "")).isSome && isAdmin actor))
      ⟨.notCovered, "This warranty has expired. Only an admin can honour it, with a reason."⟩
  | .void => .error ⟨.notCovered, "This item was refunded — its warranty is void."⟩
  | .none => .error ⟨.notCovered, "This item has no warranty."⟩

/-! A claim on a line of a sale. -/

section
variable (outside : Outside)

/-- The end date of the unit that is claimed, when it has its own. -/
def claimedUnit (s : System) (saleItemId : ℕ) (unitId : Option ℕ) : Except WarrantyClaimError (Option String) :=
  match unitId with
  | none => .ok none
  | some unitId =>
    (found ((s.shop.units.get unitId).filter fun unit => unit.saleItemId = some saleItemId)
      ⟨.invalid, "That unit was not sold on this line"⟩).bind fun unit =>
    (check (unit.status ≠ .sold || unit.isDefective)
      ⟨.notCovered, "This unit is no longer covered (it was refunded or returned)."⟩).bind fun _ =>
    (check (!(openForUnit s.claims unitId).isEmpty)
      ⟨.alreadyClaimed, "This unit already has an open warranty claim."⟩).map fun _ => unit.warrantyOverrideUntil

/-- The units of a line that are with the customer and not faulty, the oldest first. -/
def soundUnits (shop : Shop) (saleItemId : ℕ) : List ℕ :=
  (shop.units.select fun unit => unit.saleItemId = some saleItemId && unit.status = .sold && !unit.isDefective).map (·.1)

/-- `refundSaleItem` with `restock: false`: nothing goes back on the shelf, and its unit is flagged. -/
def refundSaleItem (saleItemId claimId : ℕ) (shop : Shop) : Except String Shop :=
  let flagged := (soundUnits shop saleItemId).take 1
  (shop.refundLine saleItemId 1 (some claimId) flagged).bind fun refunded =>
  outside.money.map fun _ => flagged.foldl (fun shop unitId => shop.setUnitDefective unitId true) refunded

/-- `undoSaleItemRefund` of a claim's refund: the flags it has set are taken off. -/
def undoSaleItemRefund (refundId : ℕ) (shop : Shop) : Except String Shop :=
  (shop.unrefundLine refundId true).bind fun undone =>
  outside.money.map fun _ =>
    (((shop.refunds.get refundId).map (·.defectiveUnitIds)).getD []).foldl
      (fun shop unitId => shop.setUnitDefective unitId false) undone

def itemOf (line : SaleLine) (data : CreateWarrantyClaimData) (claimId : ℕ) : DefectiveItem where
  productId := line.productId
  unitId := data.unitId
  quantity := 1
  unitCostUsd := line.costPriceSnapshotUsd.getD 0
  warrantyClaimId := claimId

def productName (shop : Shop) (line : SaleLine) : String :=
  ((shop.products.get line.productId).map (·.name)).getD "item"

def claimCost (line : SaleLine) (actor : WarrantyActor) (claimId : ℕ) (usd : ℚ) (what : String) : CostInput where
  claimId := claimId
  clientId := line.clientId
  userId := actor.userId
  usd := usd
  summary := "WARRANTY: " ++ what ++ " (claim #" ++ claimId.repr ++ ")"
  kind := .cost

def refundClaim (data : CreateWarrantyClaimData) (actor : WarrantyActor) (saleItemId : ℕ) (line : SaleLine) (claimId : ℕ)
    (s : System) : Result :=
  (asInvalid (refundSaleItem outside saleItemId claimId s.shop)).map fun shop =>
  (((s.withShop shop).changeClaim claimId fun claim => { claim with refundTransactionId := some s.shop.refunds.nextId }).insertItem
    (itemOf line data claimId)).bookCost
    (claimCost line actor claimId (-line.costPriceSnapshotUsd.getD 0) ("refund of faulty " ++ productName s.shop line))

/-- The customer gets another unit of the product, covered until the end of the first. -/
def giveReplacement (data : CreateWarrantyClaimData) (unitOverride : Option String) (line : SaleLine) (claimId : ℕ) (s : System) :
    Result :=
  match data.replacementUnitId with
  | none => .ok s
  | some unitId =>
    (check (!(s.shop.units.get unitId).any (·.productId = line.productId))
      ⟨.invalid, "That replacement unit is not this product"⟩).bind fun _ =>
    let sold := s.shop.markReplacementSold unitId claimId (unitOverride.or line.warrantyUntil)
    (check (!sold.2) ⟨.outOfStock, "That replacement unit is not in stock"⟩).map fun _ =>
    (s.withShop sold.1).changeClaim claimId fun claim => { claim with replacementUnitId := some unitId }

def replaceClaim (data : CreateWarrantyClaimData) (actor : WarrantyActor) (unitOverride : Option String) (line : SaleLine)
    (claimId : ℕ) (s : System) : Result :=
  (found (s.shop.products.get line.productId) ⟨.notFound, "Product not found"⟩).bind fun product =>
  (check (0 < s.shop.inStockUnits line.productId && data.replacementUnitId = none)
    ⟨.replacementUnitRequired, "Pick which unit (serial/IMEI) you are giving the customer."⟩).bind fun _ =>
  let taken := s.shop.takeOneFromStock line.productId
  (check (!taken.2) ⟨.outOfStock, product.name ++ " is out of stock — offer a repair or a refund instead."⟩).bind fun _ =>
  let consumed := consume taken.1.book line.productId 1
    { owners := { warrantyClaimId := some claimId }, reason := .adjustment, fallbackUnitCostUsd := product.costPriceUsd
      now := outside.now }
  (giveReplacement data unitOverride line claimId (s.withShop { taken.1 with book := consumed.1 })).map fun given =>
  ((given.withShop (data.unitId.elim given.shop fun unitId => given.shop.setUnitDefective unitId true)).insertItem
    (itemOf line data claimId)).bookCost (claimCost line actor claimId (-consumed.2.totalCostUsd) ("replacement " ++ product.name))

/-- A free job for the same customer, linked both ways. -/
def openJob (job : MaintenanceJob) (claimId : ℕ) (s : System) : System :=
  (s.withShop { s.shop with jobs := s.shop.jobs.insert { job with warrantyClaimId := some claimId } }).changeClaim claimId
    fun claim => { claim with repairJobId := some s.shop.jobs.nextId }

def repairClaim (data : CreateWarrantyClaimData) (line : SaleLine) (claimId : ℕ) (s : System) : System :=
  openJob
    { clientId := line.clientId, clientName := line.customerName, deviceName := productName s.shop line
      issueDescription := some (data.notes.getD ("Warranty repair (claim #" ++ claimId.repr ++ ")"))
      note := some ("Warranty claim #" ++ claimId.repr ++ " — sale RCP-" ++ line.saleId.repr) } claimId s

def claimRow (data : CreateWarrantyClaimData) (actor : WarrantyActor) (state : WarrantyState) : WarrantyClaim where
  saleItemId := data.saleItemId
  maintenanceId := data.maintenanceId
  unitId := if data.saleItemId.isSome then data.unitId else none
  action := data.action
  status := if data.action = .repair then .opened else .done
  overrideReason := if state = .expired then data.overrideReason else none
  notes := data.notes
  userId := actor.userId

def createSaleLineClaim (data : CreateWarrantyClaimData) (actor : WarrantyActor) (saleItemId : ℕ) (s : System) : Result :=
  (found (s.shop.lines.get saleItemId) ⟨.notFound, "Sale line not found"⟩).bind fun line =>
  (claimedUnit s saleItemId data.unitId).bind fun unitOverride =>
  let state := warrantyState line.warrantyUntil data.clientDay
    { overrideUntil := unitOverride, fullyRefunded := isSaleLineFullyRefunded line }
  (assertCovered state data.overrideReason actor).bind fun _ =>
  (check (covered line ≤ countLiveNonRefundForLine s.claims saleItemId)
    ⟨.noCoveredUnitLeft, "Every covered unit of this line already has a claim."⟩).bind fun _ =>
  let claimId := s.claims.nextId
  let inserted : System := { s with claims := s.claims.insert (claimRow data actor state) }
  match data.action with
  | .refund => refundClaim outside data actor saleItemId line claimId inserted
  | .replace => replaceClaim outside data actor unitOverride line claimId inserted
  | .repair => .ok (repairClaim data line claimId inserted)

/-- A repair's own warranty is honoured by another repair. -/
def createRepairWarrantyClaim (data : CreateWarrantyClaimData) (actor : WarrantyActor) (maintenanceId : ℕ) (s : System) : Result :=
  (check (data.action ≠ .repair)
    ⟨.forbiddenAction, "A repair's warranty can only be honoured with another repair."⟩).bind fun _ =>
  (found (s.shop.jobs.get maintenanceId) ⟨.notFound, "Repair job not found"⟩).bind fun job =>
  let state := warrantyState job.warrantyUntil data.clientDay { fullyRefunded := job.isRefunded }
  (assertCovered state data.overrideReason actor).bind fun _ =>
  (check (0 < countLiveForJob s.claims maintenanceId)
    ⟨.alreadyClaimed, "This repair already has a warranty claim."⟩).map fun _ =>
  let claimId := s.claims.nextId
  openJob
    { clientId := job.clientId, clientName := job.clientName, deviceName := job.deviceName
      issueDescription := some (data.notes.getD ("Warranty on repair #" ++ maintenanceId.repr))
      note := some ("Warranty claim #" ++ claimId.repr ++ " — repair #" ++ maintenanceId.repr) } claimId
    { s with claims := s.claims.insert (claimRow data actor state) }

/-- Staff can only start a repair. -/
def createClaim (data : CreateWarrantyClaimData) (actor : WarrantyActor) (s : System) : Result :=
  (check (data.action ≠ .repair && !isAdmin actor)
    ⟨.forbiddenAction, "Only an admin can replace or refund under warranty. Staff can start a repair."⟩).bind fun _ =>
  match data.maintenanceId, data.saleItemId with
  | some maintenanceId, _ => createRepairWarrantyClaim data actor maintenanceId s
  | none, some saleItemId => createSaleLineClaim outside data actor saleItemId s
  | none, none => .error ⟨.invalid, "Pick exactly one: a sale line or a repair job"⟩

end

/-! A repair is delivered. -/

def isLiveWarrantyJob (s : System) (jobId : ℕ) : Bool :=
  ((s.shop.jobs.get jobId).bind (·.warrantyClaimId)).any fun claimId => (s.claims.get claimId).any (·.status ≠ .voided)

/-- Its cost is booked once, and its claim is done. -/
def onRepairDelivered (jobId : ℕ) (actorUserId : Option ℕ) (s : System) : System :=
  match findByRepairJob s.claims jobId with
  | none => s
  | some (claimId, claim) =>
    if claim.status ≠ .opened || (costRowsForClaim s.costs claimId).any (·.2.reversesId = none) then s
    else
      match s.shop.jobs.get jobId with
      | none => s
      | some job =>
        (s.bookCost
          { claimId, clientId := job.clientId, userId := actorUserId.getD claim.userId, usd := -(job.costUsd + job.partsCostUsd)
            summary := "WARRANTY: repair parts for " ++ job.deviceName ++ " (claim #" ++ claimId.repr ++ ")", kind := .cost }).changeClaim
          claimId fun claim => { claim with status := .done }

/-- The end of a save that delivers a job. -/
def deliverJob (jobId : ℕ) (actorUserId : Option ℕ) (s : System) : System :=
  if isLiveWarrantyJob s jobId then onRepairDelivered jobId actorUserId s else s

/-! What becomes of the faulty item. -/

section
variable (outside : Outside)

/-- A batch of its own, with its id. -/
def restockBatch (item : DefectiveItem) (supplierId : Option ℕ) (actor : WarrantyActor) (book : Book) :
    Except WarrantyClaimError (Book × ℕ) :=
  asInvalid (((createBatch book
    { productId := item.productId, supplierId, quantity := item.quantity, unitCostUsd := item.unitCostUsd, booksDebt := false
      createdBy := some actor.userId } outside.now).mapError BatchError.message).map fun created => (created, book.batches.nextId))

/-- A refunded unit goes to the batch it was sold from. The sale of a replaced one stands, so it gets a batch of its own. -/
def backToBatch (item : DefectiveItem) (claim : Option WarrantyClaim) (actor : WarrantyActor) (book : Book) :
    Except WarrantyClaimError (Book × Option ℕ) :=
  match (claim.filter fun claim => claim.action = .refund).bind (·.saleItemId) with
  | some saleItemId => .ok (restoreForSaleItem book saleItemId (some item.quantity), none)
  | none => (restockBatch outside item none actor book).map fun restocked => (restocked.1, some restocked.2)

/-- A tracked unit is on the shelf again. -/
def unitBack (item : DefectiveItem) (shop : Shop) : Except WarrantyClaimError Shop :=
  item.unitId.elim (.ok shop) fun unitId => asInvalid (shop.returnUnitToStock unitId)

/-- Not faulty: it can be sold again, and its cost is taken back. -/
def notFaulty (itemId : ℕ) (item : DefectiveItem) (actor : WarrantyActor) (s : System) : Result :=
  let claim := s.claims.get item.warrantyClaimId
  let onShelf := s.shop.adjustStock item.productId item.quantity
  (backToBatch outside item claim actor onShelf.book).bind fun restocked =>
  (unitBack item { onShelf with book := restocked.1 }).map fun shop =>
  ((s.withShop shop).setStatus itemId .returnedToStock restocked.2).bookCost
    { claimId := item.warrantyClaimId, clientId := (claim.bind (lineForClaim s)).bind (·.clientId), userId := actor.userId
      usd := item.unitCostUsd * item.quantity
      summary := "WARRANTY: not faulty, back to stock (claim #" ++ item.warrantyClaimId.repr ++ ")", kind := .notFaulty }

def resolveDefective (itemId : ℕ) (outcome : DefectiveOutcome) (actor : WarrantyActor) (s : System) : Result :=
  (check (!isAdmin actor) ⟨.forbiddenAction, "Only an admin can resolve defective items."⟩).bind fun _ =>
  (found (s.defective.get itemId) ⟨.notFound, "Defective item not found"⟩).bind fun item =>
  (check (item.status ≠ .held) ⟨.notHeld, "Only an item still held can be resolved."⟩).bind fun _ =>
  match outcome with
  | .writeOff => .ok (s.setStatus itemId .writtenOff none)
  | .notFaulty => notFaulty outside itemId item actor s

/-- The supplier is the one the unit was bought from, unless another is picked. -/
def createSupplierReturn (itemId : ℕ) (supplierId : Option ℕ) (notes : Option String) (actor : WarrantyActor) (s : System) : Result :=
  (check (!isAdmin actor) ⟨.forbiddenAction, "Only an admin can send items back to a supplier."⟩).bind fun _ =>
  (found (s.defective.get itemId) ⟨.notFound, "Defective item not found"⟩).bind fun item =>
  (check (item.status ≠ .held) ⟨.notHeld, "Only an item still held can be sent to a supplier."⟩).bind fun _ =>
  (found (supplierId.or (((s.claims.get item.warrantyClaimId).bind (·.saleItemId)).bind s.shop.supplierForSaleItem))
    ⟨.supplierRequired, "No supplier is on record for this item — pick the supplier."⟩).bind fun supplierId =>
  (check (s.shop.suppliers.get supplierId).isNone ⟨.notFound, "Supplier not found"⟩).map fun _ =>
  ({ s with
    returns := s.returns.insert
      { defectiveItemId := itemId, warrantyClaimId := item.warrantyClaimId, supplierId, userId := actor.userId
        notes } } : System).setStatus itemId .sentToSupplier none

def closeSupplierReturn (data : CloseSupplierReturnData) (actor : WarrantyActor) (s : System) : Result :=
  (check (!isAdmin actor) ⟨.forbiddenAction, "Only an admin can close a supplier return."⟩).bind fun _ =>
  (found (s.returns.get data.supplierReturnId) ⟨.notFound, "Supplier return not found"⟩).bind fun ret =>
  (check (ret.status ≠ .sent) ⟨.returnNotOpen, "This supplier return is already closed."⟩).bind fun _ =>
  (found (s.defective.get ret.defectiveItemId) ⟨.notFound, "Defective item not found"⟩).bind fun item =>
  let clientId := ((s.claims.get ret.warrantyClaimId).bind (lineForClaim s)).bind (·.clientId)
  let cost (usd lbp : ℚ) (what : String) (kind : WarrantyCostKind) : CostInput :=
    { claimId := ret.warrantyClaimId, clientId, userId := actor.userId, usd, lbp
      summary := "WARRANTY: supplier " ++ what ++ " on return #" ++ data.supplierReturnId.repr ++ " (claim #" ++
        ret.warrantyClaimId.repr ++ ")"
      kind, supplierReturnId := some data.supplierReturnId }
  match data.outcome with
  | .credited =>
    let usd := data.creditUsd.getD 0
    let lbp := data.creditLbp.getD 0
    let entry : LedgerEntry :=
      { supplierId := ret.supplierId, amountUsd := -usd, amountLbp := -lbp
        note := "Warranty return #" ++ data.supplierReturnId.repr ++ " credited (claim #" ++ ret.warrantyClaimId.repr ++ ")"
        createdBy := actor.userId }
    .ok ((((s.addLedgerEntry entry).bookCost (cost usd lbp "credit" .supplierCredit)).setStatus ret.defectiveItemId .sentToSupplier
      none).closeReturn data.supplierReturnId fun row =>
        { row with
          status := .credited, creditUsd := usd, creditLbp := lbp, ledgerEntryId := some s.ledger.nextId
          costTransactionId := some s.costs.nextId, restockBatchId := none, closedBy := some actor.userId
          notes := data.notes.or row.notes })
  | .replaced =>
    let onShelf := s.shop.adjustStock item.productId item.quantity
    (restockBatch outside item (some ret.supplierId) actor onShelf.book).bind fun restocked =>
    (unitBack item { onShelf with book := restocked.1 }).map fun shop =>
    (((s.withShop shop).setStatus ret.defectiveItemId .returnedToStock (some restocked.2)).bookCost
      (cost (item.unitCostUsd * item.quantity) 0 "replacement" .supplierReplaced)).closeReturn data.supplierReturnId fun row =>
        { row with
          status := .replaced, creditUsd := 0, creditLbp := 0, ledgerEntryId := none, costTransactionId := some s.costs.nextId
          restockBatchId := some restocked.2, closedBy := some actor.userId, notes := data.notes.or row.notes }
  | .rejected =>
    .ok ((s.setStatus ret.defectiveItemId .held none).closeReturn data.supplierReturnId fun row =>
      { row with
        status := .rejected, creditUsd := 0, creditLbp := 0, ledgerEntryId := none, costTransactionId := none, restockBatchId := none
        closedBy := some actor.userId, notes := data.notes.or row.notes })

end

/-! The void of a claim. -/

section
variable (outside : Outside)

def restockAlreadySold : WarrantyClaimError :=
  ⟨.restockAlreadySold, "The supplier's replacement was already sold — this claim can't be voided."⟩

/-- The credit of a return is taken back from the supplier's balance. -/
def takeBackCredit (claimId userId : ℕ) (ret : ℕ × SupplierReturn) (s : System) : System :=
  if ret.2.status = .credited then
    s.addLedgerEntry
      { supplierId := ret.2.supplierId, amountUsd := |ret.2.creditUsd|, amountLbp := |ret.2.creditLbp|
        note := "Warranty claim #" ++ claimId.repr ++ " voided — supplier credit on return #" ++ ret.1.repr ++ " reversed"
        createdBy := userId }
  else s

/-- The supplier's replacement leaves the shelf, unless it was sold since. -/
def takeBackReplacement (ret : ℕ × SupplierReturn) (s : System) : Result :=
  if ret.2.status = .replaced then
    match s.defective.get ret.2.defectiveItemId with
    | none => .ok s
    | some item =>
      let back := item.unitId.elim (s.shop, true) s.shop.unitBackToDefective
      (check (!back.2) restockAlreadySold).map fun _ => s.withShop (back.1.adjustStock item.productId (-item.quantity))
  else .ok s

def undoReturn (claimId userId : ℕ) (s : System) (ret : ℕ × SupplierReturn) : Result :=
  (takeBackReplacement ret (takeBackCredit claimId userId ret s)).map fun s =>
  if ret.2.status = .credited || ret.2.status = .replaced then s.setStatus ret.2.defectiveItemId .held none else s

def removeRestock (s : System) (batchId : ℕ) : Result :=
  let removed := removeUntouchedBatch s.shop.book batchId
  (check (!removed.2) restockAlreadySold).map fun _ => s.withShop { s.shop with book := removed.1 }

def undoSupplierReturns (claimId userId : ℕ) (returns : List (ℕ × SupplierReturn)) (s : System) : Result :=
  (each (undoReturn claimId userId) s returns).bind fun undone =>
  each removeRestock { undone with returns := undone.returns.deleteWhere fun ret => ret.warrantyClaimId = claimId }
    ((returns.filter fun ret => ret.2.status = .replaced).filterMap (·.2.restockBatchId))

/-- The replacement comes back, and the first unit counts as sound. -/
def undoReplacement (claimId : ℕ) (claim : WarrantyClaim) (s : System) : Result :=
  match claim.saleItemId with
  | none => .ok s
  | some saleItemId =>
    let shop := (s.shop.lines.get saleItemId).elim s.shop fun line =>
      { s.shop.adjustStock line.productId 1 with book := restoreForWarrantyClaim s.shop.book claimId none }
    (claim.replacementUnitId.elim (.ok shop) fun unitId => asInvalid (shop.releaseReplacement unitId)).map fun shop =>
    s.withShop (claim.unitId.elim shop fun unitId => shop.setUnitDefective unitId false)

def undoAction (claimId : ℕ) (claim : WarrantyClaim) (s : System) : Result :=
  match claim.action with
  | .refund =>
    claim.refundTransactionId.elim (.ok s) fun refundId =>
      (asInvalid (undoSaleItemRefund outside refundId s.shop)).map s.withShop
  | .replace => undoReplacement claimId claim s
  | .repair => .ok (s.withShop (claim.repairJobId.elim s.shop s.shop.voidWarrantyJob))

def reversalOf (claimId userId : ℕ) (row : ℕ × WarrantyCost) : CostInput where
  claimId := claimId
  clientId := row.2.clientId
  userId := userId
  usd := -row.2.profitUsd
  lbp := -row.2.profitLbp
  summary := "WARRANTY: claim #" ++ claimId.repr ++ " voided"
  kind := .reversal
  reversesId := some row.1

/-- The rows of a claim that no row takes back yet. -/
def standingCosts (costs : Table WarrantyCost) (claimId : ℕ) : List (ℕ × WarrantyCost) :=
  let rows := costRowsForClaim costs claimId
  rows.filter fun row => row.2.reversesId = none && !(rows.filterMap (·.2.reversesId)).contains row.1

def reverseCosts (claimId userId : ℕ) (s : System) : System :=
  (standingCosts s.costs claimId).foldl (fun s row => s.bookCost (reversalOf claimId userId row)) s

def markVoided (claimId : ℕ) (s : System) : System :=
  s.changeClaim claimId fun claim => { claim with status := .voided }

def voidClaim (claimId : ℕ) (actor : WarrantyActor) (s : System) : Result :=
  (check (!isAdmin actor) ⟨.forbiddenAction, "Only an admin can void a warranty claim."⟩).bind fun _ =>
  (found (s.claims.get claimId) ⟨.notFound, "Claim not found"⟩).bind fun claim =>
  (check (claim.status = .voided) ⟨.alreadyVoided, "This claim is already void."⟩).bind fun _ =>
  let returns := listForClaim s.returns claimId
  (check (returns.any fun ret => ret.2.status = .sent)
    ⟨.defectiveAlreadySent, "The faulty item is with the supplier — record the supplier's answer first."⟩).bind fun _ =>
  (if returns.isEmpty then .ok s else undoSupplierReturns claimId actor.userId returns s).bind fun s =>
  let held := findByClaim s.defective claimId
  (check (held.any fun item => item.2.status ≠ .held)
    ⟨.defectiveResolved, "The faulty item was already written off or put back in stock — this claim can't be voided."⟩).bind fun _ =>
  (undoAction outside claimId claim s).map fun s =>
  markVoided claimId (reverseCosts claimId actor.userId { s with defective := held.elim s.defective fun item => s.defective.delete item.1 })

end

/-! The report, over the whole time. -/

/-- A reversal is of the kind of the row it takes back. -/
def kindOf (costs : Table WarrantyCost) (row : WarrantyCost) : Option WarrantyCostKind :=
  if row.kind = .reversal then (row.reversesId.bind costs.get).map (·.kind) else some row.kind

def isSupplierKind (kind : Option WarrantyCostKind) : Bool :=
  kind = some .supplierCredit || kind = some .supplierReplaced

structure WarrantyCostSplit where
  netUsd : ℚ
  netLbp : ℚ
  recoveredUsd : ℚ
  recoveredLbp : ℚ

def costSplit (costs : Table WarrantyCost) : WarrantyCostSplit where
  netUsd := costs.total (·.profitUsd)
  netLbp := costs.total (·.profitLbp)
  recoveredUsd := costs.total fun row => if isSupplierKind (kindOf costs row) then row.profitUsd else 0
  recoveredLbp := costs.total fun row => if isSupplierKind (kindOf costs row) then row.profitLbp else 0

def claimCount (claims : Table WarrantyClaim) (action : WarrantyClaimAction) : ℕ :=
  (claims.select fun claim => claim.status ≠ .voided && claim.action = action).length

structure ClaimsReport where
  byAction : WarrantyClaimAction → ℕ
  total : ℕ
  grossCostUsd : ℚ
  supplierRecoveredUsd : ℚ
  netCostUsd : ℚ
  grossCostLbp : ℚ
  supplierRecoveredLbp : ℚ
  netCostLbp : ℚ

def claimsReport (s : System) : ClaimsReport :=
  let split := costSplit s.costs
  let netCostUsd := roundTo 100 (-split.netUsd)
  let recoveredUsd := roundTo 100 split.recoveredUsd
  let netCostLbp : ℚ := round (-split.netLbp)
  let recoveredLbp : ℚ := round split.recoveredLbp
  { byAction := claimCount s.claims
    total := claimCount s.claims .repair + claimCount s.claims .replace + claimCount s.claims .refund
    grossCostUsd := roundTo 100 (netCostUsd + recoveredUsd)
    supplierRecoveredUsd := recoveredUsd
    netCostUsd := netCostUsd
    grossCostLbp := netCostLbp + recoveredLbp
    supplierRecoveredLbp := recoveredLbp
    netCostLbp := netCostLbp }

/-! Runs. -/

/-- What the rest of the program writes in the rows that claims read. -/
inductive ShopChange where
  | sell (line : SaleLine)
  | editLine (saleItemId : ℕ) (change : SaleLine → SaleLine)
  | refundItem (saleItemId : ℕ) (quantity : ℤ)
  | undoItemRefund (refundId : ℕ)
  | addProduct (product : Product)
  | editProduct (productId : ℕ) (change : Product → Product)
  | moveStock (productId : ℕ) (delta : ℤ)
  | addUnit (unit : ProductUnit)
  | editUnit (unitId : ℕ) (change : ProductUnit → ProductUnit)
  | deleteUnit (unitId : ℕ)
  | addJob (job : MaintenanceJob)
  | editJob (jobId : ℕ) (change : MaintenanceJob → MaintenanceJob)
  | usePart (part : MaintenancePart)
  | returnPart (partId : ℕ)
  | addSupplier (name : String)
  | moveBatches (action : Stock.Batches.Action)

/-- What a line has sold stays. A line or a part names a product that is there. -/
def ShopChange.apply (shop : Shop) : ShopChange → Shop
  | .sell line =>
    if (shop.products.get line.productId).isSome then
      { shop with lines := shop.lines.insert { line with refundedQuantity := 0, isRefunded := false } }
    else shop
  | .editLine saleItemId change =>
    { shop with
      lines := shop.lines.update saleItemId fun line =>
        { change line with productId := line.productId, quantity := line.quantity, refundedQuantity := line.refundedQuantity } }
  | .refundItem saleItemId quantity => leaves shop (shop.refundLine saleItemId quantity none [])
  | .undoItemRefund refundId => leaves shop (shop.unrefundLine refundId false)
  | .addProduct product => { shop with products := shop.products.insert product }
  | .editProduct productId change =>
    { shop with products := shop.products.update productId fun p => { change p with stockQuantity := p.stockQuantity } }
  | .moveStock productId delta => shop.adjustStock productId delta
  | .addUnit unit => { shop with units := shop.units.insert unit }
  | .editUnit unitId change => shop.changeUnit unitId change
  | .deleteUnit unitId => { shop with units := shop.units.delete unitId }
  | .addJob job => { shop with jobs := shop.jobs.insert job }
  | .editJob jobId change => { shop with jobs := shop.jobs.update jobId change }
  | .usePart part =>
    if (shop.products.get part.productId).isSome then
      { shop.adjustStock part.productId (-part.quantity) with parts := shop.parts.insert { part with stockRestored := false } }
    else shop
  | .returnPart partId =>
    match shop.parts.get partId with
    | none => shop
    | some part => if part.stockRestored then shop else shop.restorePart (partId, part)
  | .addSupplier name => { shop with suppliers := shop.suppliers.insert name }
  | .moveBatches action => { shop with book := Stock.Batches.exec shop.book action }

inductive Event where
  | createClaim (outside : Outside) (data : CreateWarrantyClaimData) (actor : WarrantyActor)
  | deliverJob (jobId : ℕ) (actorUserId : Option ℕ)
  | resolveDefective (outside : Outside) (itemId : ℕ) (outcome : DefectiveOutcome) (actor : WarrantyActor)
  | createSupplierReturn (itemId : ℕ) (supplierId : Option ℕ) (notes : Option String) (actor : WarrantyActor)
  | closeSupplierReturn (outside : Outside) (data : CloseSupplierReturnData) (actor : WarrantyActor)
  | voidClaim (outside : Outside) (claimId : ℕ) (actor : WarrantyActor)
  | elsewhere (change : ShopChange)

def call (s : System) : Event → Result
  | .createClaim outside data actor => createClaim outside data actor s
  | .deliverJob jobId actorUserId => .ok (deliverJob jobId actorUserId s)
  | .resolveDefective outside itemId outcome actor => resolveDefective outside itemId outcome actor s
  | .createSupplierReturn itemId supplierId notes actor => createSupplierReturn itemId supplierId notes actor s
  | .closeSupplierReturn outside data actor => closeSupplierReturn outside data actor s
  | .voidClaim outside claimId actor => voidClaim outside claimId actor s
  | .elsewhere change => .ok (s.withShop (change.apply s.shop))

/-- A refused call is rolled back. -/
def exec (s : System) (event : Event) : System :=
  leaves s (call s event)

end Liratek.Warranty.WarrantyClaims
