import Liratek.Lib.Calls
import Liratek.Lib.Rounding
import Liratek.Stock.Batches
import Mathlib.Data.Rat.Floor

/-! The rows of warranty claims, and those of the shop that a claim reads and changes. -/

namespace Liratek.Warranty.ClaimTables
open Lib Lib.Calls Lib.Rounding Stock.Batches

/-! Whether a sold item is covered. -/

inductive WarrantyState where
  | covered | expired | void | none
  deriving DecidableEq, Repr

inductive WarrantySource where
  | override | refund | sale
  deriving DecidableEq, Repr

structure WarrantyStateFlags where
  overrideUntil : Option String := none
  fullyRefunded : Bool := false
  deriving DecidableEq, Repr

structure WarrantyResolution where
  source : Option WarrantySource
  endIso : Option String
  state : WarrantyState
  deriving DecidableEq, Repr

/-- The first ten characters, compared as a string. -/
def day (iso : String) : String :=
  String.ofList (iso.toList.take 10)

/-- The last day still counts. -/
def stateOn (endIso todayIso : String) : WarrantyState :=
  if day todayIso ≤ day endIso then .covered else .expired

/-- An empty text is no date. -/
def resolveWarranty (untilIso : Option String) (todayIso : String) (flags : WarrantyStateFlags) : WarrantyResolution :=
  match flags.overrideUntil.filter (· ≠ "") with
  | some endIso => { source := some .override, endIso := some endIso, state := stateOn endIso todayIso }
  | none =>
    if flags.fullyRefunded then { source := some .refund, endIso := none, state := .void }
    else
      match untilIso.filter (· ≠ "") with
      | some endIso => { source := some .sale, endIso := some endIso, state := stateOn endIso todayIso }
      | none => { source := none, endIso := none, state := .none }

def warrantyState (untilIso : Option String) (todayIso : String) (flags : WarrantyStateFlags) : WarrantyState :=
  (resolveWarranty untilIso todayIso flags).state

/-! The shop. -/

structure SaleLine where
  saleId : ℕ
  clientId : Option ℕ
  customerName : Option String
  productId : ℕ
  quantity : ℤ
  refundedQuantity : ℤ := 0
  isRefunded : Bool := false
  warrantyUntil : Option String
  costPriceSnapshotUsd : Option ℚ
  deriving DecidableEq, Repr

def isSaleLineFullyRefunded (line : SaleLine) : Bool :=
  line.isRefunded || 0 < line.quantity && line.quantity ≤ line.refundedQuantity

structure Product where
  name : String
  stockQuantity : ℤ
  costPriceUsd : ℚ
  deriving DecidableEq, Repr

inductive UnitStatus where
  | inStock | sold
  deriving DecidableEq, Repr

structure ProductUnit where
  productId : ℕ
  imei : String
  status : UnitStatus := .inStock
  saleItemId : Option ℕ := none
  isDefective : Bool := false
  warrantyOverrideUntil : Option String := none
  warrantyClaimId : Option ℕ := none
  deriving DecidableEq, Repr

structure MaintenanceJob where
  clientId : Option ℕ
  clientName : Option String
  deviceName : String
  issueDescription : Option String
  costUsd : ℚ := 0
  partsCostUsd : ℚ := 0
  status : String := "Received"
  note : Option String
  isRefunded : Bool := false
  warrantyUntil : Option String := none
  warrantyClaimId : Option ℕ := none
  deriving DecidableEq, Repr

structure MaintenancePart where
  maintenanceId : ℕ
  productId : ℕ
  quantity : ℤ
  unitCostUsd : ℚ
  stockRestored : Bool := false
  deriving DecidableEq, Repr

/-- The refund of one line of a sale, with what an undo needs. -/
structure ItemRefund where
  saleItemId : ℕ
  refundQuantity : ℤ
  warrantyClaimId : Option ℕ := none
  defectiveUnitIds : List ℕ := []
  isUndone : Bool := false
  deriving DecidableEq, Repr

structure Shop where
  lines : Table SaleLine := {}
  products : Table Product := {}
  units : Table ProductUnit := {}
  jobs : Table MaintenanceJob := {}
  parts : Table MaintenancePart := {}
  refunds : Table ItemRefund := {}
  suppliers : Table String := {}
  book : Book := {}

/-! The claims. -/

inductive WarrantyClaimAction where
  | repair | replace | refund
  deriving DecidableEq, Repr

inductive WarrantyClaimStatus where
  | opened | done | voided
  deriving DecidableEq, Repr

structure WarrantyClaim where
  saleItemId : Option ℕ
  maintenanceId : Option ℕ
  unitId : Option ℕ
  action : WarrantyClaimAction
  status : WarrantyClaimStatus
  overrideReason : Option String
  notes : Option String
  userId : ℕ
  repairJobId : Option ℕ := none
  replacementUnitId : Option ℕ := none
  refundTransactionId : Option ℕ := none
  deriving DecidableEq, Repr

inductive DefectiveItemStatus where
  | held | sentToSupplier | writtenOff | returnedToStock
  deriving DecidableEq, Repr

/-- A faulty unit taken back under a claim. -/
structure DefectiveItem where
  productId : ℕ
  unitId : Option ℕ
  quantity : ℤ
  unitCostUsd : ℚ
  warrantyClaimId : ℕ
  status : DefectiveItemStatus := .held
  restockBatchId : Option ℕ := none
  deriving DecidableEq, Repr

inductive SupplierReturnStatus where
  | sent | credited | replaced | rejected
  deriving DecidableEq, Repr

structure SupplierReturn where
  defectiveItemId : ℕ
  warrantyClaimId : ℕ
  supplierId : ℕ
  status : SupplierReturnStatus := .sent
  creditUsd : ℚ := 0
  creditLbp : ℚ := 0
  ledgerEntryId : Option ℕ := none
  costTransactionId : Option ℕ := none
  restockBatchId : Option ℕ := none
  userId : ℕ
  closedBy : Option ℕ := none
  notes : Option String
  deriving DecidableEq, Repr

inductive WarrantyCostKind where
  | cost | notFaulty | supplierCredit | supplierReplaced | reversal
  deriving DecidableEq, Repr

/-- A `WARRANTY_COST` row: profit of a claim, no money of its own. -/
structure WarrantyCost where
  claimId : ℕ
  clientId : Option ℕ
  userId : ℕ
  profitUsd : ℚ
  profitLbp : ℚ
  summary : String
  kind : WarrantyCostKind
  supplierReturnId : Option ℕ
  reversesId : Option ℕ
  deriving DecidableEq, Repr

/-- An `ADJUSTMENT` of what is owed to a supplier. -/
structure LedgerEntry where
  supplierId : ℕ
  amountUsd : ℚ
  amountLbp : ℚ
  note : String
  createdBy : ℕ
  deriving DecidableEq, Repr

structure System where
  claims : Table WarrantyClaim := {}
  defective : Table DefectiveItem := {}
  returns : Table SupplierReturn := {}
  costs : Table WarrantyCost := {}
  /-- the entries that returns have made -/
  ledger : Table LedgerEntry := {}
  shop : Shop := {}

/-! Writes on the rows of claims. -/

structure CostInput where
  claimId : ℕ
  clientId : Option ℕ
  userId : ℕ
  usd : ℚ
  lbp : ℚ := 0
  summary : String
  kind : WarrantyCostKind
  reversesId : Option ℕ := none
  supplierReturnId : Option ℕ := none

/-- Whole cents and whole lira. -/
def CostInput.row (input : CostInput) : WarrantyCost where
  claimId := input.claimId
  clientId := input.clientId
  userId := input.userId
  profitUsd := roundTo 100 input.usd
  profitLbp := round input.lbp
  summary := input.summary
  kind := input.kind
  supplierReturnId := input.supplierReturnId
  reversesId := input.reversesId

namespace System
variable (s : System)

def withShop (shop : Shop) : System :=
  { s with shop }

def bookCost (input : CostInput) : System :=
  { s with costs := s.costs.insert input.row }

def changeClaim (claimId : ℕ) (change : WarrantyClaim → WarrantyClaim) : System :=
  { s with claims := s.claims.update claimId change }

def insertItem (item : DefectiveItem) : System :=
  { s with defective := s.defective.insert item }

def setStatus (itemId : ℕ) (status : DefectiveItemStatus) (restockBatchId : Option ℕ) : System :=
  { s with defective := s.defective.update itemId fun item => { item with status, restockBatchId } }

def addLedgerEntry (entry : LedgerEntry) : System :=
  { s with ledger := s.ledger.insert entry }

/-- Only a return that is still with the supplier is written. -/
def closeReturn (returnId : ℕ) (change : SupplierReturn → SupplierReturn) : System :=
  { s with returns := (s.returns.updateIf returnId (·.status = .sent) change).1 }

end System

/-! Stock, units and jobs. -/

namespace Shop
variable (shop : Shop)

def adjustStock (productId : ℕ) (delta : ℤ) : Shop :=
  { shop with products := shop.products.update productId fun p => { p with stockQuantity := p.stockQuantity + delta } }

/-- Nothing is taken from an empty shelf. -/
def takeOneFromStock (productId : ℕ) : Shop × Bool :=
  let taken := shop.products.updateIf productId (1 ≤ ·.stockQuantity) fun p => { p with stockQuantity := p.stockQuantity - 1 }
  ({ shop with products := taken.1 }, taken.2)

def inStockUnits (productId : ℕ) : ℕ :=
  (shop.units.select fun unit => unit.productId = productId && unit.status = .inStock).length

def changeUnit (unitId : ℕ) (change : ProductUnit → ProductUnit) : Shop :=
  { shop with units := shop.units.update unitId change }

def uniqueImeiText : String :=
  "UNIQUE constraint failed: product_units.tenant_id, product_units.imei"

/-- Only one unit of an IMEI can be in stock. -/
def toShelf (unitId : ℕ) (change : ProductUnit → ProductUnit) : Except String Shop :=
  (check ((shop.units.get unitId).any fun unit =>
    shop.units.rows.any fun other => other.1 ≠ unitId && other.2.imei = unit.imei && other.2.status = .inStock) uniqueImeiText).map
      fun _ => shop.changeUnit unitId fun unit => { change unit with status := .inStock }

def markReplacementSold (unitId claimId : ℕ) (overrideUntil : Option String) : Shop × Bool :=
  let sold := shop.units.updateIf unitId (·.status = .inStock) fun unit =>
    { unit with status := .sold, warrantyClaimId := some claimId, warrantyOverrideUntil := overrideUntil }
  ({ shop with units := sold.1 }, sold.2)

def releaseReplacement (unitId : ℕ) : Except String Shop :=
  shop.toShelf unitId fun unit => { unit with warrantyClaimId := none, warrantyOverrideUntil := none }

def setUnitDefective (unitId : ℕ) (defective : Bool) : Shop :=
  shop.changeUnit unitId fun unit => { unit with isDefective := defective }

def returnUnitToStock (unitId : ℕ) : Except String Shop :=
  shop.toShelf unitId fun unit => { unit with isDefective := false }

def unitBackToDefective (unitId : ℕ) : Shop × Bool :=
  let back := shop.units.updateIf unitId (·.status = .inStock) fun unit => { unit with status := .sold, isDefective := true }
  ({ shop with units := back.1 }, back.2)

/-- The supplier of the first batch that the line was drawn from. -/
def supplierForSaleItem (saleItemId : ℕ) : Option ℕ :=
  (rowsOfSaleItem shop.book saleItemId).findSome? fun row => (shop.book.batches.get row.2.batchId).bind (·.supplierId)

def restorePart (part : ℕ × MaintenancePart) : Shop :=
  let restored := shop.adjustStock part.2.productId part.2.quantity
  { restored with
    book := restoreForMaintenancePart restored.book part.1 none
    parts := restored.parts.update part.1 fun row => { row with stockRestored := true } }

def recomputeMaintenancePartsTotals (jobId : ℕ) : Shop :=
  { shop with
    jobs := shop.jobs.update jobId fun job =>
      { job with partsCostUsd := shop.parts.total fun part =>
          if part.maintenanceId = jobId then part.quantity * part.unitCostUsd else 0 } }

/-- A part that is back is not given back again. -/
def restoreMaintenanceJobParts (jobId : ℕ) : Shop :=
  ((shop.parts.select fun part => part.maintenanceId = jobId && !part.stockRestored).foldl restorePart shop).recomputeMaintenancePartsTotals
    jobId

def voidWarrantyJob (jobId : ℕ) : Shop :=
  let restored := shop.restoreMaintenanceJobParts jobId
  { restored with jobs := restored.jobs.update jobId fun job => { job with status := "Voided" } }

/-! The refund of a line, on the line itself. -/

def refundLine (saleItemId : ℕ) (quantity : ℤ) (warrantyClaimId : Option ℕ) (defectiveUnitIds : List ℕ) : Except String Shop :=
  (found (shop.lines.get saleItemId) ("sale_item with id " ++ saleItemId.repr ++ " not found")).bind fun line =>
  (check (quantity ≤ 0) "Refund quantity must be greater than 0").bind fun _ =>
  (check (line.quantity - line.refundedQuantity < quantity)
    ("Cannot refund " ++ quantity.repr ++ " - only " ++ (line.quantity - line.refundedQuantity).repr ++ " available (already refunded " ++
      line.refundedQuantity.repr ++ ")")).map fun _ =>
  { shop with
    lines := shop.lines.update saleItemId fun line => { line with refundedQuantity := line.refundedQuantity + quantity }
    refunds := shop.refunds.insert { saleItemId, refundQuantity := quantity, warrantyClaimId, defectiveUnitIds } }

/-- A refund is undone once, and that of a claim only with its claim. -/
def unrefundLine (refundId : ℕ) (fromWarrantyClaim : Bool) : Except String Shop :=
  (found (shop.refunds.get refundId) ("transaction with id " ++ refundId.repr ++ " not found")).bind fun refund =>
  (check (refund.warrantyClaimId.isSome && !fromWarrantyClaim)
    "This refund belongs to a warranty claim — void the claim from the Warranty page instead.").bind fun _ =>
  (check refund.isUndone "This refund has already been undone.").bind fun _ =>
  (found (shop.lines.get refund.saleItemId) ("sale_item with id " ++ refund.saleItemId.repr ++ " not found")).bind fun line =>
  (check (line.refundedQuantity < refund.refundQuantity)
    "This item's refunded quantity no longer matches this refund — cannot undo it safely.").map fun _ =>
  { shop with
    lines := shop.lines.update refund.saleItemId fun line =>
      { line with refundedQuantity := line.refundedQuantity - refund.refundQuantity }
    refunds := shop.refunds.update refundId fun row => { row with isUndone := true } }

end Shop

end Liratek.Warranty.ClaimTables
