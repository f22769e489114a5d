import Liratek.Lib.Table
import Liratek.Money.FifoCoverage
import Mathlib.Algebra.Ring.Rat
import Mathlib.Data.List.Sort
import Mathlib.Data.Rat.Defs
import Mathlib.Data.String.Basic

/-! Stock batches of one shop: units received at a cost, and the rows that trace which of them were used. -/

namespace Liratek.Stock.Batches
open Lib Money.FifoCoverage

structure StockBatch where
  productId : Nat
  supplierId : Option Nat
  quantity : ℤ
  quantityRemaining : ℤ
  unitCostUsd : ℚ
  booksDebt : Bool
  ledgerEntryId : Option Nat
  transactionId : Option Nat
  isOpening : Bool
  createdBy : Option Nat
  /-- compared as a string -/
  createdAt : String
  deriving DecidableEq, Repr

inductive ConsumeReason where
  | sale | adjustment | service
  deriving DecidableEq, Repr

/-- The owner columns of a consumption row. -/
structure Owners where
  saleItemId : Option Nat := none
  customServiceId : Option Nat := none
  maintenancePartId : Option Nat := none
  expenseId : Option Nat := none
  warrantyClaimId : Option Nat := none
  deriving DecidableEq, Repr

inductive ConsumptionOwnerColumn where
  | saleItemId | customServiceId | maintenancePartId | expenseId | warrantyClaimId
  deriving DecidableEq, Repr

def Owners.column (o : Owners) : ConsumptionOwnerColumn → Option Nat
  | .saleItemId => o.saleItemId
  | .customServiceId => o.customServiceId
  | .maintenancePartId => o.maintenancePartId
  | .expenseId => o.expenseId
  | .warrantyClaimId => o.warrantyClaimId

structure ConsumptionRow where
  batchId : Nat
  owners : Owners
  productId : Nat
  quantity : ℤ
  unitCostUsd : ℚ
  reason : ConsumeReason
  isRestored : Bool := false
  createdAt : String
  deriving DecidableEq, Repr

structure Book where
  batches : Table StockBatch := {}
  consumptions : Table ConsumptionRow := {}
  deriving DecidableEq, Repr

inductive BatchError where
  | createFailed
  | deleteFailed (batchId : Nat)
  | insufficientRestoredStock
  deriving DecidableEq, Repr

def BatchError.message : BatchError → String
  | .createFailed => "Failed to create stock batch"
  | .deleteFailed _ => "Failed to delete stock batch for void"
  | .insufficientRestoredStock =>
    "Insufficient restored stock to undo this refund — some of it may have been consumed by other sales since."

structure CreateStockBatchData where
  productId : Nat
  supplierId : Option Nat
  quantity : ℤ
  unitCostUsd : ℚ
  booksDebt : Bool
  ledgerEntryId : Option Nat := none
  transactionId : Option Nat := none
  isOpening : Bool := false
  createdBy : Option Nat
  deriving DecidableEq, Repr

/-- The table takes no batch without units. -/
def createBatch (b : Book) (data : CreateStockBatchData) (now : String) : Except BatchError Book :=
  if 0 < data.quantity then
    .ok { b with
      batches := b.batches.insert
        { productId := data.productId
          supplierId := data.supplierId
          quantity := data.quantity
          quantityRemaining := data.quantity
          unitCostUsd := data.unitCostUsd
          booksDebt := data.booksDebt
          ledgerEntryId := data.ledgerEntryId
          transactionId := data.transactionId
          isOpening := data.isOpening
          createdBy := data.createdBy
          createdAt := now } }
  else .error .createFailed

/-- `FIFO_ORDER`, as `<=` -/
def fifoOrder (a b : Nat × StockBatch) : Bool :=
  if a.2.createdAt ≠ b.2.createdAt then a.2.createdAt < b.2.createdAt else a.1 ≤ b.1

def listOpenByProduct (b : Book) (productId : Nat) : List (Nat × StockBatch) :=
  (b.batches.select fun batch => batch.productId = productId && 0 < batch.quantityRemaining).insertionSort
    fun x y => fifoOrder x y = true

structure ConsumeOptions where
  owners : Owners := {}
  reason : ConsumeReason
  fallbackUnitCostUsd : ℚ
  /-- the request's time -/
  now : String
  deriving DecidableEq, Repr

/-- A claim owns its rows alone, then an expense. -/
def ownerColumns (o : Owners) : Owners :=
  if o.warrantyClaimId.isSome then { warrantyClaimId := o.warrantyClaimId }
  else if o.expenseId.isSome then { expenseId := o.expenseId }
  else { o with expenseId := none, warrantyClaimId := none }

structure BatchTake where
  batchId : Nat
  quantity : ℤ
  unitCostUsd : ℚ
  deriving DecidableEq, Repr

def takeFromBatch (productId : Nat) (opts : ConsumeOptions) (b : Book) (batchId : Nat) (batch : StockBatch)
    (takeQty : ℤ) : Book where
  batches := b.batches.update batchId fun x => { x with quantityRemaining := x.quantityRemaining - takeQty }
  consumptions := b.consumptions.insert
    { batchId := batchId
      owners := ownerColumns opts.owners
      productId := productId
      quantity := takeQty
      unitCostUsd := batch.unitCostUsd
      reason := opts.reason
      createdAt := opts.now }

/-- The takes of one call, each with the batch it is from. -/
def allocations (b : Book) (productId : Nat) (quantity : ℤ) : List ((Nat × StockBatch) × ℤ) :=
  (allocateFifo (fun m => m ≤ 0)
    ((listOpenByProduct b productId).map fun entry => { id := entry.1, outstanding := entry.2.quantityRemaining })
    quantity).filterMap fun t => (b.batches.get t.id).map fun batch => ((t.id, batch), t.take)

structure ConsumeResult where
  takes : List BatchTake
  totalCostUsd : ℚ
  weightedUnitCostUsd : ℚ
  uncoveredQuantity : ℤ
  deriving DecidableEq, Repr

def consumeResult (takes : List BatchTake) (quantity : ℤ) (fallbackUnitCostUsd : ℚ) : ConsumeResult :=
  let uncovered := quantity - (takes.map (·.quantity)).sum
  let covered := (takes.map fun t => (t.quantity : ℚ) * t.unitCostUsd).sum
  let total := if 0 < uncovered then covered + uncovered * fallbackUnitCostUsd else covered
  { takes := takes
    totalCostUsd := total
    weightedUnitCostUsd := total / quantity
    uncoveredQuantity := uncovered }

/-- Never refused: what no batch covers is priced at the fallback. -/
def consume (b : Book) (productId : Nat) (quantity : ℤ) (opts : ConsumeOptions) : Book × ConsumeResult :=
  if quantity ≤ 0 then (b, { takes := [], totalCostUsd := 0, weightedUnitCostUsd := 0, uncoveredQuantity := 0 })
  else
    let taken := allocations b productId quantity
    (taken.foldl (fun acc t => takeFromBatch productId opts acc t.1.1 t.1.2 t.2) b,
      consumeResult (taken.map fun t => { batchId := t.1.1, quantity := t.2, unitCostUsd := t.1.2.unitCostUsd }) quantity
        opts.fallbackUnitCostUsd)

/-! Giving units back. -/

/-- Newest first, as `<=` -/
def newestFirst (a b : Nat × ConsumptionRow) : Bool :=
  if a.2.createdAt ≠ b.2.createdAt then b.2.createdAt < a.2.createdAt else b.1 ≤ a.1

def restorable (b : Book) (ownerColumn : ConsumptionOwnerColumn) (ownerId : Nat) : List (Nat × ConsumptionRow) :=
  (b.consumptions.select fun row => row.owners.column ownerColumn = some ownerId && !row.isRestored).insertionSort
    fun x y => newestFirst x y = true

/-- A row fully given back is flagged; a part of it leaves the row smaller. -/
def giveBack (b : Book) (rowId : Nat) (row : ConsumptionRow) (give : ℤ) : Book where
  batches := b.batches.update row.batchId fun x => { x with quantityRemaining := x.quantityRemaining + give }
  consumptions := b.consumptions.update rowId fun r =>
    if row.quantity ≤ give then { r with isRestored := true } else { r with quantity := r.quantity - give }

/-- `remaining` is `none` when everything is given back. -/
def restoreRows : Book → List (Nat × ConsumptionRow) → Option ℤ → Book
  | b, [], _ => b
  | b, (rowId, row) :: rest, remaining =>
    if remaining.any (· ≤ 0) then b
    else
      let give := (remaining.map (min · row.quantity)).getD row.quantity
      if give ≤ 0 then restoreRows b rest remaining
      else restoreRows (giveBack b rowId row give) rest (remaining.map (· - give))

/-- `_restoreConsumptions` -/
def restoreConsumptions (b : Book) (ownerColumn : ConsumptionOwnerColumn) (ownerId : Nat) (quantity : Option ℤ) : Book :=
  restoreRows b (restorable b ownerColumn ownerId) quantity

def restoreForSaleItem (b : Book) (saleItemId : Nat) (quantity : Option ℤ) : Book :=
  restoreConsumptions b .saleItemId saleItemId quantity

def restoreForCustomService (b : Book) (customServiceId : Nat) (quantity : Option ℤ) : Book :=
  restoreConsumptions b .customServiceId customServiceId quantity

def restoreForMaintenancePart (b : Book) (maintenancePartId : Nat) (quantity : Option ℤ) : Book :=
  restoreConsumptions b .maintenancePartId maintenancePartId quantity

def restoreForExpense (b : Book) (expenseId : Nat) (quantity : Option ℤ) : Book :=
  restoreConsumptions b .expenseId expenseId quantity

def restoreForWarrantyClaim (b : Book) (warrantyClaimId : Nat) (quantity : Option ℤ) : Book :=
  restoreConsumptions b .warrantyClaimId warrantyClaimId quantity

/-! Undoing a refund. -/

def rowsOfSaleItem (b : Book) (saleItemId : Nat) : List (Nat × ConsumptionRow) :=
  b.consumptions.select fun row => row.owners.saleItemId = some saleItemId

def restoredRows (b : Book) (saleItemId : Nat) : List (Nat × ConsumptionRow) :=
  b.consumptions.select fun row => row.owners.saleItemId = some saleItemId && row.isRestored

/-- The plan against the batches, before anything is written. -/
def planUnrestore (b : Book) : List (Nat × ConsumptionRow) → ℤ → (Nat → ℤ) → Bool
  | [], remaining, _ => remaining ≤ 0
  | (_, row) :: rest, remaining, planned =>
    if remaining ≤ 0 then true
    else
      let give := min remaining row.quantity
      if give ≤ 0 then planUnrestore b rest remaining planned
      else
        let available := ((b.batches.get row.batchId).map (·.quantityRemaining)).getD 0 - planned row.batchId
        if available < give then false
        else planUnrestore b rest (remaining - give) (Function.update planned row.batchId (planned row.batchId + give))

/-- Stock that was never batch-tracked is no reason to refuse. -/
def canUnrestoreForSaleItem (b : Book) (saleItemId : Nat) (quantity : ℤ) : Bool :=
  if (rowsOfSaleItem b saleItemId).isEmpty then true
  else
    planUnrestore b
      ((restoredRows b saleItemId).filter fun entry => (b.batches.get entry.2.batchId).isSome) quantity fun _ => 0

/-- The row counts as used again, with the quantity it has. -/
def takeBack (b : Book) (rowId : Nat) (row : ConsumptionRow) (give : ℤ) : Book where
  batches := b.batches.update row.batchId fun x => { x with quantityRemaining := x.quantityRemaining - give }
  consumptions := b.consumptions.update rowId fun r => { r with isRestored := false }

def unrestoreRows : Book → List (Nat × ConsumptionRow) → ℤ → Except BatchError Book
  | b, [], remaining => if 0 < remaining then .error .insufficientRestoredStock else .ok b
  | b, (rowId, row) :: rest, remaining =>
    if remaining ≤ 0 then .ok b
    else
      let give := min remaining row.quantity
      if give ≤ 0 then unrestoreRows b rest remaining
      else
        if ((b.batches.get row.batchId).map (·.quantityRemaining)).any (give ≤ ·) then
          unrestoreRows (takeBack b rowId row give) rest (remaining - give)
        else .error .insufficientRestoredStock

def unrestoreForSaleItem (b : Book) (saleItemId : Nat) (quantity : ℤ) : Except BatchError Book :=
  if (rowsOfSaleItem b saleItemId).isEmpty then .ok b
  else unrestoreRows b (restoredRows b saleItemId) quantity

/-! Taking a delivery back out. -/

def hasConsumption (b : Book) (batchId : Nat) : Bool :=
  !(b.consumptions.select fun row => row.batchId = batchId).isEmpty

def removeUntouchedBatch (b : Book) (batchId : Nat) : Book × Bool :=
  if hasConsumption b batchId then (b, false)
  else
    match b.batches.get batchId with
    | none => (b, false)
    | some batch =>
      if batch.quantityRemaining = batch.quantity then ({ b with batches := b.batches.delete batchId }, true)
      else (b, false)

def dropUnrestored (b : Book) (batchId : Nat) : Book :=
  { b with consumptions := b.consumptions.deleteWhere fun row => row.batchId = batchId && !row.isRestored }

/-- A batch that a row still names cannot be deleted: the foreign key refuses. -/
def deleteBatchForVoid (b : Book) (batchId : Nat) : Except BatchError (Book × Bool) :=
  match b.batches.get batchId with
  | none => .ok (b, false)
  | some batch =>
    if batch.quantityRemaining < batch.quantity then .ok (b, false)
    else if hasConsumption (dropUnrestored b batchId) batchId then .error (.deleteFailed batchId)
    else .ok ({ dropUnrestored b batchId with batches := b.batches.delete batchId }, true)

inductive Action where
  | createBatch (data : CreateStockBatchData) (now : String)
  | consume (productId : Nat) (quantity : ℤ) (opts : ConsumeOptions)
  | restoreForSaleItem (saleItemId : Nat) (quantity : Option ℤ)
  | restoreForCustomService (customServiceId : Nat) (quantity : Option ℤ)
  | restoreForMaintenancePart (maintenancePartId : Nat) (quantity : Option ℤ)
  | restoreForExpense (expenseId : Nat) (quantity : Option ℤ)
  | restoreForWarrantyClaim (warrantyClaimId : Nat) (quantity : Option ℤ)
  | unrestoreForSaleItem (saleItemId : Nat) (quantity : ℤ)
  | removeUntouchedBatch (batchId : Nat)
  | deleteBatchForVoid (batchId : Nat)

/-- A call that throws is rolled back. The caller of an undo asks first whether it can be traced. -/
def exec (b : Book) : Action → Book
  | .createBatch data now =>
    match createBatch b data now with
    | .ok b' => b'
    | .error _ => b
  | .consume productId quantity opts => (consume b productId quantity opts).1
  | .restoreForSaleItem saleItemId quantity => restoreForSaleItem b saleItemId quantity
  | .restoreForCustomService customServiceId quantity => restoreForCustomService b customServiceId quantity
  | .restoreForMaintenancePart maintenancePartId quantity => restoreForMaintenancePart b maintenancePartId quantity
  | .restoreForExpense expenseId quantity => restoreForExpense b expenseId quantity
  | .restoreForWarrantyClaim warrantyClaimId quantity => restoreForWarrantyClaim b warrantyClaimId quantity
  | .unrestoreForSaleItem saleItemId quantity =>
    if canUnrestoreForSaleItem b saleItemId quantity then
      match unrestoreForSaleItem b saleItemId quantity with
      | .ok b' => b'
      | .error _ => b
    else b
  | .removeUntouchedBatch batchId => (removeUntouchedBatch b batchId).1
  | .deleteBatchForVoid batchId =>
    match deleteBatchForVoid b batchId with
    | .ok r => r.1
    | .error _ => b

end Liratek.Stock.Batches
