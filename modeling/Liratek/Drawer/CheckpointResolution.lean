import Liratek.Drawer.CheckpointDifference
import Liratek.Lib.Calls
import Liratek.Lib.Table
import Mathlib.Data.List.Dedup

/-! Transactions saved with a time before a checkpoint. The checkpoint already counted their money. -/

namespace Liratek.Drawer.CheckpointResolution
open Lib Lib.Calls CheckpointDifference

inductive TransactionType where
  /-- any flow that the generic void reverses -/
  | flow
  | holdMoneyCollect
  | holdMoneyCollectVoid
  deriving DecidableEq, Repr

inductive TransactionStatus where
  | active | voided
  deriving DecidableEq, Repr

structure Transaction where
  kind : TransactionType
  createdAt : ℤ
  status : TransactionStatus := .active
  reversesId : Option Nat := none
  /-- the transaction an auto expense belongs to -/
  sourceRef : Option Nat := none

/-- A row of `payments`. -/
structure Payment where
  transactionId : Nat
  method : String
  drawerName : String
  currencyCode : String
  amount : ℚ

structure DailyClosing where
  createdAt : ℤ
  /-- the drawers and currencies it counted -/
  amounts : List (String × String)

structure Difference where
  closingId : Nat
  drawerName : String
  currencyCode : String
  /-- more in the drawer than expected, or less -/
  amount : ℚ
  isClosed : Bool := false

structure Resolution where
  differenceId : Nat
  transactionId : Nat
  /-- signed like the difference -/
  amount : ℚ

/-- A Drawer shortage expense. It posts nothing to a drawer. -/
structure Expense where
  differenceId : Nat
  amountUsd : ℚ
  amountLbp : ℚ
  isRefunded : Bool := false

structure HoldMoneyPickup where
  transactionId : Nat
  isVoided : Bool := false

structure Books where
  balance : String → String → ℚ := fun _ _ => 0
  transactions : Table Transaction := {}
  payments : Table Payment := {}
  closings : Table DailyClosing := {}
  differences : Table Difference := {}
  resolutions : Table Resolution := {}
  expenses : Table Expense := {}
  pickups : Table HoldMoneyPickup := {}

inductive BooksError where
  | binanceLbp
  | notFound (transactionId : Nat)
  | alreadyVoided
  | notReversible (kind : TransactionType)
  | reversal
  | pickupNotFound
  | pickupAlreadyVoided
  | differenceNotFound
  | alreadyClosed
  | nothingOpen
  | notClosed
  deriving DecidableEq, Repr

def TransactionType.text : TransactionType → String
  | .flow => "TRANSACTION"
  | .holdMoneyCollect => "HOLD_MONEY_COLLECT"
  | .holdMoneyCollectVoid => "HOLD_MONEY_COLLECT_VOID"

def BooksError.message (number : Nat → String) : BooksError → String
  | .binanceLbp => "Binance only takes USDT — enter the Binance line in dollars."
  | .notFound transactionId => "transactions with id " ++ number transactionId ++ " not found"
  | .alreadyVoided => "Transaction is already voided"
  | .notReversible kind =>
    kind.text ++ " transactions cannot be voided or refunded — reverse them from their own module"
  | .reversal => "Cannot void or refund a reversal transaction"
  | .pickupNotFound => "Pickup not found"
  | .pickupAlreadyVoided => "Pickup already voided"
  | .differenceNotFound => "Checkpoint difference not found"
  | .alreadyClosed => "This difference is already closed"
  | .nothingOpen => "There is nothing left open to close on this difference"
  | .notClosed => "This difference is not closed"

/-! Postings. -/

def checkpointResolutionMethod : String := "CHECKPOINT_RESOLUTION"

def isCheckpointPaymentMethod (method : String) : Bool :=
  method == "CHECKPOINT_ADJUSTMENT" || method == checkpointResolutionMethod

def isAuditOnlyPaymentMethod (method : String) : Bool :=
  method == "PM_FEE"

/-- `drawerAffectingPayments` -/
def drawerAffecting (method : String) : Bool :=
  method != "CUSTOMER_ACCOUNT" && !isAuditOnlyPaymentMethod method

/-- The Binance drawer holds USDT only. -/
def postingCurrency (drawerName currencyCode : String) : Except BooksError String :=
  if drawerName ≠ "Binance" then .ok currencyCode
  else if currencyCode = "USD" then .ok "USDT"
  else if currencyCode = "LBP" then .error .binanceLbp
  else .ok currencyCode

def addTo (balance : String → String → ℚ) (drawerName currencyCode : String) (delta : ℚ) : String → String → ℚ :=
  fun d c => if d = drawerName ∧ c = currencyCode then balance d c + delta else balance d c

def applyDrawerDelta (s : Books) (drawerName currencyCode : String) (delta : ℚ) : Books :=
  { s with balance := addTo s.balance drawerName currencyCode delta }

def insertPaymentRow (s : Books) (row : Payment) : Books :=
  { s with payments := s.payments.insert row }

/-- A payment row and what it does to its drawer. -/
def movePayment (s : Books) (row : Payment) : Books :=
  applyDrawerDelta (insertPaymentRow s row) row.drawerName row.currencyCode row.amount

/-- An audit-only row moves no drawer: its money is inside another leg. -/
def bookRow (s : Books) (row : Payment) : Books :=
  if isAuditOnlyPaymentMethod row.method then insertPaymentRow s row else movePayment s row

/-- A leg a flow posts. Money on a customer's account has no row, and the checkpoint's own methods are not the flow's. -/
structure Leg where
  method : String
  drawerName : String
  currencyCode : String
  amount : ℚ
  ofFlow : isCheckpointPaymentMethod method = false
  onDrawer : method ≠ "CUSTOMER_ACCOUNT"

def legRow (transactionId : Nat) (leg : Leg) (currencyCode : String) : Payment where
  transactionId := transactionId
  method := leg.method
  drawerName := leg.drawerName
  currencyCode := currencyCode
  amount := leg.amount

def postLeg (transactionId : Nat) (s : Books) (leg : Leg) : Except BooksError Books :=
  (postingCurrency leg.drawerName leg.currencyCode).map fun currencyCode =>
    bookRow s (legRow transactionId leg currencyCode)

/-! What is open on a difference. -/

/-- `ACTIVE_RESOLUTION_SQL`, by the transaction that resolves -/
def stillCounts (s : Books) (transactionId : Nat) : Bool :=
  ((s.transactions.get transactionId).any fun t => t.status ≠ .voided) &&
    !s.transactions.rows.any fun entry =>
      entry.2.reversesId = some transactionId && entry.2.kind = .holdMoneyCollectVoid

/-- What the resolutions that count amount to. -/
def resolvedOf (s : Books) (differenceId : Nat) : ℚ :=
  s.resolutions.total fun r =>
    if r.differenceId = differenceId && stillCounts s r.transactionId then |r.amount| else 0

def describe (s : Books) (id : Nat) (d : Difference) : CheckpointDifferenceSummary :=
  describeCheckpointDifference
    { amount := d.amount
      resolved := resolvedOf s id
      closed := d.isClosed
      currencyCode := d.currencyCode }

/-! The Drawer shortage expense. -/

/-- `DRAWER_SHORTAGE_EXPENSE_CURRENCIES` -/
def bookable (currencyCode : String) : Bool :=
  currencyCode == "USD" || currencyCode == "LBP"

def shortageTarget (s : Books) (id : Nat) (d : Difference) : ℚ :=
  if d.isClosed && (describe s id d).direction = .short && bookable d.currencyCode then (describe s id d).openAmount else 0

def isActiveExpense (differenceId : Nat) (e : Expense) : Bool :=
  e.differenceId = differenceId && !e.isRefunded

def activeExpenses (s : Books) (differenceId : Nat) : List Expense :=
  (s.expenses.select (isActiveExpense differenceId)).map (·.2)

def amountIn (currencyCode : String) (e : Expense) : ℚ :=
  if currencyCode = "LBP" then e.amountLbp else e.amountUsd

/-- `bookDrawerShortageExpense` -/
def shortageExpense (differenceId : Nat) (currencyCode : String) (amount : ℚ) : Expense where
  differenceId := differenceId
  amountUsd := if currencyCode = "USD" then |amount| else 0
  amountLbp := if currencyCode = "LBP" then |amount| else 0

def refundExpense (e : Expense) : Expense :=
  { e with isRefunded := true }

/-- The callers hold a recorded difference, so that none is missing. -/
def syncShortageExpense (s : Books) (differenceId : Nat) : Books :=
  match s.differences.get differenceId with
  | none => s
  | some d =>
    let target := shortageTarget s differenceId d
    let active := activeExpenses s differenceId
    let held := (active.map (amountIn d.currencyCode)).sum
    if active.length ≤ 1 && |held - target| < 1 / 10 ^ 9 then s
    else
      let cleared := s.expenses.updateWhere (isActiveExpense differenceId) refundExpense
      { s with
        expenses := if 0 < target then cleared.insert (shortageExpense differenceId d.currencyCode target) else cleared }

def syncAll (s : Books) (differenceIds : List Nat) : Books :=
  differenceIds.foldl syncShortageExpense s

/-! The resolution of a transaction's movements. -/

/-- The time first, then the id. -/
def earlierClosing (a b : Nat × DailyClosing) : Bool :=
  a.2.createdAt < b.2.createdAt || a.2.createdAt = b.2.createdAt && a.1 < b.1

/-- `firstCheckpointsAfter`, narrowed to one drawer and currency -/
def firstCheckpointAfter (s : Books) (time : ℤ) (drawerName currencyCode : String) : Option Nat :=
  let counted := s.closings.select fun c => time < c.createdAt && c.amounts.contains (drawerName, currencyCode)
  (counted.find? fun entry => !counted.any fun other => earlierClosing other entry).map (·.1)

def anyDifferenceAfter (s : Books) (time : ℤ) : Bool :=
  s.differences.rows.any fun entry => (s.closings.get entry.2.closingId).any fun c => time < c.createdAt

def isOn (drawerName currencyCode : String) (d : Difference) : Bool :=
  d.drawerName = drawerName && d.currencyCode = currencyCode

def differenceOf (s : Books) (closingId : Nat) (drawerName currencyCode : String) : Option (Nat × Difference) :=
  (s.differences.select fun d => d.closingId = closingId && isOn drawerName currencyCode d).head?

def canAbsorb (s : Books) (entry : Nat × Difference) : Bool :=
  0 < (describe s entry.1 entry.2).openAmount

/-- The MTC and Alfa drawers follow their lines. -/
def isLineDerivedDrawer (drawerName currencyCode : String) : Bool :=
  currencyCode == "USD" && (drawerName == "Alfa" || drawerName == "MTC")

structure Net where
  drawerName : String
  currencyCode : String
  net : ℚ

/-- The auto expenses of a transaction. -/
def expenseSiblings (s : Books) (transactionId : Nat) : List (Nat × Transaction) :=
  s.transactions.select fun t => t.sourceRef = some transactionId && t.status = .active && t.reversesId.isNone

def isMovement (transactionIds : List Nat) (row : Payment) : Bool :=
  transactionIds.contains row.transactionId && drawerAffecting row.method && row.method != checkpointResolutionMethod

def netsOf (s : Books) (transactionIds : List Nat) : List Net :=
  let rows := s.payments.select (isMovement transactionIds)
  (rows.map fun entry => (entry.2.drawerName, entry.2.currencyCode)).dedup.map fun key =>
    { drawerName := key.1
      currencyCode := key.2
      net := s.payments.total fun row =>
        if isMovement transactionIds row && row.drawerName = key.1 && row.currencyCode = key.2 then row.amount else 0 }

/-- The difference that takes the movement, if any. -/
def absorbing (s : Books) (time : ℤ) (n : Net) : Option (Nat × Difference) :=
  if |n.net| ≤ checkpointDifferenceEpsilon n.currencyCode then none
  else if isLineDerivedDrawer n.drawerName n.currencyCode then none
  else
    ((firstCheckpointAfter s time n.drawerName n.currencyCode).bind fun closingId =>
        differenceOf s closingId n.drawerName n.currencyCode).filter fun entry =>
      canAbsorb s entry && directionOf entry.2.amount = directionOf n.net

def signOf (x : ℚ) : ℚ :=
  if 0 < x then 1 else -1

def offsetRow (transactionId : Nat) (n : Net) (amount : ℚ) : Payment where
  transactionId := transactionId
  method := checkpointResolutionMethod
  drawerName := n.drawerName
  currencyCode := n.currencyCode
  amount := amount

/-- The offset leg and the resolution row. -/
def recordResolution (s : Books) (transactionId : Nat) (n : Net) (entry : Nat × Difference) : Books :=
  let resolved := min |n.net| (describe s entry.1 entry.2).openAmount
  let moved := movePayment s (offsetRow transactionId n (-(signOf n.net) * resolved))
  { moved with
    resolutions := moved.resolutions.insert
      { differenceId := entry.1, transactionId := transactionId, amount := signOf n.net * resolved } }

/-- With the closed differences it touched. -/
def resolveNets (transactionId : Nat) (time : ℤ) : Books → List Net → Books × List Nat
  | s, [] => (s, [])
  | s, n :: rest =>
    match absorbing s time n with
    | none => resolveNets transactionId time s rest
    | some entry =>
      let others := resolveNets transactionId time (recordResolution s transactionId n entry) rest
      (others.1, if entry.2.isClosed then entry.1 :: others.2 else others.2)

def resolveBackTimedDrawerMovement (s : Books) (transactionId : Nat) : Books :=
  match s.transactions.get transactionId with
  | none => s
  | some txn =>
    if txn.status ≠ .active || txn.reversesId.isSome then s
    else if !anyDifferenceAfter s txn.createdAt then s
    else
      let transactionIds := transactionId :: (expenseSiblings s transactionId).map (·.1)
      let resolved := resolveNets transactionId txn.createdAt s (netsOf s transactionIds)
      syncAll resolved.1 resolved.2

def resyncShortageAfterVoid (s : Books) (transactionId : Nat) : Books :=
  let touched := ((s.resolutions.select fun r => r.transactionId = transactionId).map (·.2.differenceId)).dedup
  syncAll s (touched.filter fun id => (s.differences.get id).any (·.isClosed))

/-! A checkpoint, and the owner's close and reopen. -/

structure CheckpointAdjustment where
  drawerName : String
  currencyCode : String
  delta : ℚ

/-- `RECONCILE_EPSILON` -/
def posted (a : CheckpointAdjustment) : Bool :=
  1 / 10000 < |a.delta|

def differenceRow (closingId : Nat) (a : CheckpointAdjustment) : Difference where
  closingId := closingId
  drawerName := a.drawerName
  currencyCode := a.currencyCode
  amount := a.delta

/-- A correction within the tolerance records nothing. -/
def recorded (a : CheckpointAdjustment) : Bool :=
  a.drawerName != "AGGREGATED" && checkpointDifferenceEpsilon a.currencyCode < |a.delta|

def postAdjustment (closingId : Nat) (s : Books) (a : CheckpointAdjustment) : Books :=
  if posted a then
    let moved := applyDrawerDelta s a.drawerName a.currencyCode a.delta
    if recorded a then { moved with differences := moved.differences.insert (differenceRow closingId a) } else moved
  else s

/-- `delta` is what was counted above what the drawer should hold. -/
def createCheckpoint (s : Books) (time : ℤ) (counted : List CheckpointAdjustment) : Books :=
  counted.foldl (postAdjustment s.closings.nextId)
    { s with
      closings := s.closings.insert
        { createdAt := time, amounts := counted.map fun a => (a.drawerName, a.currencyCode) } }

def setClosed (isClosed : Bool) (d : Difference) : Difference :=
  { d with isClosed := isClosed }

def withClosed (s : Books) (id : Nat) (isClosed : Bool) : Books :=
  syncShortageExpense { s with differences := s.differences.update id (setClosed isClosed) } id

def close (s : Books) (id : Nat) : Except BooksError Books :=
  match s.differences.get id with
  | none => .error .differenceNotFound
  | some d =>
    if d.isClosed then .error .alreadyClosed
    else if (describe s id d).openAmount ≤ 0 then .error .nothingOpen
    else .ok (withClosed s id true)

def reopen (s : Books) (id : Nat) : Except BooksError Books :=
  match s.differences.get id with
  | none => .error .differenceNotFound
  | some d => if d.isClosed then .ok (withClosed s id false) else .error .notClosed

/-! Transactions. -/

def saveTransaction (s : Books) (txn : Transaction) (legs : List Leg) : Except BooksError Books :=
  each (postLeg s.transactions.nextId) { s with transactions := s.transactions.insert txn } legs

/-- A flow with its auto expenses. -/
def saveFlow (s : Books) (time : ℤ) (legs : List Leg) (expenses : List (List Leg)) : Except BooksError Books :=
  let id := s.transactions.nextId
  (saveTransaction s { kind := .flow, createdAt := time } legs).bind fun saved =>
    (each (fun s legs => saveTransaction s { kind := .flow, createdAt := time, sourceRef := some id } legs) saved
      expenses).map fun booked => resolveBackTimedDrawerMovement booked id

/-- A leg paid out of a drawer. -/
structure PayoutLeg extends Leg where
  counted : isAuditOnlyPaymentMethod method = false

def collectHoldMoney (s : Books) (time : ℤ) (legs : List PayoutLeg) : Except BooksError Books :=
  let id := s.transactions.nextId
  (saveTransaction s { kind := .holdMoneyCollect, createdAt := time } (legs.map (·.toLeg))).map fun saved =>
    resolveBackTimedDrawerMovement { saved with pickups := saved.pickups.insert { transactionId := id } } id

/-! Voids. -/

def isLegOf (transactionId : Nat) (row : Payment) : Bool :=
  row.transactionId = transactionId

def mirrorRow (reversalId : Nat) (row : Payment) (currencyCode : String) : Payment :=
  { row with transactionId := reversalId, currencyCode := currencyCode, amount := -row.amount }

/-- A checkpoint's own leg is mirrored as it is. -/
def mirrorCurrency (row : Payment) : Except BooksError String :=
  if isCheckpointPaymentMethod row.method then .ok row.currencyCode
  else postingCurrency row.drawerName row.currencyCode

def reversePayment (reversalId : Nat) (s : Books) (entry : Nat × Payment) : Except BooksError Books :=
  (mirrorCurrency entry.2).map fun currencyCode => bookRow s (mirrorRow reversalId entry.2 currencyCode)

/-- `_reversePayments` of a void -/
def reversePayments (s : Books) (transactionId reversalId : Nat) : Except BooksError Books :=
  each (reversePayment reversalId) s (s.payments.select (isLegOf transactionId))

def setVoided (txn : Transaction) : Transaction :=
  { txn with status := .voided }

def reversalOf (transactionId : Nat) (txn : Transaction) (now : ℤ) : Transaction :=
  { txn with status := .active, createdAt := now, reversesId := some transactionId }

/-- The transaction is marked, and its legs are mirrored. -/
def markVoided (s : Books) (transactionId : Nat) (txn : Transaction) (now : ℤ) : Except BooksError Books :=
  reversePayments
    { s with
      transactions := (s.transactions.update transactionId setVoided).insert (reversalOf transactionId txn now) }
    transactionId s.transactions.nextId

def voidSibling (now : ℤ) (s : Books) (entry : Nat × Transaction) : Except BooksError Books :=
  (markVoided s entry.1 entry.2 now).map fun marked => resyncShortageAfterVoid marked entry.1

def isNonReversible : TransactionType → Bool
  | .flow => false
  | .holdMoneyCollect => true
  | .holdMoneyCollectVoid => true

/-- `_voidTransactionInternal` -/
def voidTransaction (s : Books) (transactionId : Nat) (now : ℤ) : Except BooksError Books :=
  match s.transactions.get transactionId with
  | none => .error (.notFound transactionId)
  | some txn =>
    if txn.status = .voided then .error .alreadyVoided
    else if isNonReversible txn.kind then .error (.notReversible txn.kind)
    else if txn.reversesId.isSome then .error .reversal
    else
      (markVoided s transactionId txn now).bind fun marked =>
        (each (voidSibling now) marked (expenseSiblings marked transactionId)).map fun done =>
          resyncShortageAfterVoid done transactionId

/-- Every leg of the pickup is mirrored. -/
def reversePickupLeg (reversalId : Nat) (s : Books) (entry : Nat × Payment) : Except BooksError Books :=
  (postingCurrency entry.2.drawerName entry.2.currencyCode).map fun currencyCode =>
    movePayment s (mirrorRow reversalId entry.2 currencyCode)

def setPickupVoided (pickup : HoldMoneyPickup) : HoldMoneyPickup :=
  { pickup with isVoided := true }

def voidPickup (s : Books) (pickupId : Nat) (now : ℤ) : Except BooksError Books :=
  match s.pickups.get pickupId with
  | none => .error .pickupNotFound
  | some pickup =>
    if pickup.isVoided then .error .pickupAlreadyVoided
    else
      let reversal : Transaction :=
        { kind := .holdMoneyCollectVoid, createdAt := now, reversesId := some pickup.transactionId }
      (each (reversePickupLeg s.transactions.nextId) { s with transactions := s.transactions.insert reversal }
          (s.payments.select (isLegOf pickup.transactionId))).map fun mirrored =>
        resyncShortageAfterVoid { mirrored with pickups := mirrored.pickups.update pickupId setPickupVoided }
          pickup.transactionId

inductive Action where
  | checkpoint (time : ℤ) (counted : List CheckpointAdjustment)
  | flow (time : ℤ) (legs : List Leg) (expenses : List (List Leg))
  | collect (time : ℤ) (legs : List PayoutLeg)
  | void (transactionId : Nat) (now : ℤ)
  | voidPickup (pickupId : Nat) (now : ℤ)
  | close (differenceId : Nat)
  | reopen (differenceId : Nat)

def call (s : Books) : Action → Except BooksError Books
  | .checkpoint time counted => .ok (createCheckpoint s time counted)
  | .flow time legs expenses => saveFlow s time legs expenses
  | .collect time legs => collectHoldMoney s time legs
  | .void transactionId now => voidTransaction s transactionId now
  | .voidPickup pickupId now => voidPickup s pickupId now
  | .close differenceId => close s differenceId
  | .reopen differenceId => reopen s differenceId

/-- A call that throws changes nothing. -/
def exec (s : Books) (action : Action) : Books :=
  leaves s (call s action)

end Liratek.Drawer.CheckpointResolution
