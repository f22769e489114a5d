import Liratek.Basket.ItemRefund

/-! Undoing the refund of an item, and giving the whole basket back: the money it was paid with and its charge on the
account, less what the item refunds gave back already. -/

namespace Liratek.Basket.BasketReversal
open Lib Lib.Calls Members MemberOwed Checkout ItemRefund

/-! The undo of an item refund. -/

section
variable (s : Store)

/-- An undo that stands refers to the refund. -/
def alreadyUndone (refundTransactionId : Nat) : Bool :=
  s.transactions.rows.any fun row =>
    row.2.type = .refundUndo && row.2.isActive &&
      (row.2.metadata.bind (·.refundTransactionId)) = some refundTransactionId

/-- The basket of a refund that can be undone. -/
def undoableBasket (refundTransactionId : Nat) : Except RefundError Nat :=
  match s.transactions.get refundTransactionId with
  | none => .error (.notFound refundTransactionId)
  | some refundTxn =>
    let metadata := refundTxn.metadata.getD {}
    if refundTxn.type ≠ .refund then .error .notARefund
    else if !refundTxn.isActive then .error .notActive
    else if metadata.refundType ≠ some "sessionItem" then
      .error (.notFromBasket (metadata.refundType = some "item"))
    else
      match metadata.sessionId with
      | none => .error .noSession
      | some sessionId =>
        if metadata.lines.isEmpty then .error .noLines
        else if alreadyUndone s refundTransactionId then .error .alreadyUndone
        else .ok sessionId

/-- A credit of the refund becomes a charge again. -/
def rechargeRow (undoTxnId : Nat) (credit : DebtRow) : DebtRow where
  clientId := credit.clientId
  sessionId := credit.sessionId
  transactionType := sessionDebtType
  transactionId := some undoTxnId
  amount := -credit.amount

def undoPayment (undoTxnId : Nat) (payment : Payment) : Payment :=
  { payment with
    transactionId := some undoTxnId
    sessionId := none
    amount := -payment.amount
    note := .undoItemRefund }

/-- The stock that is gone refuses it too. -/
def undoSessionBasketItemRefund (refundTransactionId : Nat) : Except RefundError Store :=
  (undoableBasket s refundTransactionId).bind fun sessionId =>
    let undoTxnId := s.transactions.nextId
    let creditRows := s.debts.select fun row =>
      row.transactionId = some refundTransactionId && row.transactionType = sessionItemRefundCreditType
    let refundPayments := s.payments.select fun p => p.transactionId = some refundTransactionId
    .ok
      { s with
        transactions := s.transactions.insert
          { type := .refundUndo
            metadata := some { sessionId := some sessionId, refundTransactionId := some refundTransactionId } }
        debts := s.debts.insertAll (creditRows.map fun row => rechargeRow undoTxnId row.2)
        payments := s.payments.insertAll (refundPayments.map fun p => undoPayment undoTxnId p.2) }

/-! The whole basket. -/

def unitOf (code : String) : ℚ :=
  if code = "LBP" then 1 else 1 / 100

/-- The pooled money taken in of one currency. -/
def positiveLegs (sessionId : Nat) (currency : CoverageCurrency) : List (Nat × Payment) :=
  (pooledPayments s sessionId).filter fun p => 0 < p.2.amount && p.2.currencyCode = currencyCode currency

/-- What the item refunds gave back already, shared out over the legs. -/
def reduceByForLeg (sessionId : Nat) : List (Nat × ℚ) :=
  [CoverageCurrency.usd, .lbp].flatMap fun currency =>
    let group := positiveLegs s sessionId currency
    let weights := group.map (·.2.amount)
    let already := min (priorPoolAttributed s sessionId currency) weights.sum
    if already ≤ 0 then []
    else (group.map (·.1)).zip (allocateExact already weights (unit currency))

def reversedAmount (reduceBy : ℚ) (p : Payment) : ℚ :=
  if 0 < reduceBy then -roundToUnit (p.amount - reduceBy) (unitOf p.currencyCode) else -p.amount

/-- A leg of which nothing is left is not reversed. -/
def reversalPayment (reduceBy : ℚ) (p : Payment) : Option Payment :=
  if |reversedAmount reduceBy p| < unitOf p.currencyCode / 2 then none
  else some { p with amount := reversedAmount reduceBy p, note := .basketReversal }

def reverseSessionPooledPayments (sessionId : Nat) : Table Payment :=
  let reduceBy := reduceByForLeg s sessionId
  s.payments.insertAll
    ((pooledPayments s sessionId).filterMap fun p =>
      reversalPayment (if 0 < p.2.amount then (reduceBy.lookup p.1).getD 0 else 0) p.2)

def creditDepositType : String := "CREDIT_DEPOSIT"

def reversalRow (sessionId : Nat) (row : DebtRow) (amount : Amounts) : DebtRow where
  clientId := row.clientId
  sessionId := some sessionId
  transactionType := "Refund Reversal"
  transactionId := none
  amount := -amount

/-- What the item refunds attributed to the charge comes off the earliest charge first. -/
def cancelCharges (sessionId : Nat) : Amounts → List DebtRow → List DebtRow
  | _, [] => []
  | remainingAttributed, row :: rest =>
    let take : Amounts := fun currency => min (row.amount currency) (remainingAttributed currency)
    reversalRow sessionId row
        (fun currency => roundToUnit (max 0 (row.amount currency - take currency)) (unit currency)) ::
      cancelCharges sessionId (remainingAttributed - take) rest

def creditDepositRows (sessionId : Nat) : List (Nat × DebtRow) :=
  s.debts.select fun row =>
    row.sessionId = some sessionId && row.transactionId.isNone && row.transactionType = creditDepositType

def cancelSessionDebt (sessionId : Nat) : Table DebtRow :=
  s.debts.insertAll
    (cancelCharges sessionId (priorAccountAttributed s sessionId) ((sessionDebtRows s sessionId).map (·.2)) ++
      (creditDepositRows s sessionId).map fun row => reversalRow sessionId row.2 row.2.amount)

/-- The money of the whole basket's refund. Its items are reversed one by one besides. -/
def refundSessionBasket (sessionId : Nat) : Except RefundError Store :=
  if basketReversed s sessionId then .error (.alreadyReversed sessionId)
  else
    .ok
      { s with
        payments := reverseSessionPooledPayments s sessionId
        debts := cancelSessionDebt s sessionId }

end

/-! What happens to a basket. -/

inductive BasketAction where
  | refundItem (input : RefundItem)
  | undoItemRefund (refundTransactionId : Nat)
  /-- a repayment of the client, or anything else that is booked on an account -/
  | bookRow (row : DebtRow)

section
variable (isDrawerAffectingMethod : String → Bool) (cashDrawer : String)

def perform (s : Store) : BasketAction → Store
  | .refundItem input => leaves s (refundSessionBasketItem isDrawerAffectingMethod s cashDrawer input)
  | .undoItemRefund refundTransactionId => leaves s (undoSessionBasketItemRefund s refundTransactionId)
  | .bookRow row => { s with debts := s.debts.insert row }

end

end Liratek.Basket.BasketReversal
