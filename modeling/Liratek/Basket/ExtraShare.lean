import Liratek.Basket.ItemRefund

/-! The extra of a basket, set once at checkout. Refunding one item gives a share of it back, and undoing the refund charges
the share again. -/

namespace Liratek.Basket.ExtraShare
open Lib Lib.Calls Members MemberOwed
open ItemRefund (RefundLine roundToUnit pair)

/-- What a member of the basket is to a refund. -/
inductive MemberType where
  | sale (saleId : Nat)
  /-- any other sold item: a service, a recharge -/
  | item
  | extraCharge
  /-- a payout, a prize, kept change -/
  | notSold
  deriving DecidableEq, Repr

/-- A row of `customer_session_transactions` with its transaction. -/
structure Member where
  sessionId : Nat
  transactionId : Nat
  type : MemberType
  isActive : Bool := true
  isReversal : Bool := false
  /-- what the basket charges for it -/
  amount : Amounts
  /-- the amount of its own transaction -/
  booked : Amounts
  extra : Amounts := 0
  exchangeRate : Option ℚ := none

structure Sale where
  totalAmountUsd : ℚ
  discountUsd : ℚ
  extraUsd : ℚ := 0

structure SaleItem where
  saleId : Nat
  soldPriceUsd : ℚ
  quantity : ℚ
  refundedQuantity : ℚ := 0

/-- The `REFUND` of a basket's item, or the `REFUND_UNDO` of one. -/
structure ReturnRow where
  isUndo : Bool
  isActive : Bool := true
  sessionId : Nat
  /-- `reverses_id`: the member refunded as a whole -/
  reversesId : Option Nat := none
  amount : Amounts
  extra : Amounts
  lines : List RefundLine := []
  /-- of an undo -/
  refundTransactionId : Option Nat := none

structure Store where
  members : List Member
  sales : Nat → Option Sale
  saleItems : Table SaleItem := {}
  returns : Table ReturnRow := {}
  /-- the sales with nothing left to refund -/
  refundedSales : List Nat := []

/-! The extra. -/

section
variable (s : Store) (sessionId : Nat)

/-- The live extra of the basket, the first one if there were more. -/
def extraCharge : Option Member :=
  ((s.members.filter fun m => m.sessionId = sessionId && m.type = .extraCharge && m.isActive && !m.isReversal).mergeSort
    fun a b => a.transactionId ≤ b.transactionId).head?

/-- One figure of every item refund of the basket and of every undo. -/
def returned (figure : ReturnRow → ℚ) : ℚ :=
  s.returns.total fun row => if row.sessionId = sessionId ∧ row.isActive = true then figure row else 0

structure ExtraState where
  extra : Amounts
  rate : Option ℚ
  remaining : Amounts
  /-- in dollars at the rate of the extra -/
  refundedItemValueUsdEq : ℚ

def sessionExtraState : Option ExtraState :=
  (extraCharge s sessionId).bind fun row =>
    if row.extra .usd ≤ 0 ∧ row.extra .lbp ≤ 0 then none
    else
      let rate := row.exchangeRate.filter fun rate => 0 < rate
      let value : Amounts := fun c => returned s sessionId fun r => -r.amount c + r.extra c
      some
        { extra := row.extra
          rate := rate
          remaining := fun c => max 0 (roundToUnit (row.extra c + returned s sessionId fun r => r.extra c) (unit c))
          refundedItemValueUsdEq := value .usd + match rate with
            | some rate => value .lbp / rate
            | none => 0 }

/-- What the basket charges for its items, without the extra. -/
def itemCharge : Amounts :=
  fun c => ((s.members.filter fun m => m.sessionId = sessionId && m.type ≠ .extraCharge).map fun m => max 0 (m.amount c)).sum

def sessionItemExtraShare (item : Amounts) (fallbackRate : ℚ) : Amounts :=
  match sessionExtraState s sessionId with
  | none => 0
  | some state =>
    if state.remaining .usd ≤ 0 ∧ state.remaining .lbp ≤ 0 then 0
    else
      let rate := state.rate.getD (if 0 < fallbackRate then fallbackRate else 1)
      let chargeUsdEq := valueAt rate (itemCharge s sessionId)
      let itemUsdEq := valueAt rate item
      if chargeUsdEq ≤ 0 ∨ itemUsdEq ≤ 0 then 0
      -- the refund that leaves nothing takes what remains
      else if chargeUsdEq - 1 / 200 ≤ state.refundedItemValueUsdEq + itemUsdEq then state.remaining
      else
        let ratio := min 1 (itemUsdEq / chargeUsdEq)
        fun c => min (state.remaining c) (roundToUnit (state.extra c * ratio) (unit c))

end

/-! The items. -/

inductive RefundError where
  | notAMember (transactionId sessionId : Nat)
  | notSold
  | saleItemOfNoSale
  | alreadyRefunded
  | noQuantity
  | notFound (id : Nat)
  | notAvailable
  | saleRefunded
  | nothingRemains
  | other (message : String)
  deriving DecidableEq, Repr

def RefundError.message (number : Nat → String) : RefundError → String
  | .notAMember transactionId sessionId =>
    "Transaction #" ++ number transactionId ++ " is not a member of session basket #" ++ number sessionId
  | .notSold => "This cannot be refunded on its own from a session basket — only sold items can be."
  | .saleItemOfNoSale => "saleItemId is only valid for a SALE member"
  | .alreadyRefunded => "This item has already been refunded"
  | .noQuantity => "quantity is required and must be greater than 0 when saleItemId is given"
  | .notFound id => "sale_item with id " ++ number id ++ " not found"
  | .notAvailable => "Cannot refund more than is available"
  | .saleRefunded => "This sale has already been fully refunded — nothing remains to refund."
  | .nothingRemains => "Nothing remains to refund on this sale"
  | .other message => message

/-- The value of some of a line: its price less its part of the discount. -/
def lineRefundAmount (sale : Sale) (soldPriceUsd quantity : ℚ) : ℚ :=
  let gross := soldPriceUsd * quantity
  let lineShareOfSale := if 0 < sale.totalAmountUsd then gross / sale.totalAmountUsd else 0
  gross - sale.discountUsd * lineShareOfSale + sale.extraUsd * lineShareOfSale

section
variable (s : Store)

def previewSaleItemRefundAmount (saleId : Nat) (line : RefundLine) : Except RefundError ℚ :=
  match s.saleItems.get line.saleItemId with
  | none => .error (.notFound line.saleItemId)
  | some item =>
    if item.saleId ≠ saleId then .error (.notFound line.saleItemId)
    else if line.quantity ≤ 0 then .error .noQuantity
    else if item.quantity - item.refundedQuantity < line.quantity then .error .notAvailable
    else
      match s.sales saleId with
      | none => .error (.notFound saleId)
      | some sale =>
        if s.refundedSales.contains saleId then .error .saleRefunded
        else .ok (lineRefundAmount sale item.soldPriceUsd line.quantity)

def remainingLines (saleId : Nat) : List RefundLine :=
  (s.saleItems.select fun item => item.saleId = saleId && 0 < item.quantity - item.refundedQuantity).map fun row =>
    { saleItemId := row.1, quantity := row.2.quantity - row.2.refundedQuantity }

/-- One line in part, or every line that is left. -/
def refundLines (saleId : Nat) (line : Option RefundLine) : Except RefundError (List RefundLine) :=
  match line with
  | some line => .ok [line]
  | none => if remainingLines s saleId = [] then .error .nothingRemains else .ok (remainingLines s saleId)

structure RefundInput where
  transactionId : Nat
  line : Option RefundLine := none
  /-- the rate of the refund, where the extra has none -/
  effectiveRate : ℚ

/-- The lines that are refunded and what the item is worth, without its share of the extra. -/
def planItem (member : Member) (line : Option RefundLine) : Except RefundError (List RefundLine × Amounts) :=
  match member.type with
  | .sale saleId =>
    (refundLines s saleId line).bind fun lines =>
      (gather (previewSaleItemRefundAmount s saleId) lines).map fun amounts => (lines, pair amounts.sum 0)
  | .item =>
    if line.isSome then .error .saleItemOfNoSale
    else if s.returns.rows.any fun row =>
        !row.2.isUndo && row.2.isActive && row.2.reversesId = some member.transactionId then .error .alreadyRefunded
    else .ok ([], fun c => |member.booked c|)
  | .extraCharge | .notSold => .error .notSold

/-- The refunded quantities of the lines go up, or down again. -/
def applyLines (items : Table SaleItem) (sign : ℚ) (lines : List RefundLine) : Table SaleItem :=
  lines.foldl (fun items line => items.update line.saleItemId fun item =>
    { item with refundedQuantity := item.refundedQuantity + sign * line.quantity }) items

/-- A sale is refunded when nothing of it remains. -/
def nothingRemains (items : Table SaleItem) (saleId : Nat) : Bool :=
  items.rows.all fun row => row.2.saleId ≠ saleId || row.2.quantity - row.2.refundedQuantity ≤ 0

/-- The row of a refund. A member that is no sale is negated as it was booked. -/
def refundRow (sessionId : Nat) (member : Member) (lines : List RefundLine) (item share : Amounts) : ReturnRow where
  isUndo := false
  sessionId := sessionId
  reversesId := if member.type = .item then some member.transactionId else none
  amount := if member.type = .item then -member.booked - share else -(item + share)
  extra := if member.type = .item then -member.extra - share else -share
  lines := lines

def saleOf (member : Member) : Option Nat :=
  match member.type with
  | .sale saleId => some saleId
  | _ => none

section
-- what else refuses a refund: the basket or the item was voided, a payout was netted against the basket
variable (otherRefusal : Store → Nat → Member → Option String)

def refundSessionBasketItem (sessionId : Nat) (input : RefundInput) : Except RefundError Store :=
  match s.members.find? fun m => m.sessionId = sessionId && m.transactionId = input.transactionId with
  | none => .error (.notAMember input.transactionId sessionId)
  | some member =>
    match otherRefusal s sessionId member with
    | some message => .error (.other message)
    | none =>
      (planItem s member input.line).map fun (lines, item) =>
        let share := sessionItemExtraShare s sessionId item input.effectiveRate
        let items := applyLines s.saleItems 1 lines
        { s with
          saleItems := items
          returns := s.returns.insert (refundRow sessionId member lines item share)
          refundedSales := match saleOf member with
            | some saleId => if nothingRemains items saleId then saleId :: s.refundedSales else s.refundedSales
            | none => s.refundedSales }

end

/-! The undo. -/

def alreadyUndone (refundTransactionId : Nat) : Bool :=
  s.returns.rows.any fun row => row.2.isUndo && row.2.isActive && row.2.refundTransactionId = some refundTransactionId

def undoLineRefusal (stockGone : Nat → ℚ → Bool) (line : RefundLine) : Option String :=
  match s.saleItems.get line.saleItemId with
  | none => some "sale_item not found"
  | some item =>
    if item.refundedQuantity < line.quantity then
      some "This item's refunded quantity no longer matches this refund — cannot undo it safely."
    else if stockGone line.saleItemId line.quantity then
      some "This refund can't be undone — the stock it restored has already been consumed by other activity since."
    else none

/-- The opposite of a refund's row. -/
def undoRow (refundTransactionId : Nat) (refund : ReturnRow) : ReturnRow where
  isUndo := true
  sessionId := refund.sessionId
  amount := -refund.amount
  extra := -refund.extra
  refundTransactionId := some refundTransactionId

def undoSessionBasketItemRefund (stockGone : Nat → ℚ → Bool) (refundTransactionId : Nat) : Except String Store :=
  match s.returns.get refundTransactionId with
  | none => .error "transaction not found"
  | some refund =>
    if refund.isUndo then .error "Undo refund only applies to a REFUND transaction."
    else if !refund.isActive then .error "This refund is not active — nothing to undo."
    else if refund.lines = [] then
      .error ("This refund can't be undone — it was made before per-line detail was recorded, or it refunded a non-sale basket " ++
        "item (recharge/custom service), which undo refund does not yet support.")
    else if alreadyUndone s refundTransactionId then .error "This refund has already been undone."
    else
      match refund.lines.findSome? (undoLineRefusal s stockGone) with
      | some message => .error message
      | none =>
        let items := applyLines s.saleItems (-1) refund.lines
        .ok
          { s with
            saleItems := items
            returns := s.returns.insert (undoRow refundTransactionId refund)
            refundedSales := s.refundedSales.filter fun saleId =>
              !(refund.lines.any fun line => (s.saleItems.get line.saleItemId).any fun item => item.saleId = saleId) ||
                nothingRemains items saleId }

end

end Liratek.Basket.ExtraShare
