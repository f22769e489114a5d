import Liratek.Lib.Calls
import Liratek.Lib.Table
import Liratek.Lib.Trim
import Mathlib.Algebra.Order.Ring.Rat
import Mathlib.Data.String.Basic

/-! Vouchers: sold for a price, redeemed as credit of their face value, or cancelled and paid back. -/

namespace Liratek.Voucher.Vouchers
open Lib Lib.Calls

inductive Currency where
  | usd | lbp
  deriving DecidableEq, Repr

/-- Dollars, then lira. -/
abbrev UsdLbp := ℚ × ℚ

def amountIn (currency : Currency) (amount : ℚ) : UsdLbp :=
  match currency with
  | .usd => (amount, 0)
  | .lbp => (0, amount)

def usdEquivalent (sums : UsdLbp) (exchangeRate : ℚ) : ℚ :=
  sums.1 + if 0 < exchangeRate then sums.2 / exchangeRate else 0

def lbpEquivalent (sums : UsdLbp) (exchangeRate : ℚ) : ℚ :=
  sums.2 + sums.1 * exchangeRate

/-- Lira for one dollar. -/
structure Rate where
  value : ℚ
  positive : 0 < value

/-- The rate the cashier used, when it is one. -/
def preferTenderRate (reference : Rate) (tender : Option ℚ) : Rate :=
  match tender with
  | none => reference
  | some rate => if positive : 0 < rate then ⟨rate, positive⟩ else reference

def resolveStampedExchangeRate (serverRate : Rate) (tenderRate : Option ℚ) : Rate :=
  preferTenderRate serverRate tenderRate

inductive PaymentMethod where
  | cash | omt | whish | binance | customerAccount | giftCard
  | unknown (code : String)
  deriving DecidableEq, Repr

def PaymentMethod.code : PaymentMethod → String
  | .cash => "CASH"
  | .omt => "OMT"
  | .whish => "WHISH"
  | .binance => "BINANCE"
  | .customerAccount => "CUSTOMER_ACCOUNT"
  | .giftCard => "GIFT_CARD"
  | .unknown code => code

def voucherSaleMethods : List PaymentMethod :=
  [.cash, .omt, .whish, .binance, .customerAccount]

def voucherRefundMethods : List PaymentMethod :=
  [.cash, .omt, .whish, .binance]

structure Leg where
  method : PaymentMethod
  currencyCode : Currency
  amount : ℚ
  /-- change handed back -/
  isOut : Bool := false
  deriving DecidableEq, Repr

def liveLegs (legs : List Leg) : List Leg :=
  legs.filter fun leg => 0 < |leg.amount|

def sumLegsByCurrency (legs : List Leg) : UsdLbp :=
  (legs.map fun leg => amountIn leg.currencyCode |leg.amount|).sum

def partitionLegs (legs : List Leg) : List Leg × List Leg :=
  (legs.filter fun leg => !leg.isOut, legs.filter (·.isOut))

def legReconciliationEpsilonUsd : ℚ := 1 / 20

/-- Legs with none that pays in are not checked. -/
def reconcileLegs (inLegs outLegs : List Leg) (expectedTotals : UsdLbp) (exchangeRate : Rate) (tender : Option ℚ) :
    Except String Unit :=
  if inLegs = [] then .ok ()
  else
    let rate := (preferTenderRate exchangeRate tender).value
    let diff := usdEquivalent (sumLegsByCurrency inLegs) rate - usdEquivalent (sumLegsByCurrency outLegs) rate -
      usdEquivalent expectedTotals rate
    if legReconciliationEpsilonUsd < |diff| then
      .error (if diff < 0 then "The payment doesn't add up to the total." else "The payment is more than the total.")
    else .ok ()

/-! The tables. -/

inductive VoucherStatus where
  | pending | redeemed | cancelled
  deriving DecidableEq, Repr

structure VoucherEntity where
  code : String
  clientId : Nat
  amount : ℚ
  currencyCode : Currency
  /-- the number of the day -/
  expiryDate : Option ℤ
  status : VoucherStatus := .pending
  redeemedTransactionId : Option Nat := none
  deriving DecidableEq, Repr

/-- `charge` is any transaction that a voucher is redeemed in. -/
inductive TransactionType where
  | voucherSale | voucherCancel | charge
  deriving DecidableEq, Repr

structure Transaction where
  type : TransactionType
  sourceId : Option Nat := none
  amount : UsdLbp := 0
  exchangeRate : ℚ := 0
  /-- voided, or refunded as a whole -/
  isReversed : Bool := false
  deriving DecidableEq, Repr

inductive PostedCurrency where
  | usd | lbp | usdt
  deriving DecidableEq, Repr

structure Payment where
  transactionId : Nat
  method : PaymentMethod
  drawerName : String
  currencyCode : PostedCurrency
  amount : ℚ
  deriving DecidableEq, Repr

inductive DebtType where
  | voucherDebt | creditDeposit | refundReversal
  deriving DecidableEq, Repr

/-- A row of `debt_ledger`. -/
structure DebtRow where
  clientId : Nat
  transactionType : DebtType
  amount : UsdLbp
  transactionId : Option Nat
  note : String
  deriving DecidableEq, Repr

structure Store where
  vouchers : Table VoucherEntity := {}
  transactions : Table Transaction := {}
  payments : Table Payment := {}
  debtLedger : Table DebtRow := {}
  deriving DecidableEq

abbrev Result := Except String Store

/-- How the shop's payment methods are set up. -/
structure Methods where
  drawerName : PaymentMethod → String
  affectsDrawer : PaymentMethod → Bool

def binanceDrawerName : String := "Binance"

def postingCurrency (drawerName : String) (currency : Currency) : Except String PostedCurrency :=
  match currency with
  | .usd => .ok (if drawerName = binanceDrawerName then .usdt else .usd)
  | .lbp =>
    if drawerName = binanceDrawerName then .error "Binance only takes USDT — enter the Binance line in dollars." else .ok .lbp

section
variable (methods : Methods)

/-- The drawer row of a leg. -/
def drawerRow (transactionId : Nat) (signed : Leg → ℚ) (leg : Leg) : Except String Payment :=
  (postingCurrency (methods.drawerName leg.method) leg.currencyCode).map fun currencyCode =>
    { transactionId, method := leg.method, drawerName := methods.drawerName leg.method, currencyCode, amount := signed leg }

/-! Selling. -/

structure CreateVoucherData where
  code : String
  clientId : Nat
  clientPhone : Option String
  amount : ℚ
  currencyCode : Currency
  expiryDate : Option ℤ := none
  discountAmount : Option ℚ := none
  /-- the request's own check -/
  positive : 0 < amount

def shortfallMax : Currency → ℚ
  | .usd => 5
  | .lbp => 450000

def keptChangeRoundingTolerance : Currency → ℚ
  | .usd => 1 / 200
  | .lbp => 1 / 2

def isWithinShortfallMax (amount : ℚ) (currency : Currency) : Bool :=
  0 ≤ amount && amount ≤ shortfallMax currency + keptChangeRoundingTolerance currency

def voucherDiscountRefusal (discountAmount : Option ℚ) (faceValue : ℚ) (currency : Currency) : Option String :=
  let discount := discountAmount.getD 0
  if discount ≤ 0 then none
  else if !isWithinShortfallMax discount currency then some "The discount is more than $5 or 450,000 LBP — lower it."
  else if faceValue ≤ discount then some "The discount must be less than what the customer pays."
  else none

/-- What the customer pays. -/
def CreateVoucherData.paid (data : CreateVoucherData) : ℚ :=
  data.amount - max 0 (data.discountAmount.getD 0)

/-- Only an account leg needs the owner's phone, and it is never change. -/
def saleLegRefusal (clientPhone : Option String) (leg : Leg) : Option String :=
  if !voucherSaleMethods.contains leg.method then
    some ("A voucher cannot be paid with " ++ (if leg.method = .giftCard then "a gift card" else leg.method.code) ++ ".")
  else if leg.method = .customerAccount then
    if leg.isOut then some "Change on a voucher sale cannot go to the customer's account."
    else if Lib.Trim.trim (clientPhone.getD "").toList = [] then some "The voucher's owner needs a phone number to buy on account."
    else none
  else none

/-- The legs that are posted: with none, one of cash. -/
def postLegs (data : CreateVoucherData) (legs : List Leg) : List Leg :=
  if liveLegs legs = [] then [{ method := .cash, currencyCode := data.currencyCode, amount := data.paid }] else liveLegs legs

def isAccountLeg (leg : Leg) : Bool :=
  leg.method = .customerAccount

def signedAmount (leg : Leg) : ℚ :=
  if leg.isOut then -|leg.amount| else |leg.amount|

/-- One charge for each currency that went on the account. -/
def voucherDebts (clientId transactionId : Nat) (note : String) (onAccount : UsdLbp) : List DebtRow :=
  ((if 0 < onAccount.1 then [(onAccount.1, 0)] else []) ++ (if 0 < onAccount.2 then [(0, onAccount.2)] else [])).map fun amount =>
    { clientId, transactionType := .voucherDebt, amount, transactionId := some transactionId, note }

def sellVoucher (s : Store) (data : CreateVoucherData) (legs : List Leg) (sellRate : Rate) (tender : Option ℚ) : Result :=
  match voucherDiscountRefusal data.discountAmount data.amount data.currencyCode with
  | some refusal => .error refusal
  | none =>
    match (liveLegs legs).findSome? (saleLegRefusal data.clientPhone) with
    | some refusal => .error refusal
    | none =>
      let (inLegs, outLegs) := partitionLegs (liveLegs legs)
      let expected := amountIn data.currencyCode data.paid
      (reconcileLegs inLegs outLegs expected sellRate tender).bind fun _ =>
        if (s.vouchers.select fun voucher => voucher.code = data.code) ≠ [] then
          .error "UNIQUE constraint failed: vouchers.tenant_id, vouchers.code"
        else
          let transactionId := s.transactions.nextId
          let posted := postLegs data legs
          (gather (drawerRow methods transactionId signedAmount) (posted.filter fun leg => !isAccountLeg leg)).map fun rows =>
            { vouchers := s.vouchers.insert
                { code := data.code
                  clientId := data.clientId
                  amount := data.amount
                  currencyCode := data.currencyCode
                  expiryDate := data.expiryDate }
              transactions := s.transactions.insert
                { type := .voucherSale
                  sourceId := some s.vouchers.nextId
                  amount := expected
                  exchangeRate := (resolveStampedExchangeRate sellRate tender).value }
              payments := s.payments.insertAll rows
              debtLedger := s.debtLedger.insertAll
                (voucherDebts data.clientId transactionId ("Voucher sold " ++ data.code)
                  (sumLegsByCurrency (posted.filter isAccountLeg))) }

/-! Cancelling. -/

structure VoucherSaleTotals where
  saleTxnId : Option Nat
  total : UsdLbp
  onAccount : UsdLbp

/-- what the drawers took in -/
def VoucherSaleTotals.cash (totals : VoucherSaleTotals) : UsdLbp :=
  totals.total - totals.onAccount

def isSaleOf (voucherId : Nat) (row : Transaction) : Bool :=
  row.type = .voucherSale && row.sourceId = some voucherId

/-- The charges of a sale, never their reversals. -/
def isVoucherDebtOf (saleTxnId : Nat) (row : DebtRow) : Bool :=
  row.transactionType = .voucherDebt && row.transactionId = some saleTxnId

def findSaleTotals (s : Store) (voucherId : Nat) : VoucherSaleTotals :=
  match (s.transactions.select (isSaleOf voucherId)).head? with
  | none => { saleTxnId := none, total := 0, onAccount := 0 }
  | some (id, sale) =>
    { saleTxnId := some id
      total := sale.amount
      onAccount := ((s.debtLedger.select (isVoucherDebtOf id)).map (·.2.amount)).sum }

def voucherEpsilonUsd : ℚ := 1 / 200

def debtRefundReversalNote : String := "Debt cancelled by refund/void"

/-- `insertDebtRefundReversal` -/
def debtRefundReversal (transactionId : Nat) (charge : DebtRow) : DebtRow :=
  { clientId := charge.clientId
    transactionType := .refundReversal
    amount := -charge.amount
    transactionId := some transactionId
    note := debtRefundReversalNote }

def hasCash (totals : VoucherSaleTotals) (stampedRate : Rate) : Bool :=
  voucherEpsilonUsd < usdEquivalent totals.cash stampedRate.value

/-- The legs that are paid out: with none, the cash part in the voucher's currency. -/
def payoutLegs (currency : Currency) (totals : VoucherSaleTotals) (stampedRate : Rate) (legs : List Leg) : List Leg :=
  if legs ≠ [] then legs
  else if hasCash totals stampedRate then
    [{ method := .cash
       currencyCode := currency
       amount := match currency with
        | .usd => usdEquivalent totals.cash stampedRate.value
        | .lbp => lbpEquivalent totals.cash stampedRate.value }]
  else []

def refundSale (s : Store) (id : Nat) (voucher : VoucherEntity) (saleTxnId : Nat) (totals : VoucherSaleTotals) (legs : List Leg)
    (sellRate : Rate) (tender : Option ℚ) : Result :=
  let stampedRate := resolveStampedExchangeRate sellRate tender
  if !hasCash totals stampedRate ∧ legs ≠ [] then
    .error "This voucher was paid on the customer's account — nothing is paid out in cash."
  else
    (reconcileLegs legs [] totals.cash sellRate tender).bind fun _ =>
      let transactionId := s.transactions.nextId
      (gather (drawerRow methods transactionId fun leg => -|leg.amount|)
        (payoutLegs voucher.currencyCode totals stampedRate legs)).map fun rows =>
        { s with
          transactions := s.transactions.insert
            { type := .voucherCancel, sourceId := some id, amount := totals.total, exchangeRate := stampedRate.value }
          payments := s.payments.insertAll rows
          debtLedger := s.debtLedger.insertAll
            ((s.debtLedger.select (isVoucherDebtOf saleTxnId)).map fun charge => debtRefundReversal saleTxnId charge.2) }

def cancelWithRefund (s : Store) (id : Nat) (legs : List Leg) (sellRate : Rate) (tender : Option ℚ) : Result :=
  match (liveLegs legs).find? fun leg => !voucherRefundMethods.contains leg.method || !methods.affectsDrawer leg.method with
  | some leg => .error ("A voucher refund cannot be paid out with " ++ leg.method.code ++ ".")
  | none =>
    match s.vouchers.get id with
    | none => .error "Voucher can no longer be cancelled"
    | some voucher =>
      if voucher.status ≠ .pending then .error "Voucher can no longer be cancelled"
      else
        let flipped := { s with vouchers := s.vouchers.update id fun voucher => { voucher with status := .cancelled } }
        let totals := findSaleTotals s id
        match totals.saleTxnId with
        | none =>
          if liveLegs legs ≠ [] then .error "This voucher was not sold, so there is nothing to refund."
          else .ok
            { flipped with
              transactions := s.transactions.insert
                { type := .voucherCancel
                  sourceId := some id
                  exchangeRate := (resolveStampedExchangeRate sellRate tender).value } }
        | some saleTxnId => refundSale methods flipped id voucher saleTxnId totals (liveLegs legs) sellRate tender

/-! Redeeming, in a transaction or in a session's checkout. -/

structure RedeemVoucherParams where
  code : String
  transactionId : Option Nat
  day : ℤ

def depositNote (code : String) : String :=
  "Voucher redeemed " ++ code

def faceValue (voucher : VoucherEntity) : UsdLbp :=
  amountIn voucher.currencyCode voucher.amount

/-- `addCredit` for the face value -/
def deposit (voucher : VoucherEntity) (transactionId : Option Nat) : DebtRow :=
  { clientId := voucher.clientId
    transactionType := .creditDeposit
    amount := (-|(faceValue voucher).1|, -|(faceValue voucher).2|)
    transactionId := transactionId
    note := depositNote voucher.code }

def redeemByCode (s : Store) (params : RedeemVoucherParams) : Result :=
  match (s.vouchers.select fun voucher => voucher.code = params.code).head? with
  | none => .error ("Voucher " ++ params.code ++ " not found")
  | some (id, voucher) =>
    match voucher.status with
    | .cancelled => .error ("Voucher " ++ params.code ++ " has been cancelled")
    | .redeemed => .error ("Voucher " ++ params.code ++ " has already been redeemed")
    | .pending =>
      if voucher.expiryDate.any (· < params.day) then .error ("Voucher " ++ params.code ++ " has expired")
      else .ok
        { s with
          vouchers := s.vouchers.update id fun voucher =>
            { voucher with status := .redeemed, redeemedTransactionId := params.transactionId }
          debtLedger := s.debtLedger.insert (deposit voucher params.transactionId) }

/-- A transaction that vouchers pay for. A session's checkout redeems them in none. -/
def charge (s : Store) (codes : List String) (inSession : Bool) (day : ℤ) : Result :=
  if inSession then each (fun s code => redeemByCode s { code, transactionId := none, day }) s codes
  else
    each (fun next code => redeemByCode next { code, transactionId := some s.transactions.nextId, day })
      { s with transactions := s.transactions.insert { type := .charge } } codes

/-- The vouchers whose own deposit is linked to the transaction. -/
def restoreRedeemedByTransaction (s : Store) (transactionId : Nat) : Store :=
  { s with
    vouchers := s.vouchers.updateWhere
      (fun voucher => voucher.redeemedTransactionId = some transactionId && voucher.status = .redeemed &&
        (s.debtLedger.select fun row => row.transactionId = some transactionId && row.transactionType = .creditDeposit &&
          row.note = depositNote voucher.code) ≠ [])
      fun voucher => { voucher with status := .pending, redeemedTransactionId := none } }

def isCancellable (transactionId : Nat) (row : DebtRow) : Bool :=
  row.transactionId = some transactionId && (row.transactionType = .voucherDebt || row.transactionType = .creditDeposit)

/-- `_cancelDebt` -/
def cancelDebt (s : Store) (transactionId : Nat) : Store :=
  let debts := s.debtLedger.select (isCancellable transactionId)
  let cancelled := { s with debtLedger := s.debtLedger.insertAll (debts.map fun row => debtRefundReversal transactionId row.2) }
  if debts.any fun row => row.2.transactionType = .creditDeposit then restoreRedeemedByTransaction cancelled transactionId
  else cancelled

/-- The void, or the refund as a whole, of a transaction. A voucher's own are not reversible. -/
def reverseTransaction (s : Store) (transactionId : Nat) : Result :=
  match s.transactions.get transactionId with
  | none => .error "Transaction not found"
  | some original =>
    if original.type ≠ .charge then .error "This transaction cannot be reversed"
    else if original.isReversed then .error "Transaction is already voided"
    else .ok (cancelDebt
      { s with transactions := s.transactions.update transactionId fun row => { row with isReversed := true } } transactionId)

inductive Action where
  | sellVoucher (data : CreateVoucherData) (legs : List Leg) (sellRate : Rate) (tender : Option ℚ)
  | cancelWithRefund (id : Nat) (legs : List Leg) (sellRate : Rate) (tender : Option ℚ)
  | charge (codes : List String) (inSession : Bool) (day : ℤ)
  | reverseTransaction (transactionId : Nat)

def exec (s : Store) : Action → Store
  | .sellVoucher data legs sellRate tender => leaves s (sellVoucher methods s data legs sellRate tender)
  | .cancelWithRefund id legs sellRate tender => leaves s (cancelWithRefund methods s id legs sellRate tender)
  | .charge codes inSession day => leaves s (charge s codes inSession day)
  | .reverseTransaction transactionId => leaves s (reverseTransaction s transactionId)

end

end Liratek.Voucher.Vouchers
