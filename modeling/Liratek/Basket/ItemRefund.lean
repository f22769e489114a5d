import Liratek.Basket.Checkout
import Liratek.Carrier.ResaleLines

/-! The refund of one item of a paid basket. What the item is worth comes off the basket's charge on the account first,
and the rest goes back out of the money the basket was paid with. -/

namespace Liratek.Basket.ItemRefund
open Lib Lib.Calls Members MemberOwed Checkout Money.LargestRemainder

inductive PaymentNote where
  | basketPayment | basketChange | basketPayout | basketReversal | itemRefund | undoItemRefund
  deriving DecidableEq, Repr

/-- A row of `payments`. The drawer it names moves by its amount. -/
structure Payment where
  transactionId : Option Nat
  sessionId : Option Nat
  method : String
  drawerName : String
  currencyCode : String
  amount : ℚ
  note : PaymentNote
  deriving DecidableEq

structure RefundLine where
  saleItemId : Nat
  quantity : ℚ

/-- `metadata_json`, where a figure that is missing counts for nothing. -/
structure Metadata where
  refundType : Option String := none
  sessionId : Option Nat := none
  lines : List RefundLine := []
  accountAttributed : Amounts := 0
  poolSplit : Amounts := 0
  restoredFromPreexistingCredit : Amounts := 0
  /-- of an undo: the refund it undoes -/
  refundTransactionId : Option Nat := none

inductive TransactionType where
  | refund | refundUndo | other
  deriving DecidableEq, Repr

structure Transaction where
  type : TransactionType
  isActive : Bool := true
  /-- `none`: there is none, or it does not parse -/
  metadata : Option Metadata

/-- What the basket's refunds read and write. -/
structure Store where
  payments : Table Payment := {}
  debts : Table DebtRow := {}
  transactions : Table Transaction := {}
  /-- `customer_session_transactions` -/
  links : Table SessionTransaction := {}

def sessionItemRefundLinkType : String := "session_item_refund"

def pair (usd lbp : ℚ) : Amounts
  | .usd => usd
  | .lbp => lbp

/-- `Math.round(amount / unit) * unit` -/
def roundToUnit (amount unit : ℚ) : ℚ :=
  mathRound (amount / unit) * unit

theorem roundToUnit_unit (c : CoverageCurrency) (x : ℚ) : roundToUnit x (unit c) = roundAmount c x := by
  rw [roundAmount_eq, roundToUnit, unit, Rounding.roundTo, round_eq, mathRound, div_div_eq_mul_div, div_one, mul_one_div]

/-- Less than this is not worth a conversion or a leg. -/
def dust : Amounts :=
  pair (1 / 200) 1

/-! The basket's own rows. -/

section
variable (s : Store) (sessionId : Nat)

/-- The rows that belong to the basket and to no item of it. -/
def pooledPayments : List (Nat × Payment) :=
  s.payments.select fun p => p.transactionId.isNone && p.sessionId = some sessionId

def sessionDebtRows : List (Nat × DebtRow) :=
  s.debts.select fun row =>
    row.sessionId = some sessionId && row.transactionId.isNone && row.transactionType = sessionDebtType

def grossCharge : Amounts :=
  fun currency => ((sessionDebtRows s sessionId).map fun row => row.2.amount currency).sum

/-- One figure of every item refund the basket is linked to, added up. -/
def sumPriorSessionItemRefundMeta (figure : Metadata → Amounts) : Amounts :=
  fun currency => s.links.total fun link =>
    if link.sessionId = sessionId ∧ link.transactionType = sessionItemRefundLinkType then
      match (link.unifiedTransactionId.bind s.transactions.get).bind (·.metadata) with
      | some metadata => figure metadata currency
      | none => 0
    else 0

def priorAccountAttributed : Amounts :=
  sumPriorSessionItemRefundMeta s sessionId (·.accountAttributed)

def priorPoolAttributed : Amounts :=
  sumPriorSessionItemRefundMeta s sessionId (·.poolSplit)

def priorPreexistingCreditUsed : Amounts :=
  sumPriorSessionItemRefundMeta s sessionId (·.restoredFromPreexistingCredit)

/-- `getClientBalance` -/
def clientBalance (clientId : Nat) : Amounts :=
  fun currency => Carrier.ResaleLines.sqlRound2
    (s.debts.total fun row => if row.clientId = clientId then row.amount currency else 0)

/-- What the client owed just before a row was booked. -/
def clientBalanceBeforeRow (clientId beforeRowId : Nat) : Amounts :=
  fun currency =>
    ((s.debts.rows.filter fun row => row.2.clientId = clientId && row.1 < beforeRowId).map (·.2.amount currency)).sum

variable (isDrawerAffectingMethod : String → Bool)

def sessionPooledInLegs (currency : CoverageCurrency) : List Payment :=
  ((pooledPayments s sessionId).map (·.2)).filter fun p =>
    p.currencyCode = currencyCode currency && 0 < p.amount && isDrawerAffectingMethod p.method

/-- Only the change given back counts, never a payout. -/
def sessionPooledOutLegsTotal : Amounts :=
  fun currency =>
    ((((pooledPayments s sessionId).map (·.2)).filter fun p =>
      p.currencyCode = currencyCode currency && p.amount < 0 && p.note = .basketChange &&
        isDrawerAffectingMethod p.method).map fun p => |p.amount|).sum

/-- The money the basket was paid with. -/
structure Pool where
  totalIn : Amounts
  net : Amounts
  /-- not handed back yet -/
  available : Amounts

def sessionPool : Pool :=
  let totalIn : Amounts := fun currency =>
    ((sessionPooledInLegs s sessionId isDrawerAffectingMethod currency).map (·.amount)).sum
  let net := totalIn - sessionPooledOutLegsTotal s sessionId isDrawerAffectingMethod
  { totalIn := totalIn
    net := net
    available := fun currency => max 0 (net currency - priorPoolAttributed s sessionId currency) }

end

/-! Account first. -/

/-- How much of the item the charge takes, and what is left of the two. -/
structure Attribution where
  account : Amounts
  leftoverItem : Amounts
  leftoverCharge : Amounts

def sameCurrencyFirst (item chargeRemaining : Amounts) : Attribution :=
  let account : Amounts := fun currency => min (item currency) (chargeRemaining currency)
  { account := account, leftoverItem := item - account, leftoverCharge := chargeRemaining - account }

/-- An amount of one currency in another. -/
def exchange (rate : ℚ) (src dst : CoverageCurrency) (amount : ℚ) : ℚ :=
  amount / price rate src * price rate dst

def accountTake (rate : ℚ) (src dst : CoverageCurrency) (a : Attribution) : ℚ :=
  roundToUnit (min (exchange rate src dst (a.leftoverItem src)) (a.leftoverCharge dst)) (unit dst)

/-- What is left of the item in one currency is taken from the charge in the other. -/
def crossCurrency (rate : ℚ) (src dst : CoverageCurrency) (a : Attribution) : Attribution :=
  if dust src < a.leftoverItem src ∧ dust dst < a.leftoverCharge dst then
    let take := accountTake rate src dst a
    { account := Function.update a.account dst (a.account dst + take)
      leftoverItem := Function.update a.leftoverItem src (a.leftoverItem src - exchange rate dst src take)
      leftoverCharge := Function.update a.leftoverCharge dst (a.leftoverCharge dst - take) }
  else a

def accountFirst (rate : ℚ) (item chargeRemaining : Amounts) : Attribution :=
  crossCurrency rate .lbp .usd (crossCurrency rate .usd .lbp (sameCurrencyFirst item chargeRemaining))

/-! The rest out of the pool. -/

/-- By the currencies the pool holds. What one side cannot give is asked of the other. -/
def splitMixedPool (pool : Pool) (rate usdEquivAmount : ℚ) : Amounts :=
  let netMixUsd := max 0 (pool.net .usd)
  let netMixLbp := max 0 (pool.net .lbp)
  let netMixUsdEquiv := netMixUsd + netMixLbp / rate
  let usdShare := if 0 < netMixUsdEquiv then netMixUsd / netMixUsdEquiv else 1
  let usd := min (usdEquivAmount * usdShare) (pool.available .usd)
  let lbpWanted : ℚ := mathRound ((usdEquivAmount - usd) * rate)
  let lbp := min lbpWanted (pool.available .lbp)
  let usd := if lbp < lbpWanted then min (usd + (lbpWanted - lbp) / rate) (pool.available .usd) else usd
  pair (roundToUnit usd (1 / 100)) lbp

def splitAcrossPoolCurrencyMix (pool : Pool) (rate usdEquivAmount : ℚ) : Amounts :=
  if usdEquivAmount ≤ 1 / 200 then 0
  else if pool.totalIn .usd ≤ 0 ∧ pool.totalIn .lbp ≤ 0 then 0
  else if pool.totalIn .lbp ≤ 0 then pair (roundToUnit (min usdEquivAmount (pool.available .usd)) (1 / 100)) 0
  else if pool.totalIn .usd ≤ 0 then pair 0 (min (mathRound (usdEquivAmount * rate)) (pool.available .lbp))
  else splitMixedPool pool rate usdEquivAmount

/-! The plan. -/

structure RefundItem where
  sessionId : Nat
  /-- with its share of the basket's extra -/
  amount : Amounts
  /-- the buyer of the item -/
  clientId : Option Nat
  /-- a sale's lines; another member has none -/
  lines : List RefundLine := []
  /-- of a dollar in pounds: typed by the cashier, else the one the basket was paid at -/
  rate : ℚ
  ratePositive : 0 < rate

structure Plan where
  debtClientId : Option Nat
  accountAttributed : Amounts
  accountReduction : Amounts
  repaidBack : Amounts
  restoredFromPreexistingCredit : Amounts
  poolSplit : Amounts
  remainder : Amounts

section
variable (isDrawerAffectingMethod : String → Bool) (s : Store)

def basketChargeRemaining (sessionId : Nat) : Amounts :=
  fun currency => max 0 (grossCharge s sessionId currency - priorAccountAttributed s sessionId currency)

/-- The client the basket was charged to, or else the item's buyer. -/
def debtClientId (input : RefundItem) : Option Nat :=
  ((sessionDebtRows s input.sessionId).head?.map (·.2.clientId)).or input.clientId

/-- The client's balance before the first charge of the basket. -/
def balanceBefore (sessionId : Nat) (clientId : Option Nat) : Amounts :=
  match clientId, (sessionDebtRows s sessionId).head? with
  | some clientId, some row => clientBalanceBeforeRow s clientId row.1
  | _, _ => 0

/-- What the client still owes. -/
def stillOwedBucket (input : RefundItem) : Amounts :=
  fun currency => max 0 (match debtClientId s input with
    | some clientId => clientBalance s clientId currency
    | none => 0)

/-- The credit the client had before the basket, less what earlier item refunds gave back of it. -/
def preexistingBucket (input : RefundItem) : Amounts :=
  fun currency => max 0 (max 0 (-balanceBefore s input.sessionId (debtClientId s input) currency) -
    priorPreexistingCreditUsed s input.sessionId currency)

def planSessionItemRefund (input : RefundItem) : Plan :=
  let attribution := accountFirst input.rate input.amount (basketChargeRemaining s input.sessionId)
  let stillOwed := stillOwedBucket s input
  let preexisting := preexistingBucket s input
  let reduction : Amounts := fun currency =>
    roundToUnit (min (attribution.account currency) (stillOwed currency + preexisting currency)) (unit currency)
  let repaidBack : Amounts := fun currency => max 0 (attribution.account currency - reduction currency)
  let poolAttributedUsdEquiv := attribution.leftoverItem .usd +
    if 1 < attribution.leftoverItem .lbp then attribution.leftoverItem .lbp / input.rate else 0
  let poolSplit := splitAcrossPoolCurrencyMix (sessionPool s input.sessionId isDrawerAffectingMethod) input.rate
    poolAttributedUsdEquiv
  let remainderUsd := repaidBack .usd + poolSplit .usd
  let remainderLbp : ℚ := mathRound (repaidBack .lbp + poolSplit .lbp)
  { debtClientId := debtClientId s input
    accountAttributed := attribution.account
    accountReduction := reduction
    repaidBack := repaidBack
    restoredFromPreexistingCredit := fun currency =>
      min (max 0 (reduction currency - stillOwed currency)) (preexisting currency)
    poolSplit := poolSplit
    remainder := pair (if dust .usd < remainderUsd then remainderUsd else 0)
      (if dust .lbp < remainderLbp then remainderLbp else 0) }

/-! What the refund writes. -/

/-- Money that goes back to the customer. -/
structure TransactionPaymentLeg where
  method : String
  drawerName : String
  currency : CoverageCurrency
  amount : ℚ

/-- A total shared out by weight in whole units, none of it lost. -/
def allocateExact (total : ℚ) (weights : List ℚ) (unit : ℚ) : List ℚ :=
  let roundedTotal := roundToUnit total unit
  let sumWeights := weights.sum
  if weights = [] ∨ sumWeights ≤ 0 ∨ roundedTotal ≤ 0 then weights.map fun _ => 0
  else
    (shareUnits (weights.map fun w => roundedTotal * (w / sumWeights) / unit) (mathRound (roundedTotal / unit))).map
      fun units : ℤ => roundToUnit (units * unit) unit

variable (cashDrawer : String)

def cashLeg (currency : CoverageCurrency) (amount : ℚ) : TransactionPaymentLeg where
  method := "CASH"
  drawerName := cashDrawer
  currency := currency
  amount := amount

/-- By the money the basket was paid with in the currency, and in cash where there was none. -/
def defaultSessionRefundLegs (sessionId : Nat) (amount : ℚ) (currency : CoverageCurrency) : List TransactionPaymentLeg :=
  if amount ≤ 0 then []
  else
    let pooled := sessionPooledInLegs s sessionId isDrawerAffectingMethod currency
    if (pooled.map (·.amount)).sum ≤ 0 then [cashLeg cashDrawer currency amount]
    else
      ((pooled.zip (allocateExact amount (pooled.map (·.amount)) (unit currency))).map fun share =>
        { method := share.1.method, drawerName := share.1.drawerName, currency := currency, amount := share.2 }).filter
          fun leg : TransactionPaymentLeg => pair (1 / 10000) 0 currency < leg.amount

/-- Money the client had paid on the account is no money of the pool: it goes back in cash. -/
def repaidBackLegs (repaidBack : Amounts) : List TransactionPaymentLeg :=
  [CoverageCurrency.usd, .lbp].flatMap fun currency =>
    if dust currency < repaidBack currency then
      [cashLeg cashDrawer currency (roundToUnit (repaidBack currency) (unit currency))]
    else []

def sameDrawerLeg (a b : TransactionPaymentLeg) : Bool :=
  a.method = b.method && a.drawerName = b.drawerName && a.currency = b.currency

def mergeLeg : List TransactionPaymentLeg → TransactionPaymentLeg → List TransactionPaymentLeg
  | [], leg => [leg]
  | other :: rest, leg =>
    if sameDrawerLeg other leg then { other with amount := other.amount + leg.amount } :: rest
    else other :: mergeLeg rest leg

def mergeLegs (legs : List TransactionPaymentLeg) : List TransactionPaymentLeg :=
  (legs.foldl mergeLeg []).filter fun leg => 1 / 10000 < leg.amount

def planDefaultLegs (sessionId : Nat) (plan : Plan) : List TransactionPaymentLeg :=
  mergeLegs (defaultSessionRefundLegs isDrawerAffectingMethod s cashDrawer sessionId (plan.poolSplit .usd) .usd ++
    defaultSessionRefundLegs isDrawerAffectingMethod s cashDrawer sessionId (plan.poolSplit .lbp) .lbp ++
    repaidBackLegs cashDrawer plan.repaidBack)

def refundPayment (refundTxnId : Nat) (leg : TransactionPaymentLeg) : Payment where
  transactionId := some refundTxnId
  sessionId := none
  method := leg.method
  drawerName := leg.drawerName
  currencyCode := currencyCode leg.currency
  amount := -leg.amount
  note := .itemRefund

/-- The reduction of the account. A charge is always a client's, so without a client there is nothing to reduce. -/
def refundCredit (refundTxnId : Nat) (input : RefundItem) (plan : Plan) : List DebtRow :=
  match plan.debtClientId with
  | some clientId =>
    if 1 / 10000 < plan.accountReduction .usd ∨ 1 / 10000 < plan.accountReduction .lbp then
      [{ clientId := clientId
         sessionId := some input.sessionId
         transactionType := sessionItemRefundCreditType
         transactionId := some refundTxnId
         amount := -plan.accountReduction }]
    else []
  | none => []

/-- What the plan leaves on the refund's row for the refunds after it. -/
def refundMetadata (input : RefundItem) (plan : Plan) : Metadata where
  refundType := some "sessionItem"
  sessionId := some input.sessionId
  lines := input.lines
  accountAttributed := plan.accountAttributed
  poolSplit := plan.poolSplit
  restoredFromPreexistingCredit := plan.restoredFromPreexistingCredit

inductive RefundError where
  | alreadyReversed (sessionId : Nat)
  | notFound (id : Nat)
  | notARefund
  | notActive
  | notFromBasket (standalone : Bool)
  | noSession
  | noLines
  | alreadyUndone
  deriving DecidableEq, Repr

def RefundError.message (number : Nat → String) : RefundError → String
  | .alreadyReversed sessionId => "Session basket #" ++ number sessionId ++ " has already been voided/refunded"
  | .notFound id => "transaction with id " ++ number id ++ " not found"
  | .notARefund => "Undo refund only applies to a REFUND transaction."
  | .notActive => "This refund is not active — nothing to undo."
  | .notFromBasket true => "This refund was made from a standalone sale — use the standard undo refund action."
  | .notFromBasket false => "Undo refund only applies to a session-basket item refund."
  | .noSession => "This refund's record is missing the session it belongs to — cannot undo it safely."
  | .noLines =>
    "This refund can't be undone — it was made before per-line detail was recorded, or it refunded a non-sale basket " ++
      "item (recharge/custom service), which undo refund does not yet support."
  | .alreadyUndone => "This refund has already been undone."

/-- The basket was voided or refunded as a whole. -/
def basketReversed (sessionId : Nat) : Bool :=
  (s.payments.rows.any fun row =>
      row.2.sessionId = some sessionId && row.2.transactionId.isNone && row.2.note = .basketReversal) ||
    s.debts.rows.any fun row => row.2.sessionId = some sessionId && row.2.transactionType = "Refund Reversal"

/-- With the money back by default. -/
def refundSessionBasketItem (input : RefundItem) : Except RefundError Store :=
  if basketReversed s input.sessionId then .error (.alreadyReversed input.sessionId)
  else
    let plan := planSessionItemRefund isDrawerAffectingMethod s input
    let refundTxnId := s.transactions.nextId
    .ok
      { payments := s.payments.insertAll
          ((planDefaultLegs isDrawerAffectingMethod s cashDrawer input.sessionId plan).map (refundPayment refundTxnId))
        debts := s.debts.insertAll (refundCredit refundTxnId input plan)
        transactions := s.transactions.insert { type := .refund, metadata := some (refundMetadata input plan) }
        links := s.links.insert
          { sessionId := input.sessionId
            unifiedTransactionId := some refundTxnId
            transactionType := sessionItemRefundLinkType
            amount := -input.amount } }

end

end Liratek.Basket.ItemRefund
