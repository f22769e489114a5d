import Liratek.Lib.Calls
import Liratek.Lib.Entries
import Liratek.Refund.CustomerCash
import Liratek.Till.KeptChange

/-! A refund through the return lines an operator chooses. The lines replace the customer's legs of the original; every other
payment row is mirrored. -/

namespace Liratek.Refund.ReturnLines
open Lib Lib.Calls CustomerCash
open Till.KeptChange (CurrencyCode part currencyText ReconciliationLeg KeptChangeCommon KeptChangePayer resolveKeptChange)
open Voucher.Vouchers (Currency UsdLbp Rate)

/-! Payment methods. -/

structure PaymentMethodEntity where
  drawerName : String
  isActive : Bool
  affectsDrawer : Bool
  deriving DecidableEq, Repr

def fallbackDrawerMap : List (String × String) :=
  [("CASH", "General"), ("OMT", "OMT_App"), ("WHISH", "Whish_App"), ("BINANCE", binanceDrawerName),
    ("CUSTOMER_ACCOUNT", "General")]

def nonDrawerMethods : List String :=
  ["CUSTOMER_ACCOUNT", "GIFT_CARD"]

def canonicalMethods : List String :=
  fallbackDrawerMap.map (·.1) ++ nonDrawerMethods

section
-- the payment methods as they are set up
variable (getByCode : String → Option PaymentMethodEntity)

def isDrawerAffectingMethod (method : String) : Bool :=
  match getByCode method with
  | some pm => pm.affectsDrawer
  | none => canonicalMethods.contains method && !nonDrawerMethods.contains method

def paymentMethodToDrawerName (method : String) : String :=
  match getByCode method with
  | some pm => pm.drawerName
  | none => (fallbackDrawerMap.lookup method).getD "General"

inductive BaseSystem where
  | omt | whish
  deriving DecidableEq, Repr

def BaseSystem.provider : BaseSystem → String
  | .omt => "OMT"
  | .whish => "WHISH"

def primaryCashDrawerName : BaseSystem → String
  | .omt => "OMT_System"
  | .whish => "Whish_System"

structure ServiceCashDrawerContext where
  provider : String
  baseSystem : BaseSystem
  deriving DecidableEq, Repr

def resolveServiceCashDrawer (method : String) (ctx : ServiceCashDrawerContext) : String :=
  if ctx.provider = ctx.baseSystem.provider && isDrawerAffectingMethod getByCode method &&
      paymentMethodToDrawerName getByCode method = "General" && method ≠ "GIFT_CARD" then
    primaryCashDrawerName ctx.baseSystem
  else paymentMethodToDrawerName getByCode method

/-- Whether the return lines replace the row. -/
def isOverridableLeg (p : PaymentRow) : Bool :=
  !isInternalLegJs p && isDrawerAffectingMethod getByCode p.method

/-- The Binance drawer holds USDT only. -/
def postingCurrency (drawerName currencyCode : String) : Except String String :=
  if drawerName ≠ binanceDrawerName then .ok currencyCode
  else if currencyCode = "USD" then .ok "USDT"
  else if currencyCode = "LBP" then .error "Binance only takes USDT — enter the Binance line in dollars."
  else .ok currencyCode

def checkpointResolutionMethod : String :=
  "CHECKPOINT_RESOLUTION"

def isCheckpointPaymentMethod (method : String) : Bool :=
  method = "CHECKPOINT_ADJUSTMENT" || method = checkpointResolutionMethod

/-- The row only labels money that another leg has moved. -/
def isAuditOnlyPaymentMethod (method : String) : Bool :=
  method = "PM_FEE"

/-! The check of the lines. -/

structure RefundLegOverride where
  method : String
  currencyCode : String
  amount : ℚ
  deriving DecidableEq, Repr

def refundLegAmountEpsilon (currencyCode : String) : ℚ :=
  if currencyCode = "LBP" then 1 else 1 / 100

def refundValueToleranceUsd : ℚ :=
  refundLegAmountEpsilon "USD" * 2

/-- `isUsableRefundExchangeRate` -/
def usableRate (exchangeRate : Option ℚ) : Option ℚ :=
  exchangeRate.filter fun rate => 0 < rate

def toUsd (rate : ℚ) (currencyCode : String) : ℚ :=
  if currencyCode = "LBP" then 1 / rate else 1

/-- The customer's signed net, positive for money that came in. -/
def overridableNetByCurrency (rows : List PaymentRow) : Entries String ℚ :=
  Entries.empty.addAll ((rows.filter (isOverridableLeg getByCode)).map fun p => (p.currencyCode, p.amount))

inductive RefundLegError where
  | notPositive (amount : ℚ) (currencyCode : String)
  | currencyNotSupported (currencyCode : String)
  | methodNotActive (method : String)
  | nothingToRefund
  | valuesDiffer (exchangeRate originalValueUsd overrideValueUsd : ℚ)
  | totalsDiffer (currencyCode : String) (original overridden : ℚ)
  | keptChange (plain : String)
  deriving DecidableEq, Repr

def RefundLegError.message (number toFixed2 : ℚ → String) : RefundLegError → String
  | .notPositive amount currencyCode =>
    "Refund method override: leg amount must be greater than 0 (got " ++ number amount ++ " " ++ currencyCode ++ ")"
  | .currencyNotSupported currencyCode =>
    "Refund method override: currency \"" ++ currencyCode ++ "\" is not a supported refund currency (USD or LBP)"
  | .methodNotActive method =>
    "Refund method override: \"" ++ method ++ "\" is not an active, drawer-affecting payment method"
  | .nothingToRefund => "Refund method override: this transaction has no customer-facing payment to refund"
  | .valuesDiffer exchangeRate originalValueUsd overrideValueUsd =>
    "Refund method override: refund legs do not match the original payment's value at rate " ++ number exchangeRate ++
      " — original value $" ++ toFixed2 originalValueUsd ++ ", refund legs value $" ++ toFixed2 overrideValueUsd
  | .totalsDiffer currencyCode original overridden =>
    "Refund method override: " ++ currencyCode ++ " totals do not match the original payment — original " ++
      number original ++ ", refund legs total " ++ number overridden
  | .keptChange plain => plain

def checkLeg (leg : RefundLegOverride) : Except RefundLegError Unit :=
  if leg.amount ≤ 0 then .error (.notPositive leg.amount leg.currencyCode)
  else if !customerCashCurrencies.contains leg.currencyCode then .error (.currencyNotSupported leg.currencyCode)
  else if !(getByCode leg.method).any fun pm => pm.isActive && pm.affectsDrawer then .error (.methodNotActive leg.method)
  else .ok ()

def overrideNet (refundLegs : List RefundLegOverride) : Entries String ℚ :=
  Entries.empty.addAll (refundLegs.map fun leg => (leg.currencyCode, leg.amount))

def totalsMismatch (originalNet overrideNet : Entries String ℚ) (currency : String) : Option RefundLegError :=
  let original := |originalNet.amount currency|
  let overridden := overrideNet.amount currency
  if refundLegAmountEpsilon currency < |original - overridden| then some (.totalsDiffer currency original overridden) else none

def validateRefundLegOverrideAmounts (originalNetByCurrency : Entries String ℚ) (refundLegs : List RefundLegOverride)
    (exchangeRate : Option ℚ) : Except RefundLegError Unit :=
  (gather (checkLeg getByCode) refundLegs).bind fun _ =>
    let net := overrideNet refundLegs
    let currencies := originalNetByCurrency.keys ++ net.keys.filter fun c => !originalNetByCurrency.keys.contains c
    if currencies = [] then .error .nothingToRefund
    else
      match usableRate exchangeRate with
      | some rate =>
        -- the signed nets first, so that a change leg is not counted as a second payment
        let originalValueUsd := |(currencies.map fun c => originalNetByCurrency.amount c * toUsd rate c).sum|
        let overrideValueUsd := (currencies.map fun c => net.amount c * toUsd rate c).sum
        if refundValueToleranceUsd < |originalValueUsd - overrideValueUsd| then
          .error (.valuesDiffer rate originalValueUsd overrideValueUsd)
        else .ok ()
      | none =>
        match currencies.findSome? (totalsMismatch originalNetByCurrency net) with
        | some error => .error error
        | none => .ok ()

/-! Kept change. -/

def refundKeptChangeTypes : List String :=
  ["SALE", "DEBT_REPAYMENT", "FINANCIAL_SERVICE", "RECHARGE", "CUSTOM_SERVICE", "MAINTENANCE", "LOTO"]

def currencyOf (code : String) : CurrencyCode :=
  if code = "USD" then .known .usd else if code = "LBP" then .known .lbp else .other code

/-- What the refund's kept change depends on besides the lines. -/
structure KeptContext where
  /-- the rate typed, else the one booked, else the day's -/
  exchangeRate : Rate
  claimed : Option UsdLbp := none
  isForPartner : Bool := false
  originalType : String

section
variable (formatMoneyAmount : ℚ → Currency → String)

def resolveRefundKeptChange (owedNet : Entries String ℚ) (refundLegs : List RefundLegOverride) (ctx : KeptContext) :
    Except String (UsdLbp × Entries String ℚ) :=
  let claimed := ctx.claimed.getD 0
  if claimed = 0 then .ok (0, owedNet)
  else if !refundKeptChangeTypes.contains ctx.originalType then
    .error ("Refund: kept change is not available when refunding this kind of transaction yet — hand back the exact amount")
  else if refundLegs.any fun leg => !isDrawerAffectingMethod getByCode leg.method then
    .error ("Refund: change can only be kept on a cash or wallet refund — a customer account or gift card return line " ++
      "cannot keep change")
  else
    match owedNet.list.filter fun e => refundLegAmountEpsilon e.1 < |e.2| with
    | [(currency, net)] =>
      match currencyOf currency with
      | .other _ => .error "Refund: kept change applies only to a refund in one currency (USD or LBP)"
      | .known owedCurrency =>
        if net ≤ 0 then .error "Refund: cannot keep change on a refund that takes money back from the customer"
        else if refundLegs.any fun leg => leg.currencyCode ≠ currency then
          .error ("Refund: kept change needs every return line in the refund's currency (" ++ currency ++ ")")
        else
          let common : KeptChangeCommon :=
            { context := "Refund", exchangeRate := ctx.exchangeRate, claimedKept := some claimed, isForPartner := ctx.isForPartner }
          let payoutLegs := refundLegs.map fun leg : RefundLegOverride =>
            ({ method := leg.method, currencyCode := currencyOf leg.currencyCode, amount := leg.amount } : ReconciliationLeg)
          (resolveKeptChange (isDrawerAffectingMethod getByCode) formatMoneyAmount common
              (.payout net (.known owedCurrency) payoutLegs [])).map fun result =>
            (result.kept, owedNet.set currency (net - part result.kept owedCurrency))
    | _ => .error "Refund: kept change applies only to a refund in one currency (USD or LBP)"

/-- The kept amount, when the lines give back the rest. -/
def validateRefundLegOverride (rows : List PaymentRow) (refundLegs : List RefundLegOverride) (exchangeRate : Option ℚ)
    (ctx : KeptContext) : Except RefundLegError UsdLbp :=
  let originalNet := overridableNetByCurrency getByCode rows
  ((resolveRefundKeptChange getByCode formatMoneyAmount originalNet refundLegs ctx).mapError .keptChange).bind fun resolved =>
    (validateRefundLegOverrideAmounts getByCode resolved.2 refundLegs exchangeRate).map fun _ => resolved.1

end

/-! The money side. -/

/-- The direction of a return line: the reversal of the original's value as a whole, at a rate. -/
def refundLegReversalSign (originalNetByCurrency : Entries String ℚ) (currency : String) (exchangeRate : Option ℚ) : ℚ :=
  let ownNet := originalNetByCurrency.amount currency
  let own := if ownNet < 0 then 1 else -1
  match usableRate exchangeRate with
  | some rate =>
    let totalValueUsd := (originalNetByCurrency.list.map fun e => e.2 * toUsd rate e.1).sum
    if totalValueUsd ≠ 0 then (if totalValueUsd < 0 then 1 else -1) else own
  | none => own

inductive ReversalMode where
  | void | refund
  deriving DecidableEq, Repr

/-- A payment row of the reversal. The drawer it names moves by its amount, unless the row is for the journal only. -/
structure ReversalRow where
  row : PaymentRow
  movesDrawer : Bool
  deriving DecidableEq, Repr

def reversalNote : String :=
  "Reversal"

def overrideNote : String :=
  "Refund (method override)"

def mirrorRow (p : PaymentRow) : Except String ReversalRow :=
  (if isCheckpointPaymentMethod p.method then .ok p.currencyCode else postingCurrency p.drawerName p.currencyCode).map
    fun currencyCode =>
      { row :=
          { method := p.method, drawerName := p.drawerName, currencyCode := currencyCode, amount := -p.amount
            note := some reversalNote }
        movesDrawer := !isAuditOnlyPaymentMethod p.method }

def overrideRow (originalNet : Entries String ℚ) (cashDrawerCtx : Option ServiceCashDrawerContext) (exchangeRate : Option ℚ)
    (leg : RefundLegOverride) : Except String ReversalRow :=
  let drawerName := match cashDrawerCtx with
    | some ctx => resolveServiceCashDrawer getByCode leg.method ctx
    | none => paymentMethodToDrawerName getByCode leg.method
  (postingCurrency drawerName leg.currencyCode).map fun currencyCode =>
    { row :=
        { method := leg.method, drawerName := drawerName, currencyCode := currencyCode
          amount := refundLegReversalSign originalNet leg.currencyCode exchangeRate * leg.amount, note := some overrideNote }
      movesDrawer := true }

/-- Rows that are mirrored. A refund leaves the offset of a checkpoint: that cash was counted. -/
def isMirrored (mode : ReversalMode) (overridden : Bool) (p : PaymentRow) : Bool :=
  !(mode = .refund && p.method = checkpointResolutionMethod) && !(overridden && isOverridableLeg getByCode p)

def reversePayments (mode : ReversalMode) (payments : List PaymentRow) (refundLegOverride : Option (List RefundLegOverride))
    (exchangeRate : Option ℚ) (cashDrawerCtx : Option ServiceCashDrawerContext) : Except String (List ReversalRow) :=
  (gather mirrorRow (payments.filter (isMirrored getByCode mode refundLegOverride.isSome))).bind fun mirrored =>
    match refundLegOverride with
    | none => .ok mirrored
    | some legs =>
      let originalNet := overridableNetByCurrency getByCode payments
      (gather (overrideRow getByCode originalNet cashDrawerCtx exchangeRate) legs).map fun replaced => mirrored ++ replaced

end

end Liratek.Refund.ReturnLines
