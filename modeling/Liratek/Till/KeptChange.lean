import Liratek.Lib.Rounding
import Liratek.Voucher.Vouchers
import Mathlib.Data.Rat.Floor

/-! Kept change: the difference between the money handed over and the money due that stays with someone. Every flow asks
`resolveKeptChange` to check a claimed amount against the payment lines. -/

namespace Liratek.Till.KeptChange
open Voucher.Vouchers (Currency UsdLbp Rate amountIn usdEquivalent resolveStampedExchangeRate preferTenderRate
  legReconciliationEpsilonUsd keptChangeRoundingTolerance shortfallMax isWithinShortfallMax)
open Lib.Rounding (roundTo)

inductive CurrencyCode where
  | known (currency : Currency)
  | other (code : String)
  deriving DecidableEq, Repr

structure ReconciliationLeg where
  method : String
  currencyCode : CurrencyCode
  amount : ℚ
  isOut : Bool := false
  deriving DecidableEq, Repr

/-- A refusal the cashier reads. -/
def refuseIf (refused : Bool) (plain : String) : Except String Unit :=
  if refused then .error plain else .ok ()

/-- A third currency is rejected. -/
def addLeg (context : String) (sums : UsdLbp) (leg : ReconciliationLeg) : Except String UsdLbp :=
  if |leg.amount| = 0 then .ok sums
  else
    match leg.currencyCode with
    | .known currency => .ok (sums + amountIn currency |leg.amount|)
    | .other code => .error (context ++ ": payment leg currency \"" ++ code ++ "\" is not USD or LBP — cannot reconcile")

def sumLegsFrom (context : String) : UsdLbp → List ReconciliationLeg → Except String UsdLbp
  | sums, [] => .ok sums
  | sums, leg :: rest => (addLeg context sums leg).bind fun next => sumLegsFrom context next rest

def sumLegsByCurrency (legs : List ReconciliationLeg) (context : String) : Except String UsdLbp :=
  sumLegsFrom context 0 legs

def legsUsd (legs : List ReconciliationLeg) (rate : Rate) (context : String) : Except String ℚ :=
  (sumLegsByCurrency legs context).map fun sums => usdEquivalent sums rate.value

/-- What all payers have. -/
structure KeptChangeCommon where
  context : String
  /-- the server's rate of record -/
  exchangeRate : Rate
  tenderExchangeRate : Option ℚ := none
  claimedKept : Option UsdLbp := none
  isForPartner : Bool := false

/-- A discount or a waived amount: the shop accepts less than is due. -/
structure ReductionClaim where
  claimedReduction : Option UsdLbp := none
  reductionCap : Option UsdLbp := none
  reductionLabel : String := "waived amount"
  reductionCapText : Option String := none
  reductionAllowsChange : Bool := false

inductive KeptChangePayer where
  | customer (expected : UsdLbp) (inLegs outLegs : List ReconciliationLeg) (reduction : ReductionClaim)
  | shop (bill : UsdLbp) (handedLegs returnedLegs : List ReconciliationLeg)
  | payout (owed : ℚ) (owedCurrency : CurrencyCode) (payoutLegs outLegs : List ReconciliationLeg)
  | payoutPerCurrency (owed : UsdLbp) (payoutLegs outLegs : List ReconciliationLeg)

structure KeptChangeResult where
  kept : UsdLbp := 0
  notReturned : UsdLbp := 0
  cost : UsdLbp := 0
  reduction : UsdLbp := 0
  deriving DecidableEq, Repr

def floatDust : ℚ := 1 / 10 ^ 9

def KeptChangeCommon.rate (common : KeptChangeCommon) : Rate :=
  resolveStampedExchangeRate common.exchangeRate common.tenderExchangeRate

/-- The equation over all lines. With none that pays in nothing is checked. -/
def reconcileLegs (common : KeptChangeCommon) (inLegs outLegs : List ReconciliationLeg) (keptChange expectedTotals : UsdLbp) :
    Except String Unit :=
  if inLegs = [] then .ok ()
  else
    let rate := preferTenderRate common.exchangeRate common.tenderExchangeRate
    (legsUsd inLegs rate common.context).bind fun inUsd =>
      (legsUsd outLegs rate common.context).bind fun outUsd =>
        let diff := inUsd - outUsd - usdEquivalent keptChange rate.value - usdEquivalent expectedTotals rate.value
        refuseIf (legReconciliationEpsilonUsd < |diff|)
          (if diff < 0 then "The payment doesn't add up to the total." else "The payment is more than the total.")

def any (amounts : UsdLbp) : Bool :=
  0 < amounts.1 || 0 < amounts.2

def keptTolerance (kept : UsdLbp) (rate : Rate) : ℚ :=
  (if 0 < kept.1 then keptChangeRoundingTolerance .usd else 0) +
    (if 0 < kept.2 then keptChangeRoundingTolerance .lbp / rate.value else 0) + floatDust

def nonEmpty (legs : List ReconciliationLeg) : List ReconciliationLeg :=
  legs.filter fun leg => 0 < |leg.amount|

/-- An amount that the client claims, in both currencies. -/
def readAmounts (claim : Option UsdLbp) (plain : String) : Except String UsdLbp :=
  let amounts := claim.getD 0
  (refuseIf (amounts.1 < 0 || amounts.2 < 0) plain).map fun _ => amounts

def readClaim (claim : Option UsdLbp) : Except String UsdLbp :=
  readAmounts claim "The kept change amount isn't valid."

def readReduction (reduction : ReductionClaim) : Except String UsdLbp :=
  readAmounts reduction.claimedReduction ("The " ++ reduction.reductionLabel ++ " isn't valid.")

/-- Kept change never exceeds what is really over, but for rounding. -/
def assertWithinExcess (common : KeptChangeCommon) (inLegs outLegs : List ReconciliationLeg) (expected kept : UsdLbp)
    (plain : String) : Except String Unit :=
  (legsUsd inLegs common.rate common.context).bind fun inUsd =>
    (legsUsd outLegs common.rate common.context).bind fun outUsd =>
      let excessUsd := inUsd - outUsd - usdEquivalent expected common.rate.value
      refuseIf (excessUsd + keptTolerance kept common.rate < usdEquivalent kept common.rate.value) plain

section
-- whether lines of a payment method move a drawer, as the payment methods are set up
variable (isDrawerAffectingMethod : String → Bool)

def isDrawer (leg : ReconciliationLeg) : Bool :=
  isDrawerAffectingMethod leg.method

/-- Lines that move no drawer pay the total first; only what drawer lines leave beyond that can be kept. -/
def assertDrawerFunded (common : KeptChangeCommon) (inLegs outLegs : List ReconciliationLeg) (expected kept : UsdLbp)
    (plain : String) : Except String Unit :=
  let drawer := isDrawer isDrawerAffectingMethod
  (legsUsd (inLegs.filter drawer) common.rate common.context).bind fun drawerIn =>
    (legsUsd (outLegs.filter drawer) common.rate common.context).bind fun drawerOut =>
      (legsUsd (inLegs.filter fun leg => !drawer leg) common.rate common.context).bind fun nonDrawerIn =>
        (legsUsd (outLegs.filter fun leg => !drawer leg) common.rate common.context).bind fun nonDrawerOut =>
          let nonDrawerNet := nonDrawerIn - nonDrawerOut
          let expectedUsd := usdEquivalent expected common.rate.value
          let drawerExcess := drawerIn - drawerOut - max 0 (expectedUsd - nonDrawerNet)
          refuseIf (drawerExcess + keptTolerance kept common.rate < usdEquivalent kept common.rate.value) plain

/-! A customer who pays less than is due. -/

section
variable (formatMoneyAmount : ℚ → Currency → String)

/-- The label with a capital first letter. -/
def capitalize (label : String) : String :=
  label.capitalize

def resolveCustomerReduction (common : KeptChangeCommon) (expected : UsdLbp) (claim : ReductionClaim)
    (inLegs outLegs : List ReconciliationLeg) (kept reduction : UsdLbp) : Except String KeptChangeResult :=
  let rate := common.rate.value
  let the := "The " ++ claim.reductionLabel
  (refuseIf (any kept) (the ++ " can't be combined with change kept.")).bind fun _ =>
  (refuseIf common.isForPartner (capitalize claim.reductionLabel ++ " isn't allowed on a partner transaction.")).bind fun _ =>
  (refuseIf (!outLegs.isEmpty && !claim.reductionAllowsChange) (the ++ " can't be combined with change given back.")).bind fun _ =>
  (refuseIf inLegs.isEmpty ("There is no payment to apply the " ++ claim.reductionLabel ++ " to.")).bind fun _ =>
  match claim.reductionCap with
  | none => .error (the ++ " can't be accepted here.")
  | some cap =>
    let tolerance := keptTolerance reduction common.rate
    let reductionUsdEq := usdEquivalent reduction rate
    let capUsdEq := max cap.1 (cap.2 / rate)
    let capText := claim.reductionCapText.getD (formatMoneyAmount cap.1 .usd ++ " / " ++ formatMoneyAmount cap.2 .lbp)
    (refuseIf (cap.1 + keptChangeRoundingTolerance .usd + floatDust < reduction.1 ||
        cap.2 + keptChangeRoundingTolerance .lbp + floatDust < reduction.2 || capUsdEq + tolerance < reductionUsdEq)
      (the ++ " is more than " ++ capText ++ ".")).bind fun _ =>
    (sumLegsByCurrency inLegs common.context).bind fun inS =>
    (sumLegsByCurrency outLegs common.context).bind fun outS =>
    let gapUsd := usdEquivalent expected rate - (usdEquivalent inS rate - usdEquivalent outS rate)
    -- the rounding of a tender currency that the claim is not in
    let matchTolerance := tolerance +
      (if (inS.1 ≠ 0 || outS.1 ≠ 0) && reduction.1 = 0 then keptChangeRoundingTolerance .usd else 0) +
      (if (inS.2 ≠ 0 || outS.2 ≠ 0) && reduction.2 = 0 then keptChangeRoundingTolerance .lbp / rate else 0)
    (refuseIf (matchTolerance < |reductionUsdEq - gapUsd|) (the ++ " does not match what is left to pay.")).bind fun _ =>
    (reconcileLegs common inLegs outLegs 0 (expected - reduction)).map fun _ => { reduction }

end

/-! The payers. -/

section
variable (formatMoneyAmount : ℚ → Currency → String)

def resolveCustomer (common : KeptChangeCommon) (expected : UsdLbp) (inLegs outLegs : List ReconciliationLeg)
    (claim : ReductionClaim) (kept : UsdLbp) : Except String KeptChangeResult :=
  (readReduction claim).bind fun reduction =>
  if any reduction then resolveCustomerReduction formatMoneyAmount common expected claim inLegs outLegs kept reduction
  else
    (refuseIf (any kept && inLegs.isEmpty) "There is no payment to keep change from.").bind fun _ =>
    (reconcileLegs common inLegs outLegs kept expected).bind fun _ =>
    if any kept then
      (assertWithinExcess common inLegs outLegs expected kept "The change kept is more than the change due.").bind fun _ =>
      (assertDrawerFunded isDrawerAffectingMethod common inLegs outLegs expected kept
        "Change can only be kept from cash or wallet money.").map fun _ => { kept }
    else .ok { kept }

end

def resolveShop (common : KeptChangeCommon) (bill : UsdLbp) (handed returned : List ReconciliationLeg) (kept : UsdLbp) :
    Except String KeptChangeResult :=
  let drawerOnly := "Change not returned only applies to cash or wallet money."
  (refuseIf (any kept && handed.isEmpty) "There is no payment to keep change from.").bind fun _ =>
  (reconcileLegs common handed returned kept bill).bind fun _ =>
  (if any kept then
    (assertWithinExcess common handed returned bill kept "The change not returned is more than the change due.").bind fun _ =>
    (refuseIf (returned.any fun leg => !isDrawer isDrawerAffectingMethod leg) drawerOnly).bind fun _ =>
    assertDrawerFunded isDrawerAffectingMethod common handed returned bill kept drawerOnly
  else .ok ()).bind fun _ =>
  if handed.isEmpty then .ok {}
  else
    (sumLegsByCurrency handed common.context).bind fun h =>
    (sumLegsByCurrency returned common.context).map fun r => { notReturned := kept, cost := h - r }

/-- The part of an amount in one currency. -/
def part (amounts : UsdLbp) : Currency → ℚ
  | .usd => amounts.1
  | .lbp => amounts.2

def otherCurrency : Currency → Currency
  | .usd => .lbp
  | .lbp => .usd

def currencyText : Currency → String
  | .usd => "USD"
  | .lbp => "LBP"

/-- An amount in a currency code; a third currency is read as dollars. -/
def owedTotals (currency : CurrencyCode) (owed : ℚ) : UsdLbp :=
  if currency = .known .lbp then (0, owed) else (owed, 0)

section
variable (formatMoneyAmount : ℚ → Currency → String)

def resolvePayout (common : KeptChangeCommon) (owed : ℚ) (owedCurrency : CurrencyCode) (legs : List ReconciliationLeg)
    (kept : UsdLbp) : Except String KeptChangeResult :=
  if !any kept then (reconcileLegs common legs [] 0 (owedTotals owedCurrency owed)).map fun _ => {}
  else
    (refuseIf legs.isEmpty "There is no payout line to keep change from.").bind fun _ =>
    (refuseIf (legs.any fun leg => !isDrawer isDrawerAffectingMethod leg)
      "Change can only be kept on a cash or wallet payout.").bind fun _ =>
    match owedCurrency with
    | .other _ => .error "Change can only be kept on a USD or LBP payout."
    | .known to' =>
      let keptInPayout := part kept to'
      (refuseIf (0 < part kept (otherCurrency to'))
        ("Change must be kept in the payout's currency (" ++ currencyText to' ++ ").")).bind fun _ =>
      (refuseIf (!isWithinShortfallMax keptInPayout to')
        ("You can only keep up to " ++ formatMoneyAmount (shortfallMax to') to' ++ " of change on a payout.")).bind fun _ =>
      (legsUsd legs common.rate common.context).bind fun paidUsd =>
      let paid := match to' with
        | .usd => paidUsd
        | .lbp => paidUsd * common.rate.value
      let tol := keptChangeRoundingTolerance to'
      let shortfall := owed - paid
      (refuseIf (shortfall ≤ tol) "There is no change to keep — the payout is already paid in full.").bind fun _ =>
      (reconcileLegs common legs [] 0 (owedTotals owedCurrency (owed - keptInPayout))).bind fun _ =>
      (refuseIf (shortfall + tol + floatDust < keptInPayout)
        "The change kept is more than the amount left unpaid.").map fun _ => { kept := amountIn to' keptInPayout }

end

/-- Nothing left, or more than the portion: coarser than the rounding of a claim. -/
def holdPickupEpsilon : Currency → ℚ
  | .usd => 1 / 100
  | .lbp => 1

def centsOf : Currency → ℚ
  | .usd => 100
  | .lbp => 1

/-- What is handed out in a currency. Lines in a third one count in neither. -/
def handedIn (legs : List ReconciliationLeg) (currency : Currency) : ℚ :=
  ((legs.filter fun leg => !leg.isOut && leg.currencyCode = .known currency).map fun leg => |leg.amount|).sum

structure HoldPickupKeptResult where
  handed : Currency → ℚ
  kept : Currency → ℚ
  isOver : Currency → Bool

def holdPickupKeptPerCurrency (portion : UsdLbp) (legs : List ReconciliationLeg) : HoldPickupKeptResult where
  handed := handedIn legs
  kept c := max 0 (roundTo (centsOf c) (part portion c - handedIn legs c))
  isOver c := part portion c + holdPickupEpsilon c < handedIn legs c

def resolvePerCurrencyPayout (common : KeptChangeCommon) (owed : UsdLbp) (legs : List ReconciliationLeg) (kept : UsdLbp) :
    Except String KeptChangeResult :=
  if !any kept then (reconcileLegs common legs [] 0 owed).map fun _ => {}
  else
    (refuseIf legs.isEmpty "There is no payout line to keep change from.").bind fun _ =>
    let k := holdPickupKeptPerCurrency owed (legs.map fun leg => { leg with isOut := false })
    (refuseIf (k.isOver .usd || k.isOver .lbp)
      ("You can't hand out more " ++ (if k.isOver .usd then "USD" else "LBP") ++
        " than is being returned while keeping change — pay the exact amount instead.")).bind fun _ =>
    (refuseIf (keptChangeRoundingTolerance .usd < |kept.1 - k.kept .usd| || keptChangeRoundingTolerance .lbp < |kept.2 - k.kept .lbp|)
      "The payment doesn't add up to the total.").bind fun _ =>
    (refuseIf (legs.any fun leg => !isDrawer isDrawerAffectingMethod leg)
      "Change can only be kept on a cash or wallet payout.").map fun _ => { kept := (k.kept .usd, k.kept .lbp) }

def resolveKeptChange (formatMoneyAmount : ℚ → Currency → String) (common : KeptChangeCommon) (payer : KeptChangePayer) :
    Except String KeptChangeResult :=
  (readClaim common.claimedKept).bind fun kept =>
  (refuseIf (any kept && common.isForPartner) "Keeping change isn't allowed on a partner transaction.").bind fun _ =>
  match payer with
  | .customer expected inLegs outLegs reduction =>
    resolveCustomer isDrawerAffectingMethod formatMoneyAmount common expected (nonEmpty inLegs) (nonEmpty outLegs) reduction kept
  | .shop bill handedLegs returnedLegs =>
    resolveShop isDrawerAffectingMethod common bill (nonEmpty handedLegs) (nonEmpty returnedLegs) kept
  | .payout owed owedCurrency payoutLegs outLegs =>
    (refuseIf (!(nonEmpty outLegs ++ (nonEmpty payoutLegs).filter (·.isOut)).isEmpty)
      "A payout can't include change given back.").bind fun _ =>
    resolvePayout isDrawerAffectingMethod formatMoneyAmount common |owed| owedCurrency (nonEmpty payoutLegs) kept
  | .payoutPerCurrency owed payoutLegs outLegs =>
    (refuseIf (!(nonEmpty outLegs ++ (nonEmpty payoutLegs).filter (·.isOut)).isEmpty)
      "A payout can't include change given back.").bind fun _ =>
    resolvePerCurrencyPayout isDrawerAffectingMethod common owed (nonEmpty payoutLegs) kept

end

end Liratek.Till.KeptChange
