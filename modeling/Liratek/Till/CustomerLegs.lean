import Liratek.Till.KeptFunding
import Mathlib.Algebra.BigOperators.Group.List.Basic
import Mathlib.Tactic.Linarith

/-! Customer pays: the customer's own lines against the total of a screen. They are measured first, and written once they
balance. -/

namespace Liratek.Till.CustomerLegs
open Lib.Calls
open KeptChange (CurrencyCode ReconciliationLeg refuseIf)
open KeptFunding (refuseIf_ok)
open Voucher.Vouchers (UsdLbp legReconciliationEpsilonUsd isWithinShortfallMax)

/-- Cents, or whole lira. -/
def sameCurrencyTolerance (currency : CurrencyCode) : ℚ :=
  if currency = .known .lbp then 1 / 2 else 1 / 200

/-- USDT counts one to one as a dollar. -/
def comparisonCurrency (currency : CurrencyCode) : CurrencyCode :=
  if currency = .other "USDT" then .known .usd else currency

structure Total where
  amount : ℚ
  currency : CurrencyCode
  deriving DecidableEq, Repr

structure MeasureCustomerLegsInput where
  legs : List ReconciliationLeg
  expected : Total
  /-- lira for one dollar, or dollars for one unit of a third currency -/
  rate : ℚ
  clientId : Option ℕ := none
  waived : Option ℚ := none
  allowAddedChange : Bool := false

structure MeasuredCustomerLegs where
  paid : ℚ
  owed : UsdLbp
  forgiven : ℚ
  addedChange : ℚ
  addedChangeUsd : ℚ
  drawerLegs : List ReconciliationLeg
  deriving DecidableEq, Repr

def customerAccount : String := "CUSTOMER_ACCOUNT"

def isAccount (leg : ReconciliationLeg) : Bool :=
  leg.method = customerAccount

namespace MeasureCustomerLegsInput
variable (input : MeasureCustomerLegsInput)

def waivedAmount : ℚ :=
  input.waived.getD 0

def accountLegs : List ReconciliationLeg :=
  input.legs.filter isAccount

def drawerLegs : List ReconciliationLeg :=
  input.legs.filter fun leg => !isAccount leg

/-- `!clientId`: zero is no client. -/
def hasClient : Bool :=
  input.clientId.getD 0 ≠ 0

def expectedCur : CurrencyCode :=
  comparisonCurrency input.expected.currency

def curs : List CurrencyCode :=
  (input.expectedCur :: input.legs.map fun leg => comparisonCurrency leg.currencyCode).eraseDups

def foreign : List CurrencyCode :=
  input.curs.filter (· ≠ .known .usd)

def allSame : Bool :=
  input.curs.length = 1

def needsRate : Bool :=
  input.foreign ≠ [] && 1 < input.curs.length

def toUsd (amount : ℚ) (cur : CurrencyCode) : ℚ :=
  match comparisonCurrency cur with
  | .known .usd => amount
  | .known .lbp => amount / input.rate
  | .other _ => amount * input.rate

/-- The expected currency itself when every line is in it, else dollars. -/
def inUnit (amount : ℚ) (cur : CurrencyCode) : ℚ :=
  if input.allSame then amount else input.toUsd amount cur

def sumOf (legs : List ReconciliationLeg) : ℚ :=
  (legs.map fun leg => input.inUnit leg.amount leg.currencyCode).sum

def unitToExpected (u : ℚ) : ℚ :=
  if input.allSame then u
  else
    match input.expectedCur with
    | .known .usd => u
    | .known .lbp => u * input.rate
    | .other _ => u / input.rate

def expectedU : ℚ :=
  input.inUnit input.expected.amount input.expected.currency

def waivedU : ℚ :=
  input.inUnit input.waivedAmount input.expected.currency

def paidU : ℚ :=
  input.sumOf input.drawerLegs

def owedU : ℚ :=
  input.sumOf input.accountLegs

def tol : ℚ :=
  if input.allSame then sameCurrencyTolerance input.expectedCur else legReconciliationEpsilonUsd

/-- The cap of what is forgiven; that of a third currency is the one in dollars. -/
def capOk : Bool :=
  match input.expectedCur with
  | .known currency => isWithinShortfallMax input.waivedAmount currency
  | .other _ => 0 < input.rate && isWithinShortfallMax (input.toUsd input.waivedAmount input.expectedCur) .usd

end MeasureCustomerLegsInput

section
-- whether lines of a payment method move a drawer, as the payment methods are set up
variable (isDrawerAffectingMethod : String → Bool)

def checkLeg (leg : ReconciliationLeg) : Except String Unit :=
  (refuseIf leg.isOut "Change cannot be given back in the customer's lines.").bind fun _ =>
  (refuseIf (leg.amount ≤ 0) "A payment line has no amount.").bind fun _ =>
  refuseIf (!isAccount leg && !isDrawerAffectingMethod leg.method)
    (leg.method ++ " cannot be used here — use a drawer method or the client's account.")

def checkLegs : List ReconciliationLeg → Except String Unit
  | [] => .ok ()
  | leg :: rest => (checkLeg isDrawerAffectingMethod leg).bind fun _ => checkLegs rest

def checkShape (input : MeasureCustomerLegsInput) : Except String Unit :=
  (refuseIf (input.legs = []) "The customer has no payment lines.").bind fun _ =>
  (refuseIf (if input.allowAddedChange then input.expected.amount < 0 else input.expected.amount ≤ 0)
    "The total to collect is not valid.").bind fun _ =>
  (refuseIf (input.waivedAmount < 0) "The amount to forgive is not valid.").bind fun _ =>
  (checkLegs isDrawerAffectingMethod input.legs).bind fun _ =>
  refuseIf (input.accountLegs ≠ [] && !input.hasClient) "Choose a client to put part of the payment on their account."

def checkCurrencies (input : MeasureCustomerLegsInput) : Except String Unit :=
  (refuseIf (1 < input.foreign.length) "The customer's lines mix currencies that cannot be added together.").bind fun _ =>
  refuseIf (input.needsRate && input.rate ≤ 0) "The exchange rate is missing."

def checkForgiven (input : MeasureCustomerLegsInput) : Except String Unit :=
  refuseIf (0 < input.waivedAmount && !input.capOk) "The amount to forgive is above the limit ($5 / 450,000 LBP)."

/-- The lines and what is forgiven make the total; what is above it is change that the customer adds, where that is allowed. -/
def addedMoney (input : MeasureCustomerLegsInput) : Except String ℚ :=
  let overU := input.paidU + input.owedU - input.expectedU
  if input.allowAddedChange && input.tol < overU then
    (refuseIf (input.accountLegs ≠ [] || 0 < input.waivedAmount)
      "Added change can't come from the customer's account or a forgiven amount.").map fun _ => overU
  else
    let diff := input.paidU + input.owedU + input.waivedU - input.expectedU
    (refuseIf (input.tol < overU || input.tol < diff)
      (if 0 < input.waivedAmount && overU ≤ input.tol then "The amount to forgive is more than what is missing."
      else "The customer's lines are more than the total.")).bind fun _ =>
    (refuseIf (diff < -input.tol)
      "The customer's lines are less than the total — put the rest on the client's account or forgive it.").map fun _ => 0

/-- What a line puts on the account: lira as lira, anything else in dollars. -/
def owedFor (input : MeasureCustomerLegsInput) (leg : ReconciliationLeg) : UsdLbp :=
  if comparisonCurrency leg.currencyCode = .known .lbp then (0, leg.amount)
  else (input.toUsd leg.amount leg.currencyCode, 0)

def measured (input : MeasureCustomerLegsInput) (addedU : ℚ) : MeasuredCustomerLegs where
  paid := input.unitToExpected input.paidU
  owed := (input.accountLegs.map (owedFor input)).sum
  forgiven := input.waivedAmount
  addedChange := if 0 < addedU then input.unitToExpected addedU else 0
  addedChangeUsd :=
    if 0 < addedU then if input.allSame then input.toUsd addedU input.expected.currency else addedU else 0
  drawerLegs := input.drawerLegs

def measureCustomerLegs (input : MeasureCustomerLegsInput) : Except String MeasuredCustomerLegs :=
  (checkShape isDrawerAffectingMethod input).bind fun _ =>
  (checkCurrencies input).bind fun _ =>
  (checkForgiven input).bind fun _ =>
  (addedMoney input).map (measured input)

end

/-! What a measured set has passed. -/

section
variable {isDrawerAffectingMethod : String → Bool} {input : MeasureCustomerLegsInput}

theorem checkLegs_amounts {legs : List ReconciliationLeg} {u : Unit} (checked : checkLegs isDrawerAffectingMethod legs = .ok u) :
    ∀ leg ∈ legs, 0 < leg.amount := by
  induction legs with
  | nil => exact List.forall_mem_nil _
  | cons leg rest ih =>
    obtain ⟨_, first, others⟩ := bind_ok checked
    obtain ⟨_, _, first⟩ := bind_ok first
    obtain ⟨_, hasAmount, _⟩ := bind_ok first
    have positive : 0 < leg.amount := not_le.mp (of_decide_eq_false (refuseIf_ok hasAmount))
    exact List.forall_mem_cons.mpr ⟨positive, ih others⟩

/-- What lines and total have in common once they are measured. -/
structure Checked (input : MeasureCustomerLegsInput) : Prop where
  amounts : ∀ leg ∈ input.legs, 0 < leg.amount
  waived : 0 ≤ input.waivedAmount
  client : input.accountLegs ≠ [] → input.hasClient = true
  oneForeign : input.foreign.length ≤ 1
  rate : input.needsRate = true → 0 < input.rate

theorem measureCustomerLegs_checked {result : MeasuredCustomerLegs}
    (returned : measureCustomerLegs isDrawerAffectingMethod input = .ok result) :
    Checked input ∧ ∃ addedU, addedMoney input = .ok addedU ∧ measured input addedU = result := by
  obtain ⟨_, shape, returned⟩ := bind_ok returned
  obtain ⟨_, currencies, returned⟩ := bind_ok returned
  obtain ⟨_, _, returned⟩ := bind_ok returned
  obtain ⟨_, _, shape⟩ := bind_ok shape
  obtain ⟨_, _, shape⟩ := bind_ok shape
  obtain ⟨_, waived, shape⟩ := bind_ok shape
  obtain ⟨_, lines, client⟩ := bind_ok shape
  obtain ⟨_, foreign, rate⟩ := bind_ok currencies
  refine ⟨⟨checkLegs_amounts lines, not_lt.mp (of_decide_eq_false (refuseIf_ok waived)), fun hasAccount => ?_,
    not_lt.mp (of_decide_eq_false (refuseIf_ok foreign)), fun needed => ?_⟩, map_ok returned⟩
  · have client := refuseIf_ok client
    rw [decide_eq_true hasAccount, Bool.true_and, Bool.not_eq_false'] at client
    exact client
  · have rate := refuseIf_ok rate
    rw [needed, Bool.true_and] at rate
    exact not_le.mp (of_decide_eq_false rate)

theorem addedMoney_cases {addedU : ℚ} (counted : addedMoney input = .ok addedU) :
    (input.tol < addedU ∧ addedU = input.paidU + input.owedU - input.expectedU ∧ input.accountLegs = [] ∧
      input.waivedAmount ≤ 0) ∨
    (addedU = 0 ∧ |input.paidU + input.owedU + input.waivedU - input.expectedU| ≤ input.tol) := by
  unfold addedMoney at counted
  dsimp only at counted
  split at counted
  · next allowed =>
    rw [Bool.and_eq_true, decide_eq_true_iff] at allowed
    obtain ⟨_, drawerOnly, rfl⟩ := map_ok counted
    have drawerOnly := refuseIf_ok drawerOnly
    rw [Bool.or_eq_false_iff, decide_eq_false_iff_not, decide_eq_false_iff_not, not_not, not_lt] at drawerOnly
    exact .inl ⟨allowed.2, rfl, drawerOnly.1, drawerOnly.2⟩
  · obtain ⟨_, notMore, counted⟩ := bind_ok counted
    obtain ⟨_, notLess, rfl⟩ := map_ok counted
    have notMore := refuseIf_ok notMore
    rw [Bool.or_eq_false_iff, decide_eq_false_iff_not, decide_eq_false_iff_not, not_lt, not_lt] at notMore
    have notLess : -input.tol ≤ input.paidU + input.owedU + input.waivedU - input.expectedU :=
      not_lt.mp (of_decide_eq_false (refuseIf_ok notLess))
    exact .inr ⟨rfl, abs_le.mpr ⟨notLess, notMore.2⟩⟩

/-! The currencies of the lines. -/

theorem mem_curs {cur : CurrencyCode} :
    cur ∈ input.curs ↔ cur = input.expectedCur ∨ ∃ leg ∈ input.legs, comparisonCurrency leg.currencyCode = cur := by
  unfold MeasureCustomerLegsInput.curs
  rw [List.mem_eraseDups, List.mem_cons, List.mem_map]

theorem allSame_cur (same : input.allSame = true) {leg : ReconciliationLeg} (isLine : leg ∈ input.legs) :
    comparisonCurrency leg.currencyCode = input.expectedCur := by
  have one : input.curs.length = 1 := of_decide_eq_true same
  obtain ⟨cur, only⟩ := List.length_eq_one_iff.mp one
  have ofTotal : input.expectedCur ∈ input.curs := mem_curs.mpr (.inl rfl)
  have ofLine : comparisonCurrency leg.currencyCode ∈ input.curs := mem_curs.mpr (.inr ⟨leg, isLine, rfl⟩)
  rw [only, List.mem_singleton] at ofTotal ofLine
  exact ofLine.trans ofTotal.symm

theorem allSame_of_cur (same : ∀ leg ∈ input.legs, comparisonCurrency leg.currencyCode = input.expectedCur) :
    input.allSame = true := by
  have none : (input.legs.map fun leg => comparisonCurrency leg.currencyCode).filter (fun cur => !cur == input.expectedCur) = [] := by
    rw [List.filter_eq_nil_iff]
    intro cur isCur
    obtain ⟨leg, isLine, rfl⟩ := List.mem_map.mp isCur
    rw [same leg isLine]
    simp
  unfold MeasureCustomerLegsInput.allSame MeasureCustomerLegsInput.curs
  rw [List.eraseDups_cons, none]
  rfl

/-- Lines that are not all in one currency are measured at a rate. -/
theorem Checked.rate_of_mixed (checked : Checked input) (mixed : input.allSame = false) : 0 < input.rate := by
  refine checked.rate ?_
  have some : 0 < input.curs.length := List.length_pos_of_mem (mem_curs.mpr (.inl rfl))
  have notOne : input.curs.length ≠ 1 := of_decide_eq_false mixed
  have several : 1 < input.curs.length := by omega
  have isForeign : input.foreign ≠ [] := by
    intro none
    have allUsd : ∀ cur ∈ input.curs, cur = .known .usd := by
      simpa [MeasureCustomerLegsInput.foreign, List.filter_eq_nil_iff] using none
    have same : input.allSame = true := allSame_of_cur fun leg isLine =>
      (allUsd _ (mem_curs.mpr (.inr ⟨leg, isLine, rfl⟩))).trans (allUsd _ (mem_curs.mpr (.inl rfl))).symm
    rw [mixed] at same
    cases same
  unfold MeasureCustomerLegsInput.needsRate
  rw [decide_eq_true isForeign, decide_eq_true several]
  rfl

/-! The comparison unit. -/

theorem inUnit_same (same : input.allSame = true) (amount : ℚ) (cur : CurrencyCode) : input.inUnit amount cur = amount :=
  if_pos same

theorem inUnit_mixed (mixed : input.allSame = false) (amount : ℚ) (cur : CurrencyCode) :
    input.inUnit amount cur = input.toUsd amount cur :=
  if_neg (Bool.eq_false_iff.mp mixed)

/-- An amount given back in the expected currency is the amount in the unit. -/
theorem Checked.inUnit_unitToExpected (checked : Checked input) (u : ℚ) :
    input.inUnit (input.unitToExpected u) input.expected.currency = u := by
  unfold MeasureCustomerLegsInput.unitToExpected
  cases same : input.allSame with
  | true => exact inUnit_same same u _
  | false =>
    have rate := (checked.rate_of_mixed same).ne'
    rw [inUnit_mixed same, MeasureCustomerLegsInput.toUsd]
    change (match input.expectedCur with | .known .usd => _ | .known .lbp => _ | .other _ => _) = u
    cases input.expectedCur with
    | known currency =>
      cases currency with
      | usd => rfl
      | lbp => exact mul_div_cancel_right₀ u rate
    | other code => exact div_mul_cancel₀ u rate

/-- What is owed, in the comparison unit. -/
def owedInUnit (input : MeasureCustomerLegsInput) (owed : UsdLbp) : ℚ :=
  if input.allSame then
    match input.expectedCur with
    | .known .usd => owed.1
    | .known .lbp => owed.2
    | .other _ => owed.1 / input.rate
  else owed.1 + owed.2 / input.rate

/-- All lines and the total are in one third currency, and a line goes on the account. -/
def OwesThird (input : MeasureCustomerLegsInput) : Prop :=
  input.allSame = true ∧ (∃ code, input.expectedCur = .other code) ∧ input.accountLegs ≠ []

theorem owedInUnit_zero : owedInUnit input 0 = 0 := by
  unfold owedInUnit
  simp only [Prod.fst_zero, Prod.snd_zero, zero_div, add_zero]
  cases input.allSame with
  | false => rfl
  | true => cases input.expectedCur with
    | known currency => cases currency <;> rfl
    | other code => rfl

theorem owedInUnit_add (x y : UsdLbp) : owedInUnit input (x + y) = owedInUnit input x + owedInUnit input y := by
  unfold owedInUnit
  simp only [Prod.fst_add, Prod.snd_add, add_div]
  cases input.allSame with
  | false => exact add_add_add_comm x.1 y.1 _ _
  | true => cases input.expectedCur with
    | known currency => cases currency <;> rfl
    | other code => rfl

theorem owedInUnit_sum (owed : List UsdLbp) : owedInUnit input owed.sum = (owed.map (owedInUnit input)).sum := by
  induction owed with
  | nil => exact owedInUnit_zero
  | cons first rest ih => rw [List.sum_cons, List.map_cons, List.sum_cons, owedInUnit_add, ih]

/-- A line on the account is owed for what it counts. -/
theorem owedInUnit_owedFor {leg : ReconciliationLeg} (isLine : leg ∈ input.legs)
    (rate : input.allSame = true → (∃ code, input.expectedCur = .other code) → 0 < input.rate) :
    owedInUnit input (owedFor input leg) = input.inUnit leg.amount leg.currencyCode := by
  unfold owedFor
  cases same : input.allSame with
  | true =>
    have cur := allSame_cur same isLine
    rw [inUnit_same same, owedInUnit, if_pos same, MeasureCustomerLegsInput.toUsd, cur]
    cases total : input.expectedCur with
    | known currency => cases currency <;> rfl
    | other code => exact mul_div_cancel_right₀ leg.amount (rate same ⟨code, total⟩).ne'
  | false =>
    rw [inUnit_mixed same, owedInUnit, if_neg (Bool.eq_false_iff.mp same), MeasureCustomerLegsInput.toUsd]
    cases comparisonCurrency leg.currencyCode with
    | known currency =>
      cases currency with
      | usd =>
        change leg.amount + 0 / input.rate = leg.amount
        rw [zero_div, add_zero]
      | lbp => exact zero_add _
    | other code =>
      change leg.amount * input.rate + 0 / input.rate = leg.amount * input.rate
      rw [zero_div, add_zero]

theorem owedFor_nonneg {leg : ReconciliationLeg} (amount : 0 < leg.amount)
    (rate : (∃ code, comparisonCurrency leg.currencyCode = .other code) → 0 < input.rate) :
    0 ≤ (owedFor input leg).1 ∧ 0 ≤ (owedFor input leg).2 := by
  unfold owedFor MeasureCustomerLegsInput.toUsd
  cases cur : comparisonCurrency leg.currencyCode with
  | known currency =>
    cases currency with
    | usd => exact ⟨amount.le, le_rfl⟩
    | lbp => exact ⟨le_rfl, amount.le⟩
  | other code => exact ⟨mul_nonneg amount.le (rate ⟨code, cur⟩).le, le_rfl⟩

theorem sum_nonneg {owed : List UsdLbp} (each : ∀ x ∈ owed, 0 ≤ x.1 ∧ 0 ≤ x.2) : 0 ≤ owed.sum.1 ∧ 0 ≤ owed.sum.2 := by
  induction owed with
  | nil => exact ⟨le_rfl, le_rfl⟩
  | cons first rest ih =>
    obtain ⟨here, others⟩ := List.forall_mem_cons.mp each
    rw [List.sum_cons]
    exact ⟨add_nonneg here.1 (ih others).1, add_nonneg here.2 (ih others).2⟩

/-- Every line is in what is paid or in what is owed, and with what is forgiven they make the total and the change added. -/
structure Balanced (input : MeasureCustomerLegsInput) (result : MeasuredCustomerLegs) : Prop where
  balance : |input.inUnit result.paid input.expected.currency + owedInUnit input result.owed +
    input.inUnit result.forgiven input.expected.currency - input.inUnit result.addedChange input.expected.currency -
    input.inUnit input.expected.amount input.expected.currency| ≤ input.tol
  added : 0 < result.addedChange → input.accountLegs = [] ∧ result.forgiven = 0
  client : result.owed ≠ 0 → input.hasClient = true
  lines : (result.drawerLegs ++ input.accountLegs).Perm input.legs
  paid : input.inUnit result.paid input.expected.currency = input.sumOf result.drawerLegs
  owed : owedInUnit input result.owed = input.sumOf input.accountLegs
  owedNonneg : 0 ≤ result.owed.1 ∧ 0 ≤ result.owed.2

theorem owed_balanced (checked : Checked input) (rate : OwesThird input → 0 < input.rate) :
    owedInUnit input (input.accountLegs.map (owedFor input)).sum = input.sumOf input.accountLegs ∧
      0 ≤ (input.accountLegs.map (owedFor input)).sum.1 ∧ 0 ≤ (input.accountLegs.map (owedFor input)).sum.2 := by
  have third {leg : ReconciliationLeg} (isLine : leg ∈ input.accountLegs) (same : input.allSame = true)
      (isThird : ∃ code, input.expectedCur = .other code) : 0 < input.rate :=
    rate ⟨same, isThird, List.ne_nil_of_mem isLine⟩
  constructor
  · rw [owedInUnit_sum, List.map_map]
    refine congrArg List.sum (List.map_congr_left fun leg isLine => ?_)
    exact owedInUnit_owedFor (List.mem_filter.mp isLine).1 (third isLine)
  · refine sum_nonneg fun x isOwed => ?_
    obtain ⟨leg, isLine, rfl⟩ := List.mem_map.mp isOwed
    have inLegs := (List.mem_filter.mp isLine).1
    refine owedFor_nonneg (checked.amounts leg inLegs) fun ⟨code, cur⟩ => ?_
    cases same : input.allSame with
    | true => exact third isLine same ⟨code, (allSame_cur same inLegs).symm.trans cur⟩
    | false => exact checked.rate_of_mixed same

theorem tol_nonneg : 0 ≤ input.tol := by
  unfold MeasureCustomerLegsInput.tol sameCurrencyTolerance legReconciliationEpsilonUsd
  split_ifs <;> norm_num

theorem inUnit_zero (cur : CurrencyCode) : input.inUnit 0 cur = 0 := by
  unfold MeasureCustomerLegsInput.inUnit MeasureCustomerLegsInput.toUsd
  split_ifs
  · rfl
  · cases comparisonCurrency cur with
    | known currency =>
      cases currency with
      | usd => rfl
      | lbp => exact zero_div _
    | other code => exact zero_mul _

/-- The change added, in the comparison unit. -/
theorem inUnit_addedChange (checked : Checked input) {addedU : ℚ} (nonneg : 0 ≤ addedU) :
    input.inUnit (measured input addedU).addedChange input.expected.currency = addedU := by
  unfold measured
  dsimp only
  split_ifs with some
  · exact checked.inUnit_unitToExpected addedU
  · rw [inUnit_zero]
    exact le_antisymm nonneg (not_lt.mp some)

theorem sumOf_pos (same : input.allSame = true) {legs : List ReconciliationLeg} (amounts : ∀ leg ∈ legs, 0 < leg.amount)
    (some : legs ≠ []) : 0 < input.sumOf legs := by
  refine List.sum_pos _ (fun x isAmount => ?_) (by simpa using some)
  obtain ⟨leg, isLine, rfl⟩ := List.mem_map.mp isAmount
  rw [inUnit_same same]
  exact amounts leg isLine

/-- At no rate, what is put on the account in a third currency is not owed. -/
theorem rate_of_balanced (checked : Checked input) {addedU : ℚ} (balanced : Balanced input (measured input addedU))
    (owesThird : OwesThird input) : 0 < input.rate := by
  obtain ⟨same, ⟨code, third⟩, hasAccount⟩ := owesThird
  have lines : 0 < input.sumOf input.accountLegs :=
    sumOf_pos same (fun leg isLine => checked.amounts leg (List.mem_filter.mp isLine).1) hasAccount
  have owed : (measured input addedU).owed.1 / input.rate = input.sumOf input.accountLegs := by
    have owed := balanced.owed
    rw [owedInUnit, if_pos same, third] at owed
    exact owed
  by_contra noRate
  have nothing : (measured input addedU).owed.1 / input.rate ≤ 0 :=
    div_nonpos_of_nonneg_of_nonpos balanced.owedNonneg.1 (not_lt.mp noRate)
  rw [owed] at nothing
  exact absurd nothing (not_le.mpr lines)

theorem balanced_of_rate (checked : Checked input) {addedU : ℚ} (counted : addedMoney input = .ok addedU)
    (rate : OwesThird input → 0 < input.rate) : Balanced input (measured input addedU) := by
  obtain ⟨owed, owedNonneg⟩ := owed_balanced checked rate
  have paid : input.inUnit (measured input addedU).paid input.expected.currency = input.paidU :=
    checked.inUnit_unitToExpected input.paidU
  have nonneg : 0 ≤ addedU := by
    rcases addedMoney_cases counted with ⟨above, -⟩ | ⟨rfl, -⟩
    · exact tol_nonneg.trans above.le
    · exact le_rfl
  have total : input.paidU + input.owedU + input.waivedU - addedU - input.expectedU =
      input.inUnit (measured input addedU).paid input.expected.currency + owedInUnit input (measured input addedU).owed +
        input.inUnit (measured input addedU).forgiven input.expected.currency -
        input.inUnit (measured input addedU).addedChange input.expected.currency -
        input.inUnit input.expected.amount input.expected.currency := by
    rw [paid, inUnit_addedChange checked nonneg]
    exact congrArg (input.paidU + · + input.waivedU - addedU - input.expectedU) owed.symm
  refine ⟨?_, fun added => ?_, fun owes => checked.client fun none => ?_, ?_, paid, owed, owedNonneg⟩
  · rw [← total]
    rcases addedMoney_cases counted with ⟨-, rfl, -, noWaived⟩ | ⟨rfl, within⟩
    · have nothing : input.waivedU = 0 := by
        rw [MeasureCustomerLegsInput.waivedU, le_antisymm noWaived checked.waived, inUnit_zero]
      rw [nothing, show input.paidU + input.owedU + 0 - (input.paidU + input.owedU - input.expectedU) - input.expectedU = 0 by ring,
        abs_zero]
      exact tol_nonneg
    · rwa [sub_zero]
  · rcases addedMoney_cases counted with ⟨-, -, noAccount, noWaived⟩ | ⟨rfl, -⟩
    · exact ⟨noAccount, le_antisymm noWaived checked.waived⟩
    · exact absurd added (lt_irrefl 0)
  · exact owes (by rw [measured, none]; rfl)
  · exact (List.perm_append_comm).trans (List.filter_append_perm isAccount input.legs)

/-- Measured lines balance, where a line in a third currency is not put on the account at no rate. -/
theorem measureCustomerLegs_balanced {result : MeasuredCustomerLegs}
    (returned : measureCustomerLegs isDrawerAffectingMethod input = .ok result) :
    Balanced input result ↔ (OwesThird input → 0 < input.rate) := by
  obtain ⟨checked, addedU, counted, rfl⟩ := measureCustomerLegs_checked returned
  exact ⟨rate_of_balanced checked, balanced_of_rate checked counted⟩

end

theorem measureCustomerLegs_balanced_euro :
    Balanced
      { legs := [{ method := "CASH", currencyCode := .other "EUR", amount := 6 },
          { method := "CUSTOMER_ACCOUNT", currencyCode := .other "EUR", amount := 4 }]
        expected := { amount := 10, currency := .other "EUR" }, rate := 11 / 10, clientId := some 1 }
      { paid := 6, owed := (22 / 5, 0), forgiven := 0, addedChange := 0, addedChangeUsd := 0
        drawerLegs := [{ method := "CASH", currencyCode := .other "EUR", amount := 6 }] } :=
  (measureCustomerLegs_balanced (show measureCustomerLegs (fun _ => true) _ = .ok _ by decide +kernel)).mpr fun _ => by norm_num

/-- Ten euros on the account at no rate: nothing is paid and nothing is owed. -/
theorem measureCustomerLegs_noRate :
    let input : MeasureCustomerLegsInput :=
      { legs := [{ method := "CUSTOMER_ACCOUNT", currencyCode := .other "EUR", amount := 10 }]
        expected := { amount := 10, currency := .other "EUR" }, rate := 0, clientId := some 1 }
    let result : MeasuredCustomerLegs :=
      { paid := 0, owed := (0, 0), forgiven := 0, addedChange := 0, addedChangeUsd := 0, drawerLegs := [] }
    measureCustomerLegs (fun _ => true) input = .ok result ∧ ¬Balanced input result := by
  refine ⟨by decide +kernel, fun balanced => absurd balanced.balance ?_⟩
  decide +kernel

/-! Writing. -/

structure CustomerPayment where
  method : String
  drawerName : String
  currencyCode : CurrencyCode
  amount : ℚ
  deriving DecidableEq, Repr

structure ClientDebtCharge where
  clientId : ℕ
  transactionType : String
  amount : UsdLbp
  deriving DecidableEq, Repr

/-- A payment row and a drawer move for each line that moves a drawer, and a row of the client's debts for each currency. -/
structure CustomerWrites where
  payments : List CustomerPayment
  debts : List ClientDebtCharge
  deriving DecidableEq, Repr

structure WriteCustomerLegsInput where
  debtType : Option String := none
  clientId : Option ℕ := none
  drawerFor : ReconciliationLeg → String
  storedMethodFor : Option (ReconciliationLeg → String) := none

def paymentOf (input : WriteCustomerLegsInput) (leg : ReconciliationLeg) : CustomerPayment where
  method := (input.storedMethodFor.map fun storedMethodFor => storedMethodFor leg).getD leg.method
  drawerName := input.drawerFor leg
  currencyCode := leg.currencyCode
  amount := leg.amount

/-- `bookClientDebtCharge`, for a client and with a debt type only. -/
def debtCharge (clientId : ℕ) (debtType : String) (amount : UsdLbp) (owes : Bool) : List ClientDebtCharge :=
  if clientId ≠ 0 && debtType ≠ "" && owes then [{ clientId, transactionType := debtType, amount }] else []

def writeCustomerLegs (input : WriteCustomerLegsInput) (measured : MeasuredCustomerLegs) : Except String CustomerWrites :=
  let debtType := input.debtType.getD ""
  let clientId := input.clientId.getD 0
  (refuseIf ((0 < measured.owed.1 || 0 < measured.owed.2) && debtType = "")
    "Customer pays: an account line needs a debt type — this payout cannot book one").map fun _ =>
  { payments := measured.drawerLegs.map (paymentOf input)
    debts := debtCharge clientId debtType (measured.owed.1, 0) (0 < measured.owed.1) ++
      debtCharge clientId debtType (0, measured.owed.2) (0 < measured.owed.2) }

def bookCustomerLegs (isDrawerAffectingMethod : String → Bool) (input : MeasureCustomerLegsInput)
    (write : WriteCustomerLegsInput) : Except String (MeasuredCustomerLegs × CustomerWrites) :=
  (measureCustomerLegs isDrawerAffectingMethod input).bind fun measured =>
  (writeCustomerLegs { write with clientId := input.clientId } measured).map fun writes => (measured, writes)

theorem debtCharge_sum {clientId : ℕ} {debtType : String} {amount : UsdLbp} {owes : Bool}
    (ready : owes = true → clientId ≠ 0 ∧ debtType ≠ "") (nothing : owes = false → amount = 0) :
    ((debtCharge clientId debtType amount owes).map (·.amount)).sum = amount := by
  unfold debtCharge
  cases owes with
  | false =>
    rw [Bool.and_false, if_neg Bool.false_ne_true, nothing rfl]
    rfl
  | true =>
    obtain ⟨isClient, isType⟩ := ready rfl
    rw [decide_eq_true isClient, decide_eq_true isType]
    exact add_zero amount

theorem debtCharge_client {clientId : ℕ} {debtType : String} {amount : UsdLbp} {owes : Bool} {debt : ClientDebtCharge}
    (charged : debt ∈ debtCharge clientId debtType amount owes) : debt.clientId = clientId ∧ clientId ≠ 0 := by
  unfold debtCharge at charged
  split at charged
  · next ready =>
    obtain rfl := List.mem_singleton.mp charged
    rw [Bool.and_eq_true, Bool.and_eq_true, decide_eq_true_iff] at ready
    exact ⟨rfl, ready.1.1⟩
  · cases charged

/-- What is written is what was measured: the drawers get what is paid, the client's account what is owed. -/
theorem bookCustomerLegs_written {isDrawerAffectingMethod : String → Bool} {input : MeasureCustomerLegsInput}
    {write : WriteCustomerLegsInput} {result : MeasuredCustomerLegs} {writes : CustomerWrites}
    (booked : bookCustomerLegs isDrawerAffectingMethod input write = .ok (result, writes))
    (rate : OwesThird input → 0 < input.rate) :
    (writes.payments.map fun payment => input.inUnit payment.amount payment.currencyCode).sum =
        input.inUnit result.paid input.expected.currency ∧
      (writes.debts.map (·.amount)).sum = result.owed ∧ ∀ debt ∈ writes.debts, input.clientId = some debt.clientId := by
  obtain ⟨_, returned, written⟩ := bind_ok booked
  obtain ⟨_, wrote, same⟩ := map_ok written
  obtain ⟨rfl, rfl⟩ := Prod.mk.inj same
  obtain ⟨checked, addedU, counted, rfl⟩ := measureCustomerLegs_checked returned
  have balanced := balanced_of_rate checked counted rate
  obtain ⟨_, hasType, rfl⟩ := map_ok wrote
  have hasType := refuseIf_ok hasType
  have ready (owes : 0 < (measured input addedU).owed.1 ∨ 0 < (measured input addedU).owed.2) :
      input.clientId.getD 0 ≠ 0 ∧ write.debtType.getD "" ≠ "" := by
    constructor
    · refine of_decide_eq_true (balanced.client fun none => ?_)
      rw [none] at owes
      exact owes.elim (lt_irrefl 0) (lt_irrefl 0)
    · rw [← Bool.decide_or, decide_eq_true owes, Bool.true_and] at hasType
      exact of_decide_eq_false hasType
  have usd : ((debtCharge (input.clientId.getD 0) (write.debtType.getD "") ((measured input addedU).owed.1, 0)
      (0 < (measured input addedU).owed.1)).map (·.amount)).sum = ((measured input addedU).owed.1, 0) :=
    debtCharge_sum (fun owes => ready (.inl (of_decide_eq_true owes))) fun notOwed =>
      Prod.ext (le_antisymm (not_lt.mp (of_decide_eq_false notOwed)) balanced.owedNonneg.1) rfl
  have lbp : ((debtCharge (input.clientId.getD 0) (write.debtType.getD "") (0, (measured input addedU).owed.2)
      (0 < (measured input addedU).owed.2)).map (·.amount)).sum = (0, (measured input addedU).owed.2) :=
    debtCharge_sum (fun owes => ready (.inr (of_decide_eq_true owes))) fun notOwed =>
      Prod.ext rfl (le_antisymm (not_lt.mp (of_decide_eq_false notOwed)) balanced.owedNonneg.2)
  refine ⟨?_, ?_, fun debt isDebt => ?_⟩
  · rw [balanced.paid, List.map_map]
    rfl
  · rw [List.map_append, List.sum_append]
    exact (congrArg₂ (· + ·) usd lbp).trans (Prod.ext (add_zero _) (zero_add _))
  · have isClient : debt.clientId = input.clientId.getD 0 ∧ input.clientId.getD 0 ≠ 0 :=
      (List.mem_append.mp isDebt).elim debtCharge_client debtCharge_client
    cases client : input.clientId with
    | none => exact absurd (by rw [client]; rfl) isClient.2
    | some clientId => rw [isClient.1, client, Option.getD_some]

end Liratek.Till.CustomerLegs
