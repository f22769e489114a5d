import Liratek.Till.CustomerLegs

/-! Payouts for which the shop hands out a round amount: more than it owes, or what it owes and change that the customer
adds. -/

namespace Liratek.Till.Payouts
open Lib.Calls Lib.Rounding KeptChange KeptFunding CustomerLegs
open Voucher.Vouchers (Currency UsdLbp Rate amountIn usdEquivalent keptChangeRoundingTolerance isWithinShortfallMax
  legReconciliationEpsilonUsd)

/-- The sentence for the cashier, then the detail. -/
def refusal (plain context detail : String) : String :=
  plain ++ " (" ++ context ++ ": " ++ detail ++ ")"

/-! More than is owed. -/

def roundingGivenOverCapMessage : String := "You can only round a payout up by $5 / 450,000 LBP."
def roundingGivenWithKeptMessage : String := "A payout can't keep change and round up at the same time."
def roundingGivenNotAllowedMessage : String := "Rounding up isn't available on this payout."
def roundingGivenCurrencyMessage : String := "The round-up must be in the payout's currency."

/-- Drawer lines only, and no change given back. -/
def paysFromDrawers (isDrawerAffectingMethod : String → Bool) (legs : List ReconciliationLeg) : Bool :=
  !legs.isEmpty && !legs.any fun leg => leg.isOut || !isDrawerAffectingMethod leg.method

structure RoundingGivenInput where
  owed : ℚ
  owedCurrency : CurrencyCode
  payoutLegs : List ReconciliationLeg
  claimed : UsdLbp := 0
  notAllowed : Bool := false

section
-- whether lines of a payment method move a drawer, as the payment methods are set up
variable (isDrawerAffectingMethod : String → Bool)

/-- A claim above nothing; `to'` is the payout's currency. -/
def roundingClaimed (common : KeptChangeCommon) (owed : ℚ) (to' : Currency) (legs : List ReconciliationLeg) (claimed : UsdLbp) :
    Except String UsdLbp :=
  let refuse := fun plain detail => refusal plain common.context detail
  let claim := part claimed to'
  (refuseIf (0 < part claimed (otherCurrency to') || claim ≤ 0)
    (refuse roundingGivenCurrencyMessage ("the round-up must be in the payout currency (" ++ currencyText to' ++ ")"))).bind fun _ =>
  (refuseIf (!isWithinShortfallMax claim to')
    (refuse roundingGivenOverCapMessage "a round-up is a small leftover — pay out the exact amount")).bind fun _ =>
  (refuseIf (!paysFromDrawers isDrawerAffectingMethod legs)
    (refuse roundingGivenNotAllowedMessage "a round-up needs cash or wallet payout lines and no change (OUT) lines")).bind fun _ =>
  (legsUsd legs common.rate common.context).bind fun paidUsd =>
  let paid := match to' with
    | .usd => paidUsd
    | .lbp => paidUsd * common.rate.value
  let tol := keptChangeRoundingTolerance to'
  let excess := paid - owed
  (refuseIf (excess ≤ tol)
    (refuse roundingGivenNotAllowedMessage "nothing to round up — the payout lines do not exceed the amount owed")).bind fun _ =>
  (reconcileLegs common legs [] 0 (owedTotals (.known to') (owed + claim))).bind fun _ =>
  (refuseIf (excess + tol + floatDust < claim)
    (refuse roundingGivenNotAllowedMessage "the round-up is more than was handed out above the amount owed")).map fun _ =>
  amountIn to' (roundTo (centsOf to') claim)

def resolveRoundingGiven (common : KeptChangeCommon) (input : RoundingGivenInput) : Except String UsdLbp :=
  let refuse := fun plain detail => refusal plain common.context detail
  let kept := common.claimedKept.getD 0
  let owed := |input.owed|
  let legs := nonEmpty input.payoutLegs
  (refuseIf (input.claimed.1 < 0 || input.claimed.2 < 0)
    (refuse roundingGivenNotAllowedMessage "the round-up must be a non-negative amount")).bind fun _ =>
  if !any input.claimed then (reconcileLegs common legs [] 0 (owedTotals input.owedCurrency owed)).map fun _ => 0
  else
    (refuseIf input.notAllowed
      (refuse roundingGivenNotAllowedMessage "this payout cannot be rounded up — pay out the exact amount")).bind fun _ =>
    (refuseIf (any kept)
      (refuse roundingGivenWithKeptMessage
        "kept change (paid out less) and a round-up (paid out more) cannot both apply")).bind fun _ =>
    match input.owedCurrency with
    | .other _ => .error (refuse roundingGivenNotAllowedMessage "a round-up requires a USD or LBP payout currency")
    | .known to' => roundingClaimed isDrawerAffectingMethod common owed to' legs input.claimed

end

/-! Change that the customer adds. -/

def addedChangeOverCapMessage : String :=
  "The customer can add at most $5 / 450,000 LBP of change — use the Exchange page for more."
def addedChangeNotAllowedMessage : String := "The customer can't add change on this payout."
def addedChangeMismatchMessage : String := "The change the customer added doesn't match the customer's lines."
def addedChangeAccountMessage : String := "Added change can't come from the customer's account or a forgiven amount."

structure AddedChangeInput where
  legs : List ReconciliationLeg
  /-- what the customer owes on this payout -/
  expected : Total
  payoutCurrency : CurrencyCode
  measureRate : Option ℚ := none
  clientId : Option ℕ := none
  waived : Option ℚ := none
  claimed : UsdLbp := 0
  notAllowed : Bool := false

structure AddedChange where
  amount : UsdLbp := 0
  measured : Option MeasuredCustomerLegs := none
  deriving DecidableEq, Repr

/-- The lines as they are measured. -/
def AddedChangeInput.measure (common : KeptChangeCommon) (input : AddedChangeInput) (legs : List ReconciliationLeg) :
    MeasureCustomerLegsInput where
  legs
  expected := input.expected
  rate := input.measureRate.getD common.rate.value
  clientId := input.clientId
  allowAddedChange := true

/-- The change added, from the currency the customer pays in to that of the payout. -/
def convertExtra (rate : ℚ) (from' to' : Currency) (extra : ℚ) : ℚ :=
  if from' = to' then extra
  else
    match to' with
    | .usd => extra / rate
    | .lbp => extra * rate

def isMixed (from' to' : Currency) (legs : List ReconciliationLeg) : Bool :=
  from' ≠ to' || legs.any fun leg => comparisonCurrency leg.currencyCode ≠ .known to'

def addedTolerance (rate : ℚ) (mixed : Bool) (to' : Currency) : ℚ :=
  if mixed then
    match to' with
    | .usd => legReconciliationEpsilonUsd
    | .lbp => legReconciliationEpsilonUsd * rate
  else keptChangeRoundingTolerance to'

section
variable (isDrawerAffectingMethod : String → Bool) (numberText : ℚ → String) (derivedText : Currency → ℚ → String)

/-- A claim above nothing; `from'` is the currency the customer pays in. -/
def addedClaimed (common : KeptChangeCommon) (input : AddedChangeInput) (from' to' : Currency) (legs : List ReconciliationLeg) :
    Except String AddedChange :=
  let refuse := fun plain detail => refusal plain common.context detail
  let claim := part input.claimed to'
  (refuseIf (0 < part input.claimed (otherCurrency to') || claim ≤ 0)
    (refuse addedChangeMismatchMessage
      ("the added change must be in the payout currency (" ++ currencyText to' ++ ")"))).bind fun _ =>
  (refuseIf (!isWithinShortfallMax claim to')
    (refuse addedChangeOverCapMessage (numberText claim ++ " " ++ currencyText to' ++ " claimed"))).bind fun _ =>
  (refuseIf legs.isEmpty (refuse addedChangeMismatchMessage "no customer lines were sent")).bind fun _ =>
  (refuseIf (legs.any isAccount || 0 < input.waived.getD 0)
    (refuse addedChangeAccountMessage "only cash or wallet lines can add change")).bind fun _ =>
  (measureCustomerLegs isDrawerAffectingMethod (input.measure common legs)).bind fun measured =>
  let rate := common.rate.value
  let derived := convertExtra rate from' to' measured.addedChange
  (refuseIf (addedTolerance rate (isMixed from' to' legs) to' < |claim - derived|)
    (refuse addedChangeMismatchMessage ("claimed " ++ numberText claim ++ " " ++ currencyText to' ++
      ", the customer's lines add " ++ derivedText to' derived ++ " " ++ currencyText to'))).map fun _ =>
  { amount := amountIn to' (roundTo (centsOf to') claim), measured }

def resolveAddedChange (common : KeptChangeCommon) (input : AddedChangeInput) : Except String AddedChange :=
  let refuse := fun plain detail => refusal plain common.context detail
  let legs := nonEmpty input.legs
  (refuseIf (input.claimed.1 < 0 || input.claimed.2 < 0)
    (refuse addedChangeNotAllowedMessage "the added change must be a non-negative amount")).bind fun _ =>
  if !any input.claimed then
    (refuseIf (!legs.isEmpty && !(0 < input.expected.amount))
      (refuse addedChangeMismatchMessage ("the customer owes nothing here, so their lines can only be change they add — " ++
        "send the added change with them"))).map fun _ => {}
  else
    (refuseIf input.notAllowed (refuse addedChangeNotAllowedMessage "pay out the amount owed")).bind fun _ =>
    match input.payoutCurrency with
    | .other _ => .error (refuse addedChangeNotAllowedMessage "added change needs a USD or LBP payout")
    | .known to' =>
      match comparisonCurrency input.expected.currency with
      | .other _ => .error (refuse addedChangeNotAllowedMessage "added change needs the customer to pay in USD or LBP")
      | .known from' => addedClaimed isDrawerAffectingMethod numberText derivedText common input from' to' legs

end

/-! What a payout has been checked for. -/

section
variable {isDrawerAffectingMethod : String → Bool} {common : KeptChangeCommon}

/-- An amount of one currency, in dollars. -/
def inUsd (rate : Rate) (currency : Currency) (amount : ℚ) : ℚ :=
  usdEquivalent (amountIn currency amount) rate.value

theorem inUsd_add (rate : Rate) (c : Currency) (x y : ℚ) : inUsd rate c (x + y) = inUsd rate c x + inUsd rate c y := by
  have both : amountIn c (x + y) = amountIn c x + amountIn c y := by
    cases c <;> simp [amountIn]
  rw [inUsd, both, usdEquivalent_add]
  rfl

theorem inUsd_sub (rate : Rate) (c : Currency) (x y : ℚ) : inUsd rate c (x - y) = inUsd rate c x - inUsd rate c y := by
  have whole := inUsd_add rate c (x - y) y
  rw [sub_add_cancel] at whole
  exact eq_sub_of_add_eq whole.symm

theorem inUsd_mono (rate : Rate) (c : Currency) {x y : ℚ} (le : x ≤ y) : inUsd rate c x ≤ inUsd rate c y := by
  unfold inUsd
  rw [usdEquivalent_eq, usdEquivalent_eq]
  cases c with
  | usd => simpa [amountIn] using le
  | lbp => simpa [amountIn] using div_le_div_of_nonneg_right le rate.positive.le

theorem inUsd_neg (rate : Rate) (c : Currency) (x : ℚ) : inUsd rate c (-x) = -inUsd rate c x := by
  have opposite := inUsd_add rate c (-x) x
  have none : inUsd rate c 0 = 0 := by
    cases c <;> exact usdEquivalent_zero rate
  rw [neg_add_cancel, none] at opposite
  exact eq_neg_of_add_eq_zero_left opposite.symm

theorem abs_inUsd_sub_le (rate : Rate) (c : Currency) {x y bound : ℚ} (near : |x - y| ≤ bound) :
    |inUsd rate c x - inUsd rate c y| ≤ inUsd rate c bound := by
  rw [← inUsd_sub, abs_le, ← inUsd_neg]
  exact ⟨inUsd_mono rate c (abs_le.mp near).1, inUsd_mono rate c (abs_le.mp near).2⟩

/-- Rounding a claim to cents or whole lira. -/
theorem abs_inUsd_roundTo_sub_le (rate : Rate) (c : Currency) (claim : ℚ) :
    |inUsd rate c (roundTo (centsOf c) claim) - inUsd rate c claim| ≤ inUsd rate c (keptChangeRoundingTolerance c) := by
  refine abs_inUsd_sub_le rate c ?_
  have near := abs_roundTo_sub_le (show 0 < centsOf c by cases c <;> norm_num [centsOf]) claim
  have unit : 1 / (2 * centsOf c) = keptChangeRoundingTolerance c := by
    cases c <;> norm_num [centsOf, keptChangeRoundingTolerance]
  rwa [unit] at near

theorem reconciled_near {legs : List ReconciliationLeg} {c : Currency} {owed : ℚ} (some' : legs ≠ [])
    (reconciled : reconcileLegs common legs [] 0 (owedTotals (.known c) owed) = .ok ()) :
    |value legs common.rate - inUsd common.rate c owed| ≤ legReconciliationEpsilonUsd := by
  have near := reconcileLegs_ok reconciled some'
  have noOut : value [] common.rate = 0 := usdEquivalent_zero _
  rwa [owedTotals_known, noOut, usdEquivalent_zero, sub_zero, sub_zero] at near

/-- A payout that is rounded up pays what is owed and the amount booked, in the payout's currency. -/
structure RoundsUp (isDrawerAffectingMethod : String → Bool) (rate : Rate) (input : RoundingGivenInput) (given : UsdLbp)
    (to' : Currency) : Prop where
  currency : input.owedCurrency = .known to'
  given : given = amountIn to' (roundTo (centsOf to') (part input.claimed to'))
  above : 0 < part input.claimed to'
  within : isWithinShortfallMax (part input.claimed to') to' = true
  drawers : paysFromDrawers isDrawerAffectingMethod (nonEmpty input.payoutLegs) = true
  reconciles : |value (nonEmpty input.payoutLegs) rate - inUsd rate to' (|input.owed| + part input.claimed to')| ≤
    legReconciliationEpsilonUsd

theorem roundingClaimed_ok {input : RoundingGivenInput} {to' : Currency} {given : UsdLbp} (currency : input.owedCurrency = .known to')
    (done : roundingClaimed isDrawerAffectingMethod common |input.owed| to' (nonEmpty input.payoutLegs) input.claimed = .ok given) :
    RoundsUp isDrawerAffectingMethod common.rate input given to' := by
  obtain ⟨_, inPayout, done⟩ := bind_ok done
  obtain ⟨_, within, done⟩ := bind_ok done
  obtain ⟨_, drawers, done⟩ := bind_ok done
  obtain ⟨_, -, done⟩ := bind_ok done
  obtain ⟨_, -, done⟩ := bind_ok done
  obtain ⟨_, reconciled, done⟩ := bind_ok done
  obtain ⟨_, -, rfl⟩ := map_ok done
  have above := (Bool.or_eq_false_iff.mp (refuseIf_ok inPayout)).2
  have drawers : paysFromDrawers isDrawerAffectingMethod (nonEmpty input.payoutLegs) = true := by
    simpa using refuseIf_ok drawers
  have some' : nonEmpty input.payoutLegs ≠ [] := by
    intro none
    rw [none] at drawers
    cases drawers
  exact ⟨currency, rfl, not_le.mp (of_decide_eq_false above), by simpa using refuseIf_ok within, drawers,
    reconciled_near some' reconciled⟩

theorem resolveRoundingGiven_ok {input : RoundingGivenInput} {given : UsdLbp}
    (done : resolveRoundingGiven isDrawerAffectingMethod common input = .ok given) (claims : any input.claimed = true) :
    any (common.claimedKept.getD 0) = false ∧ input.notAllowed = false ∧
      ∃ to', RoundsUp isDrawerAffectingMethod common.rate input given to' := by
  obtain ⟨_, -, done⟩ := bind_ok done
  rw [claims, Bool.not_true, if_neg Bool.false_ne_true] at done
  obtain ⟨_, allowed, done⟩ := bind_ok done
  obtain ⟨_, noKept, done⟩ := bind_ok done
  refine ⟨refuseIf_ok noKept, refuseIf_ok allowed, ?_⟩
  cases currency : input.owedCurrency with
  | other code =>
    rw [currency] at done
    cases done
  | known to' =>
    rw [currency] at done
    exact ⟨to', roundingClaimed_ok currency done⟩

/-- What is booked is what was handed out above what is owed, but for rounding. -/
theorem RoundsUp.near {rate : Rate} {input : RoundingGivenInput} {given : UsdLbp} {to' : Currency}
    (up : RoundsUp isDrawerAffectingMethod rate input given to') :
    |value (nonEmpty input.payoutLegs) rate - inUsd rate to' |input.owed| - usdEquivalent given rate.value| ≤
      legReconciliationEpsilonUsd + inUsd rate to' (keptChangeRoundingTolerance to') := by
  have near := up.reconciles
  rw [inUsd_add] at near
  have rounded : |usdEquivalent given rate.value - inUsd rate to' (part input.claimed to')| ≤
      inUsd rate to' (keptChangeRoundingTolerance to') := by
    rw [up.given]
    exact abs_inUsd_roundTo_sub_le rate to' _
  rw [abs_le] at near rounded ⊢
  constructor <;> linarith [near.1, near.2, rounded.1, rounded.2]

/-- A line in dollars. A third currency is converted as the customer's lines are. -/
def worthIn (rate : Rate) (cur : CurrencyCode) (amount : ℚ) : ℚ :=
  match comparisonCurrency cur with
  | .known .usd => amount
  | .known .lbp => amount / rate.value
  | .other _ => amount * rate.value

def linesWorth (rate : Rate) (legs : List ReconciliationLeg) : ℚ :=
  (legs.map fun leg => worthIn rate leg.currencyCode leg.amount).sum

theorem worthIn_known (rate : Rate) (c : Currency) (amount : ℚ) : worthIn rate (.known c) amount = inUsd rate c amount := by
  unfold inUsd
  rw [usdEquivalent_eq]
  cases c with
  | usd => exact (add_zero amount).symm.trans (by rw [amountIn, zero_div])
  | lbp => exact (zero_add _).symm

theorem worthIn_nonneg (rate : Rate) (cur : CurrencyCode) {amount : ℚ} (nonneg : 0 ≤ amount) : 0 ≤ worthIn rate cur amount := by
  unfold worthIn
  split
  · exact nonneg
  · exact div_nonneg nonneg rate.positive.le
  · exact mul_nonneg nonneg rate.positive.le

/-- Change that a customer who owes nothing adds: the claim in the payout's currency, within a tolerance of the lines. -/
structure Adds (rate : Rate) (legs : List ReconciliationLeg) (claim : ℚ) (to' : Currency) (added : AddedChange) : Prop where
  amount : added.amount = amountIn to' (roundTo (centsOf to') claim)
  above : 0 < claim
  lines : added.measured.map (·.drawerLegs) = some legs
  near : |linesWorth rate legs - inUsd rate to' claim| ≤ legReconciliationEpsilonUsd + inUsd rate to' (keptChangeRoundingTolerance to')

theorem linesWorth_same {rate : Rate} {to' : Currency} {legs : List ReconciliationLeg}
    (same : ∀ leg ∈ legs, comparisonCurrency leg.currencyCode = .known to') :
    linesWorth rate legs = inUsd rate to' (legs.map (·.amount)).sum := by
  induction legs with
  | nil => cases to' <;> exact (usdEquivalent_zero rate).symm
  | cons leg rest ih =>
    obtain ⟨here, others⟩ := List.forall_mem_cons.mp same
    have first : worthIn rate leg.currencyCode leg.amount = inUsd rate to' leg.amount := by
      rw [← worthIn_known]
      unfold worthIn
      rw [here]
      rfl
    have rest' : linesWorth rate rest = inUsd rate to' (rest.map (·.amount)).sum := ih others
    unfold linesWorth at rest' ⊢
    rw [List.map_cons, List.sum_cons, List.map_cons, List.sum_cons, inUsd_add, first, rest']

/-- Two amounts from nothing up to a bound are no further apart than the bound. -/
theorem abs_sub_le_bound {x y bound : ℚ} (x0 : 0 ≤ x) (xle : x ≤ bound) (y0 : 0 ≤ y) (yle : y ≤ bound) : |x - y| ≤ bound := by
  rw [abs_le]
  constructor <;> linarith

section
variable {input : MeasureCustomerLegsInput} {rate : Rate} {to' : Currency} {legs : List ReconciliationLeg} {claim addedU : ℚ}

/-- Drawer lines of a customer who owes nothing. -/
structure OnlyAdds (input : MeasureCustomerLegsInput) (rate : Rate) (to' : Currency) (legs : List ReconciliationLeg) : Prop where
  lines : input.legs = legs
  drawers : legs.any isAccount = false
  expected : input.expected = ⟨0, .known to'⟩
  waived : input.waived = none
  rate : input.rate = rate.value

theorem OnlyAdds.expectedCur (only : OnlyAdds input rate to' legs) : input.expectedCur = .known to' := by
  unfold MeasureCustomerLegsInput.expectedCur
  rw [only.expected]
  cases to' <;> rfl

theorem OnlyAdds.drawerLegs (only : OnlyAdds input rate to' legs) : input.drawerLegs = legs := by
  unfold MeasureCustomerLegsInput.drawerLegs
  rw [only.lines, List.filter_eq_self]
  intro leg member
  simpa using List.any_eq_false.mp only.drawers leg member

theorem OnlyAdds.toUsd (only : OnlyAdds input rate to' legs) (amount : ℚ) (cur : CurrencyCode) :
    input.toUsd amount cur = worthIn rate cur amount := by
  unfold worthIn
  rw [← only.rate]
  rfl

theorem measured_none (input : MeasureCustomerLegsInput) : (measured input 0).addedChange = 0 := by
  have none : ¬(0 : ℚ) < 0 := lt_irrefl 0
  unfold measured
  dsimp only
  rw [if_neg none]

/-- What is counted as added is what the lines pay, or the lines are within the tolerance. -/
theorem OnlyAdds.counted (only : OnlyAdds input rate to' legs) (counted : addedMoney input = .ok addedU) :
    addedU = input.paidU ∧ 0 < addedU ∨ addedU = 0 ∧ |input.paidU| ≤ input.tol := by
  have nothing : input.expectedU = 0 := by
    unfold MeasureCustomerLegsInput.expectedU
    rw [only.expected, inUnit_zero]
  have notWaived : input.waivedU = 0 := by
    unfold MeasureCustomerLegsInput.waivedU MeasureCustomerLegsInput.waivedAmount
    rw [only.waived, Option.getD_none, inUnit_zero]
  have noAccount : input.accountLegs = [] := by
    unfold MeasureCustomerLegsInput.accountLegs
    rw [only.lines, List.filter_eq_nil_iff]
    exact List.any_eq_false.mp only.drawers
  have notOwed : input.owedU = 0 := by
    unfold MeasureCustomerLegsInput.owedU MeasureCustomerLegsInput.sumOf
    rw [noAccount]
    rfl
  rcases addedMoney_cases counted with ⟨above, isOver, -⟩ | ⟨rfl, within⟩
  · rw [nothing, notOwed, add_zero, sub_zero] at isOver
    exact .inl ⟨isOver, lt_of_le_of_lt tol_nonneg above⟩
  · rw [nothing, notOwed, notWaived, add_zero, add_zero, sub_zero] at within
    exact .inr ⟨rfl, within⟩

theorem OnlyAdds.paid_nonneg (only : OnlyAdds input rate to' legs) (checked : Checked input) : 0 ≤ input.paidU := by
  unfold MeasureCustomerLegsInput.paidU MeasureCustomerLegsInput.sumOf
  refine List.sum_nonneg fun x isAmount => ?_
  obtain ⟨leg, isLine, rfl⟩ := List.mem_map.mp isAmount
  have amount := (checked.amounts leg (List.mem_filter.mp isLine).1).le
  unfold MeasureCustomerLegsInput.inUnit
  split_ifs
  · exact amount
  · rw [only.toUsd]
    exact worthIn_nonneg rate _ amount

theorem OnlyAdds.isMixed (only : OnlyAdds input rate to' legs) : isMixed to' to' legs = !input.allSame := by
  unfold Payouts.isMixed
  rw [decide_eq_false (not_not.mpr rfl), Bool.false_or]
  cases same : input.allSame with
  | true =>
    refine List.any_eq_false.mpr fun leg isLine => ?_
    rw [allSame_cur same (only.lines ▸ isLine), only.expectedCur]
    simp
  | false =>
    by_contra none
    have all : ∀ leg ∈ input.legs, comparisonCurrency leg.currencyCode = input.expectedCur := by
      intro leg isLine
      rw [only.lines] at isLine
      rw [only.expectedCur]
      simpa using List.any_eq_false.mp (Bool.eq_false_iff.mpr none) leg isLine
    rw [allSame_of_cur all] at same
    cases same

/-- A claim near the change that is counted is near the lines. -/
theorem OnlyAdds.near (only : OnlyAdds input rate to' legs) (checked : Checked input) (counted : addedMoney input = .ok addedU)
    (above : 0 < claim)
    (matches' : |claim - (measured input addedU).addedChange| ≤ addedTolerance rate.value (Payouts.isMixed to' to' legs) to') :
    |linesWorth rate legs - inUsd rate to' claim| ≤
      legReconciliationEpsilonUsd + inUsd rate to' (keptChangeRoundingTolerance to') := by
  have paid0 := only.paid_nonneg checked
  rw [only.isMixed] at matches'
  cases same : input.allSame with
  | true =>
    have tolerance : input.tol = keptChangeRoundingTolerance to' := by
      unfold MeasureCustomerLegsInput.tol
      rw [if_pos same, only.expectedCur]
      cases to' <;> rfl
    have isPaid : input.paidU = (legs.map (·.amount)).sum := by
      unfold MeasureCustomerLegsInput.paidU MeasureCustomerLegsInput.sumOf
      rw [only.drawerLegs]
      exact congrArg List.sum (List.map_congr_left fun leg _ => inUnit_same same _ _)
    have inOne : ∀ leg ∈ legs, comparisonCurrency leg.currencyCode = .known to' := fun leg isLine =>
      (allSame_cur same (only.lines ▸ isLine)).trans only.expectedCur
    have close : |input.paidU - claim| ≤ keptChangeRoundingTolerance to' := by
      rw [same] at matches'
      change |claim - _| ≤ keptChangeRoundingTolerance to' at matches'
      rcases only.counted counted with ⟨rfl, some'⟩ | ⟨rfl, within⟩
      · have change' : (measured input input.paidU).addedChange = input.paidU := by
          unfold measured MeasureCustomerLegsInput.unitToExpected
          dsimp only
          rw [if_pos some', if_pos same]
        rwa [change', abs_sub_comm] at matches'
      · rw [tolerance] at within
        have zero : (measured input 0).addedChange = 0 := measured_none input
        rw [zero, sub_zero] at matches'
        exact abs_sub_le_bound paid0 (abs_le.mp within).2 above.le (abs_le.mp matches').2
    rw [linesWorth_same inOne, ← isPaid]
    have eps : 0 ≤ legReconciliationEpsilonUsd := by norm_num [legReconciliationEpsilonUsd]
    linarith [abs_inUsd_sub_le rate to' close]
  | false =>
    have tolerance : input.tol = legReconciliationEpsilonUsd := by
      unfold MeasureCustomerLegsInput.tol
      rw [if_neg (Bool.eq_false_iff.mp same)]
    have isPaid : input.paidU = linesWorth rate legs := by
      unfold MeasureCustomerLegsInput.paidU MeasureCustomerLegsInput.sumOf linesWorth
      rw [only.drawerLegs]
      exact congrArg List.sum (List.map_congr_left fun leg _ => by rw [inUnit_mixed same, only.toUsd])
    have inDollars (u : ℚ) : inUsd rate to' (input.unitToExpected u) = u := by
      have back := checked.inUnit_unitToExpected u
      rwa [inUnit_mixed same, only.toUsd, only.expected, worthIn_known] at back
    have unit : inUsd rate to' (addedTolerance rate.value true to') = legReconciliationEpsilonUsd := by
      unfold inUsd addedTolerance
      rw [usdEquivalent_eq]
      cases to' with
      | usd => simp [amountIn]
      | lbp => simp [amountIn, rate.positive.ne']
    have close : |linesWorth rate legs - inUsd rate to' claim| ≤ legReconciliationEpsilonUsd := by
      rw [same] at matches'
      have scaled := abs_inUsd_sub_le rate to' matches'
      rw [Bool.not_false, unit] at scaled
      rcases only.counted counted with ⟨rfl, some'⟩ | ⟨rfl, within⟩
      · have change' : (measured input input.paidU).addedChange = input.unitToExpected input.paidU := if_pos some'
        rwa [change', inDollars, isPaid, abs_sub_comm] at scaled
      · rw [tolerance, isPaid] at within
        have zero : (measured input 0).addedChange = 0 := measured_none input
        have none : inUsd rate to' 0 = 0 := by
          cases to' <;> exact usdEquivalent_zero rate
        rw [zero, none, sub_zero] at scaled
        refine abs_sub_le_bound (isPaid ▸ paid0) (abs_le.mp within).2 ?_ (abs_le.mp scaled).2
        rw [← none]
        exact inUsd_mono rate to' above.le
    have half : 0 ≤ inUsd rate to' (keptChangeRoundingTolerance to') := by
      rw [← worthIn_known]
      refine worthIn_nonneg rate _ ?_
      cases to' <;> norm_num [keptChangeRoundingTolerance]
    linarith

end

variable {numberText : ℚ → String} {derivedText : Currency → ℚ → String}

/-- With a customer who owes nothing, either no line is sent or the claim is the lines. -/
theorem resolveAddedChange_ok {input : AddedChangeInput} {to' : Currency} {added : AddedChange}
    (owesNothing : input.expected = ⟨0, .known to'⟩) (payout : input.payoutCurrency = .known to') (ownRate : input.measureRate = none)
    (done : resolveAddedChange isDrawerAffectingMethod numberText derivedText common input = .ok added) :
    (added = {} ∧ any input.claimed = false ∧ nonEmpty input.legs = []) ∨
      (any input.claimed = true ∧ input.notAllowed = false ∧
        Adds common.rate (nonEmpty input.legs) (part input.claimed to') to' added) := by
  obtain ⟨_, -, done⟩ := bind_ok done
  cases claims : any input.claimed with
  | false =>
    rw [claims, Bool.not_false, if_pos rfl] at done
    obtain ⟨_, noLines, rfl⟩ := map_ok done
    have noLines := refuseIf_ok noLines
    rw [owesNothing, decide_eq_false (lt_irrefl 0), Bool.not_false, Bool.and_true, Bool.not_eq_false', List.isEmpty_iff] at noLines
    exact .inl ⟨rfl, rfl, noLines⟩
  | true =>
    rw [claims, Bool.not_true, if_neg Bool.false_ne_true] at done
    obtain ⟨_, allowed, done⟩ := bind_ok done
    refine .inr ⟨rfl, refuseIf_ok allowed, ?_⟩
    have cur : comparisonCurrency input.expected.currency = .known to' := by
      rw [owesNothing]
      cases to' <;> rfl
    rw [payout] at done
    dsimp only at done
    rw [cur] at done
    dsimp only at done
    obtain ⟨_, inPayout, done⟩ := bind_ok done
    obtain ⟨_, -, done⟩ := bind_ok done
    obtain ⟨_, -, done⟩ := bind_ok done
    obtain ⟨_, drawers, done⟩ := bind_ok done
    obtain ⟨m, returned, done⟩ := bind_ok done
    obtain ⟨_, matches', rfl⟩ := map_ok done
    obtain ⟨checked, addedU, counted, rfl⟩ := measureCustomerLegs_checked returned
    have above := not_le.mp (of_decide_eq_false (Bool.or_eq_false_iff.mp (refuseIf_ok inPayout)).2)
    have only : OnlyAdds (input.measure common (nonEmpty input.legs)) common.rate to' (nonEmpty input.legs) :=
      ⟨rfl, (Bool.or_eq_false_iff.mp (refuseIf_ok drawers)).1, owesNothing, rfl, by
        unfold AddedChangeInput.measure
        rw [ownRate]
        rfl⟩
    have near := only.near checked counted above (by
      have matches' := not_lt.mp (of_decide_eq_false (refuseIf_ok matches'))
      unfold convertExtra at matches'
      rwa [if_pos rfl] at matches')
    exact ⟨rfl, above, congrArg some only.drawerLegs, near⟩

/-! A payout out of which change may be kept. -/

section
variable {formatMoneyAmount : ℚ → Currency → String} {legs : List ReconciliationLeg} {result : KeptChangeResult}

theorem resolvePayout_near {c : Currency} {owed : ℚ} {kept : UsdLbp} (nonneg : 0 ≤ kept.1 ∧ 0 ≤ kept.2) (some' : legs ≠ [])
    (done : resolvePayout isDrawerAffectingMethod formatMoneyAmount common owed (.known c) legs kept = .ok result) :
    |usdEquivalent result.kept common.rate.value - (inUsd common.rate c owed - value legs common.rate)| ≤
      legReconciliationEpsilonUsd := by
  cases keeps : any kept with
  | true =>
    obtain ⟨rfl, d, same, -, payout⟩ := resolvePayout_keeps nonneg done keeps
    have near := payout.reconciles
    rwa [owedTotals_known] at near
  | false =>
    unfold resolvePayout at done
    rw [keeps] at done
    obtain ⟨_, reconciled, rfl⟩ := map_ok done
    have near := reconciled_near some' reconciled
    rw [usdEquivalent_zero, zero_sub, neg_sub]
    exact near

theorem resolvePerCurrencyPayout_near {owed kept : UsdLbp} (some' : legs ≠ [])
    (done : resolvePerCurrencyPayout isDrawerAffectingMethod common owed legs kept = .ok result) :
    |usdEquivalent result.kept common.rate.value - (usdEquivalent owed common.rate.value - value legs common.rate)| ≤
      legReconciliationEpsilonUsd + cents common.rate := by
  have eps : 0 ≤ legReconciliationEpsilonUsd := by norm_num [legReconciliationEpsilonUsd]
  have some : 0 ≤ cents common.rate := by
    unfold cents
    rw [usdEquivalent_eq]
    exact add_nonneg (by norm_num [holdPickupEpsilon]) (div_nonneg (by norm_num [holdPickupEpsilon]) common.rate.positive.le)
  unfold resolvePerCurrencyPayout at done
  split_ifs at done with none
  · obtain ⟨_, reconciled, rfl⟩ := map_ok done
    have near := reconcileLegs_ok reconciled some'
    have noOut : value [] common.rate = 0 := usdEquivalent_zero _
    rw [noOut, usdEquivalent_zero, sub_zero, sub_zero] at near
    rw [usdEquivalent_zero, zero_sub, neg_sub]
    linarith
  · obtain ⟨_, -, done⟩ := bind_ok done
    obtain ⟨_, notOver, done⟩ := bind_ok done
    obtain ⟨_, -, done⟩ := bind_ok done
    obtain ⟨_, -, rfl⟩ := map_ok done
    have fits (c : Currency) (inOne : (holdPickupKeptPerCurrency owed (legs.map fun leg => { leg with isOut := false })).isOver c = false) :
        |(holdPickupKeptPerCurrency owed (legs.map fun leg => { leg with isOut := false })).kept c -
          (part owed c - part (legTotal legs) c)| ≤ holdPickupEpsilon c := by
      have le := not_lt.mp (of_decide_eq_false inOne)
      have isKept : (holdPickupKeptPerCurrency owed (legs.map fun leg => { leg with isOut := false })).kept c =
          max 0 (roundTo (centsOf c) (part owed c - part (legTotal legs) c)) := by
        rw [← handedIn_eq]
        rfl
      rw [handedIn_eq] at le
      rw [isKept]
      refine abs_max_roundTo_sub_le ?_ ?_ (by linarith)
      · cases c <;> norm_num [centsOf]
      · cases c <;> norm_num [centsOf, holdPickupEpsilon]
    obtain ⟨notOverUsd, notOverLbp⟩ := Bool.or_eq_false_iff.mp (refuseIf_ok notOver)
    have near := @usdEquivalent_near (_, _) (owed - legTotal legs) _ _ common.rate (fits .usd notOverUsd) (fits .lbp notOverLbp)
    rw [usdEquivalent_sub] at near
    exact near.trans (le_add_of_nonneg_left eps)

theorem resolveKeptChange_payout {c : Currency} {owed : ℚ} (some' : nonEmpty legs ≠ [])
    (done : resolveKeptChange isDrawerAffectingMethod formatMoneyAmount common (.payout owed (.known c) legs []) = .ok result) :
    |usdEquivalent result.kept common.rate.value - (inUsd common.rate c |owed| - value (nonEmpty legs) common.rate)| ≤
      legReconciliationEpsilonUsd := by
  obtain ⟨kept, claimed, done⟩ := bind_ok done
  obtain ⟨_, -, done⟩ := bind_ok done
  obtain ⟨_, -, done⟩ := bind_ok done
  exact resolvePayout_near (readAmounts_ok claimed) some' done

theorem resolveKeptChange_perCurrency {owed : UsdLbp} (some' : nonEmpty legs ≠ [])
    (done : resolveKeptChange isDrawerAffectingMethod formatMoneyAmount common (.payoutPerCurrency owed legs []) = .ok result) :
    |usdEquivalent result.kept common.rate.value - (usdEquivalent owed common.rate.value - value (nonEmpty legs) common.rate)| ≤
      legReconciliationEpsilonUsd + cents common.rate := by
  obtain ⟨kept, -, done⟩ := bind_ok done
  obtain ⟨_, -, done⟩ := bind_ok done
  obtain ⟨_, -, done⟩ := bind_ok done
  exact resolvePerCurrencyPayout_near some' done

end

end

end Liratek.Till.Payouts
