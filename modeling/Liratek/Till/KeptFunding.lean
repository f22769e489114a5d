import Liratek.Till.KeptChange

/-! Kept change is money that a drawer really has, but for rounding. -/

namespace Liratek.Till.KeptFunding
open Voucher.Vouchers (Currency UsdLbp Rate amountIn usdEquivalent keptChangeRoundingTolerance legReconciliationEpsilonUsd)
open KeptChange Lib.Calls Lib.Rounding

theorem usdEquivalent_eq (amounts : UsdLbp) (rate : Rate) : usdEquivalent amounts rate.value = amounts.1 + amounts.2 / rate.value := by
  rw [usdEquivalent, if_pos rate.positive]

theorem usdEquivalent_add (x y : UsdLbp) (rate : Rate) :
    usdEquivalent (x + y) rate.value = usdEquivalent x rate.value + usdEquivalent y rate.value := by
  simp only [usdEquivalent_eq, Prod.fst_add, Prod.snd_add]
  ring

theorem usdEquivalent_sub (x y : UsdLbp) (rate : Rate) :
    usdEquivalent (x - y) rate.value = usdEquivalent x rate.value - usdEquivalent y rate.value := by
  simp only [usdEquivalent_eq, Prod.fst_sub, Prod.snd_sub]
  ring

theorem usdEquivalent_zero (rate : Rate) : usdEquivalent 0 rate.value = 0 := by
  simp [usdEquivalent_eq]

/-- What a line counts for in both currencies; nothing in a third one. -/
def legAmount (leg : ReconciliationLeg) : UsdLbp :=
  match leg.currencyCode with
  | .known currency => amountIn currency |leg.amount|
  | .other _ => 0

def legTotal (legs : List ReconciliationLeg) : UsdLbp :=
  (legs.map legAmount).sum

/-- The lines in dollars. -/
def value (legs : List ReconciliationLeg) (rate : Rate) : ℚ :=
  usdEquivalent (legTotal legs) rate.value

theorem value_nonneg (legs : List ReconciliationLeg) (rate : Rate) : 0 ≤ value legs rate := by
  have both : 0 ≤ (legTotal legs).1 ∧ 0 ≤ (legTotal legs).2 := by
    unfold legTotal
    induction legs with
    | nil => exact ⟨le_rfl, le_rfl⟩
    | cons leg rest ih =>
      have here : 0 ≤ (legAmount leg).1 ∧ 0 ≤ (legAmount leg).2 := by
        unfold legAmount
        cases leg.currencyCode with
        | known currency => cases currency <;> simp [amountIn]
        | other code => exact ⟨le_rfl, le_rfl⟩
      rw [List.map_cons, List.sum_cons]
      exact ⟨add_nonneg here.1 ih.1, add_nonneg here.2 ih.2⟩
  rw [value, usdEquivalent_eq]
  exact add_nonneg both.1 (div_nonneg both.2 rate.positive.le)

/-! What a call has checked when it returns. -/

theorem refuseIf_ok {refused : Bool} {plain : String} {u : Unit} (done : refuseIf refused plain = .ok u) : refused = false := by
  cases refused with
  | false => rfl
  | true => cases done

theorem sumLegsFrom_ok {context : String} {legs : List ReconciliationLeg} {start sums : UsdLbp}
    (done : sumLegsFrom context start legs = .ok sums) : sums = start + legTotal legs := by
  induction legs generalizing start with
  | nil =>
    obtain rfl := Except.ok.inj done
    exact (add_zero _).symm
  | cons leg rest ih =>
    obtain ⟨next, added, others⟩ := bind_ok done
    have here : next = start + legAmount leg := by
      unfold addLeg at added
      split_ifs at added with zero
      · obtain rfl := Except.ok.inj added
        unfold legAmount
        cases leg.currencyCode with
        | known currency => cases currency <;> simp [amountIn, zero]
        | other code => simp
      · unfold legAmount
        cases code : leg.currencyCode with
        | known currency =>
          rw [code] at added
          exact (Except.ok.inj added).symm
        | other _ =>
          rw [code] at added
          cases added
    rw [ih others, here, add_assoc]
    rfl

theorem sumLegs_ok {context : String} {legs : List ReconciliationLeg} {sums : UsdLbp}
    (done : sumLegsByCurrency legs context = .ok sums) : sums = legTotal legs := by
  rw [sumLegsFrom_ok done, zero_add]

theorem legsUsd_ok {context : String} {legs : List ReconciliationLeg} {rate : Rate} {usd : ℚ}
    (done : legsUsd legs rate context = .ok usd) : usd = value legs rate := by
  obtain ⟨sums, summed, rfl⟩ := map_ok done
  rw [sumLegs_ok summed]
  rfl

theorem readAmounts_ok {claim : Option UsdLbp} {plain : String} {amounts : UsdLbp} (done : readAmounts claim plain = .ok amounts) :
    0 ≤ amounts.1 ∧ 0 ≤ amounts.2 := by
  obtain ⟨_, valid, rfl⟩ := map_ok done
  simpa using refuseIf_ok valid

variable {common : KeptChangeCommon} {inLegs outLegs : List ReconciliationLeg} {expected kept : UsdLbp}

theorem reconcileLegs_ok (done : reconcileLegs common inLegs outLegs kept expected = .ok ()) (some' : inLegs ≠ []) :
    |value inLegs common.rate - value outLegs common.rate - usdEquivalent kept common.rate.value -
      usdEquivalent expected common.rate.value| ≤ legReconciliationEpsilonUsd := by
  rw [reconcileLegs, if_neg some'] at done
  obtain ⟨inUsd, inSummed, done⟩ := bind_ok done
  obtain ⟨outUsd, outSummed, done⟩ := bind_ok done
  obtain rfl := legsUsd_ok inSummed
  obtain rfl := legsUsd_ok outSummed
  exact not_lt.mp (of_decide_eq_false (refuseIf_ok done))

theorem assertWithinExcess_ok {plain : String} (done : assertWithinExcess common inLegs outLegs expected kept plain = .ok ()) :
    usdEquivalent kept common.rate.value ≤ value inLegs common.rate - value outLegs common.rate -
      usdEquivalent expected common.rate.value + keptTolerance kept common.rate := by
  obtain ⟨inUsd, inSummed, done⟩ := bind_ok done
  obtain ⟨outUsd, outSummed, done⟩ := bind_ok done
  obtain rfl := legsUsd_ok inSummed
  obtain rfl := legsUsd_ok outSummed
  exact not_lt.mp (of_decide_eq_false (refuseIf_ok done))

variable {isDrawerAffectingMethod : String → Bool}

/-- What drawer lines leave once the other lines have been applied to the total. -/
def drawerExcess (isDrawerAffectingMethod : String → Bool) (rate : Rate) (inLegs outLegs : List ReconciliationLeg)
    (expected : UsdLbp) : ℚ :=
  let drawer := isDrawer isDrawerAffectingMethod
  value (inLegs.filter drawer) rate - value (outLegs.filter drawer) rate -
    max 0 (usdEquivalent expected rate.value -
      (value (inLegs.filter fun leg => !drawer leg) rate - value (outLegs.filter fun leg => !drawer leg) rate))

theorem assertDrawerFunded_ok {plain : String}
    (done : assertDrawerFunded isDrawerAffectingMethod common inLegs outLegs expected kept plain = .ok ()) :
    usdEquivalent kept common.rate.value ≤
      drawerExcess isDrawerAffectingMethod common.rate inLegs outLegs expected + keptTolerance kept common.rate := by
  obtain ⟨drawerIn, summed, done⟩ := bind_ok done
  obtain rfl := legsUsd_ok summed
  obtain ⟨drawerOut, summed, done⟩ := bind_ok done
  obtain rfl := legsUsd_ok summed
  obtain ⟨otherIn, summed, done⟩ := bind_ok done
  obtain rfl := legsUsd_ok summed
  obtain ⟨otherOut, summed, done⟩ := bind_ok done
  obtain rfl := legsUsd_ok summed
  exact not_lt.mp (of_decide_eq_false (refuseIf_ok done))

/-! What kept change is measured by. -/

/-- Money handed over beyond what is due; in a payout, money due beyond what is handed out. -/
def difference (rate : Rate) : KeptChangePayer → ℚ
  | .customer expected inLegs outLegs _ =>
    value (nonEmpty inLegs) rate - value (nonEmpty outLegs) rate - usdEquivalent expected rate.value
  | .shop bill handed returned => value (nonEmpty handed) rate - value (nonEmpty returned) rate - usdEquivalent bill rate.value
  | .payout owed currency legs _ => usdEquivalent (owedTotals currency |owed|) rate.value - value (nonEmpty legs) rate
  | .payoutPerCurrency owed legs _ => usdEquivalent owed rate.value - value (nonEmpty legs) rate

/-- What is owed beyond the lines, those that move no drawer first. -/
def payoutLeaves (isDrawerAffectingMethod : String → Bool) (rate : Rate) (owed : UsdLbp) (legs : List ReconciliationLeg) : ℚ :=
  let drawer := isDrawer isDrawerAffectingMethod
  usdEquivalent owed rate.value - value (legs.filter fun leg => !drawer leg) rate - value (legs.filter drawer) rate

/-- What the drawer lines alone leave. -/
def drawerLeaves (isDrawerAffectingMethod : String → Bool) (rate : Rate) : KeptChangePayer → ℚ
  | .customer expected inLegs outLegs _ => drawerExcess isDrawerAffectingMethod rate (nonEmpty inLegs) (nonEmpty outLegs) expected
  | .shop bill handed returned => drawerExcess isDrawerAffectingMethod rate (nonEmpty handed) (nonEmpty returned) bill
  | .payout owed currency legs _ => payoutLeaves isDrawerAffectingMethod rate (owedTotals currency |owed|) (nonEmpty legs)
  | .payoutPerCurrency owed legs _ => payoutLeaves isDrawerAffectingMethod rate owed (nonEmpty legs)

def cents (rate : Rate) : ℚ :=
  usdEquivalent (holdPickupEpsilon .usd, holdPickupEpsilon .lbp) rate.value

/-- The rounding of a kept amount, in dollars. A pickup in two currencies may be a cent and a lira off. -/
def rounding (rate : Rate) (kept : UsdLbp) : KeptChangePayer → ℚ
  | .customer .. | .shop .. => keptTolerance kept rate
  | .payout _ (.known currency) .. =>
    usdEquivalent (amountIn currency (keptChangeRoundingTolerance currency + floatDust)) rate.value
  | .payout _ (.other _) .. => 0
  | .payoutPerCurrency .. => cents rate

def reconciliation (rate : Rate) : KeptChangePayer → ℚ
  | .payoutPerCurrency .. => cents rate
  | _ => legReconciliationEpsilonUsd

/-- The lines that pay. -/
def payingLegs : KeptChangePayer → List ReconciliationLeg
  | .customer _ inLegs .. => nonEmpty inLegs
  | .shop _ handed _ => nonEmpty handed
  | .payout _ _ legs _ | .payoutPerCurrency _ legs _ => nonEmpty legs

def isPayout : KeptChangePayer → Bool
  | .payout .. | .payoutPerCurrency .. => true
  | _ => false

/-- Kept change is real drawer money. -/
structure RealDrawerMoney (isDrawerAffectingMethod : String → Bool) (rate : Rate) (payer : KeptChangePayer) (kept : UsdLbp) : Prop where
  nonneg : 0 ≤ kept.1 ∧ 0 ≤ kept.2
  within : usdEquivalent kept rate.value ≤ difference rate payer + rounding rate kept payer
  reconciles : |usdEquivalent kept rate.value - difference rate payer| ≤ reconciliation rate payer
  funded : usdEquivalent kept rate.value ≤ drawerLeaves isDrawerAffectingMethod rate payer + rounding rate kept payer
  fromDrawer : (∀ leg ∈ payingLegs payer, isDrawer isDrawerAffectingMethod leg = false) →
    isPayout payer = false ∧ usdEquivalent kept rate.value ≤ rounding rate kept payer

/-- With no drawer line nothing is left in a drawer. -/
theorem drawerExcess_none {rate : Rate} (none : ∀ leg ∈ inLegs, isDrawer isDrawerAffectingMethod leg = false) :
    drawerExcess isDrawerAffectingMethod rate inLegs outLegs expected ≤ 0 := by
  have noIn : inLegs.filter (isDrawer isDrawerAffectingMethod) = [] :=
    List.filter_eq_nil_iff.mpr fun leg member => by simp [none leg member]
  have zero : value [] rate = 0 := usdEquivalent_zero rate
  have outNonneg : 0 ≤ value (outLegs.filter (isDrawer isDrawerAffectingMethod)) rate := value_nonneg ..
  unfold drawerExcess
  dsimp only
  rw [noIn, zero]
  linarith [le_max_left 0 (usdEquivalent expected rate.value -
    (value (inLegs.filter fun leg => !isDrawer isDrawerAffectingMethod leg) rate -
      value (outLegs.filter fun leg => !isDrawer isDrawerAffectingMethod leg) rate))]

/-- When every line moves a drawer, the drawers leave the whole difference. -/
theorem payoutLeaves_all {rate : Rate} {owed : UsdLbp} {legs : List ReconciliationLeg}
    (all : legs.any (fun leg => !isDrawer isDrawerAffectingMethod leg) = false) :
    payoutLeaves isDrawerAffectingMethod rate owed legs = usdEquivalent owed rate.value - value legs rate := by
  have drawers : ∀ leg ∈ legs, isDrawer isDrawerAffectingMethod leg = true := by simpa using all
  have noOther : (legs.filter fun leg => !isDrawer isDrawerAffectingMethod leg) = [] :=
    List.filter_eq_nil_iff.mpr fun leg member => by simp [drawers leg member]
  have zero : value [] rate = 0 := usdEquivalent_zero rate
  unfold payoutLeaves
  dsimp only
  rw [noOther, zero, sub_zero, List.filter_eq_self.mpr drawers]

/-! The payers. -/

/-- What the result says is kept: the shop's profit, or change not returned to it. -/
def keptAmount (result : KeptChangeResult) : UsdLbp :=
  result.kept + result.notReturned

variable {result : KeptChangeResult} {formatMoneyAmount : ℚ → Currency → String}

/-- A shortfall the shop accepts keeps nothing. -/
theorem resolveCustomerReduction_ok {claim : ReductionClaim} {reduction : UsdLbp}
    (done : resolveCustomerReduction formatMoneyAmount common expected claim inLegs outLegs kept reduction = .ok result) :
    keptAmount result = 0 := by
  obtain ⟨_, -, done⟩ := bind_ok done
  obtain ⟨_, -, done⟩ := bind_ok done
  obtain ⟨_, -, done⟩ := bind_ok done
  obtain ⟨_, -, done⟩ := bind_ok done
  cases isCap : claim.reductionCap with
  | none =>
    rw [isCap] at done
    cases done
  | some cap =>
    rw [isCap] at done
    obtain ⟨_, -, done⟩ := bind_ok done
    obtain ⟨_, -, done⟩ := bind_ok done
    obtain ⟨_, -, done⟩ := bind_ok done
    obtain ⟨_, -, done⟩ := bind_ok done
    obtain ⟨_, -, rfl⟩ := map_ok done
    exact add_zero 0

/-- What a customer's or the shop's payment has been checked for when something is kept. -/
structure PaymentKeeps (isDrawerAffectingMethod : String → Bool) (rate : Rate) (inLegs outLegs : List ReconciliationLeg)
    (expected kept : UsdLbp) : Prop where
  within : usdEquivalent kept rate.value ≤
    value inLegs rate - value outLegs rate - usdEquivalent expected rate.value + keptTolerance kept rate
  reconciles : |usdEquivalent kept rate.value - (value inLegs rate - value outLegs rate - usdEquivalent expected rate.value)| ≤
    legReconciliationEpsilonUsd
  funded : usdEquivalent kept rate.value ≤
    drawerExcess isDrawerAffectingMethod rate inLegs outLegs expected + keptTolerance kept rate

theorem paymentKeeps {plain drawerOnly : String} (some' : inLegs ≠ []) (reconciled : reconcileLegs common inLegs outLegs kept expected = .ok ())
    (within : assertWithinExcess common inLegs outLegs expected kept plain = .ok ())
    (funded : assertDrawerFunded isDrawerAffectingMethod common inLegs outLegs expected kept drawerOnly = .ok ()) :
    PaymentKeeps isDrawerAffectingMethod common.rate inLegs outLegs expected kept := by
  refine ⟨assertWithinExcess_ok within, ?_, assertDrawerFunded_ok funded⟩
  have near := reconcileLegs_ok reconciled some'
  rw [← abs_neg] at near
  convert near using 2
  ring

theorem any_zero : any 0 = false := by
  decide

theorem not_keeps_none (keeps : any (keptAmount {}) = true) : False := by
  have none : keptAmount {} = 0 := add_zero 0
  rw [none, any_zero] at keeps
  cases keeps

theorem not_isEmpty {legs : List ReconciliationLeg} (keeps : any kept = true) (checked : (any kept && legs.isEmpty) = false) : legs ≠ [] := by
  rw [keeps, Bool.true_and] at checked
  rintro rfl
  cases checked

theorem resolveCustomer_ok {claim : ReductionClaim}
    (done : resolveCustomer isDrawerAffectingMethod formatMoneyAmount common expected inLegs outLegs claim kept = .ok result)
    (keeps : any (keptAmount result) = true) :
    keptAmount result = kept ∧ PaymentKeeps isDrawerAffectingMethod common.rate inLegs outLegs expected kept := by
  obtain ⟨reduction, -, done⟩ := bind_ok done
  by_cases reduces : any reduction = true
  · rw [if_pos reduces] at done
    rw [resolveCustomerReduction_ok done, any_zero] at keeps
    cases keeps
  · rw [if_neg reduces] at done
    obtain ⟨_, hasLegs, done⟩ := bind_ok done
    obtain ⟨_, reconciled, done⟩ := bind_ok done
    split_ifs at done with keepsClaim
    · obtain ⟨_, within, done⟩ := bind_ok done
      obtain ⟨_, funded, rfl⟩ := map_ok done
      exact ⟨add_zero kept, paymentKeeps (not_isEmpty keepsClaim (refuseIf_ok hasLegs)) reconciled within funded⟩
    · obtain rfl := Except.ok.inj done
      have isKept : keptAmount { kept := kept } = kept := add_zero kept
      rw [isKept] at keeps
      exact absurd keeps keepsClaim

theorem resolveShop_ok (done : resolveShop isDrawerAffectingMethod common expected inLegs outLegs kept = .ok result)
    (keeps : any (keptAmount result) = true) :
    keptAmount result = kept ∧ PaymentKeeps isDrawerAffectingMethod common.rate inLegs outLegs expected kept := by
  obtain ⟨_, hasLegs, done⟩ := bind_ok done
  obtain ⟨_, reconciled, done⟩ := bind_ok done
  obtain ⟨_, checked, done⟩ := bind_ok done
  split_ifs at done with none
  · obtain rfl := Except.ok.inj done
    exact (not_keeps_none keeps).elim
  · obtain ⟨h, -, done⟩ := bind_ok done
    obtain ⟨r, -, rfl⟩ := map_ok done
    have isKept : keptAmount { notReturned := kept, cost := h - r } = kept := zero_add kept
    rw [isKept] at keeps
    rw [if_pos keeps] at checked
    obtain ⟨_, within, checked⟩ := bind_ok checked
    obtain ⟨_, -, funded⟩ := bind_ok checked
    exact ⟨isKept, paymentKeeps (not_isEmpty keeps (refuseIf_ok hasLegs)) reconciled within funded⟩

/-- What a payout has been checked for when something is kept. -/
structure PayoutKeeps (isDrawerAffectingMethod : String → Bool) (rate : Rate) (legs : List ReconciliationLeg) (owed kept : UsdLbp)
    (rounding reconciliation : ℚ) : Prop where
  within : usdEquivalent kept rate.value ≤ usdEquivalent owed rate.value - value legs rate + rounding
  reconciles : |usdEquivalent kept rate.value - (usdEquivalent owed rate.value - value legs rate)| ≤ reconciliation
  paid : legs ≠ []
  drawers : legs.any (fun leg => !isDrawer isDrawerAffectingMethod leg) = false

theorem owedTotals_known (c : Currency) (owed : ℚ) : owedTotals (.known c) owed = amountIn c owed := by
  cases c <;> rfl

theorem usdEquivalent_amountIn_sub (c : Currency) (x y : ℚ) (rate : Rate) :
    usdEquivalent (amountIn c (x - y)) rate.value = usdEquivalent (amountIn c x) rate.value - usdEquivalent (amountIn c y) rate.value := by
  rw [← usdEquivalent_sub]
  cases c <;> simp [amountIn]

/-- An amount of one currency is nothing of the other. -/
theorem eq_amountIn {c : Currency} (nonneg : 0 ≤ kept.1 ∧ 0 ≤ kept.2) (noOther : ¬0 < part kept (otherCurrency c)) :
    amountIn c (part kept c) = kept := by
  cases c with
  | usd => exact Prod.ext rfl (le_antisymm nonneg.2 (not_lt.mp noOther))
  | lbp => exact Prod.ext (le_antisymm nonneg.1 (not_lt.mp noOther)) rfl

theorem resolvePayout_keeps {owed : ℚ} {currency : CurrencyCode} {legs : List ReconciliationLeg} (nonneg : 0 ≤ kept.1 ∧ 0 ≤ kept.2)
    (done : resolvePayout isDrawerAffectingMethod formatMoneyAmount common owed currency legs kept = .ok result)
    (keeps : any kept = true) :
    result = { kept := kept } ∧ ∃ c, currency = .known c ∧ amountIn c (part kept c) = kept ∧
      PayoutKeeps isDrawerAffectingMethod common.rate legs (owedTotals currency owed) kept
        (usdEquivalent (amountIn c (keptChangeRoundingTolerance c + floatDust)) common.rate.value) legReconciliationEpsilonUsd := by
  unfold resolvePayout at done
  rw [keeps] at done
  simp only [Bool.not_true, Bool.false_eq_true, if_false] at done
  obtain ⟨_, hasLegs, done⟩ := bind_ok done
  obtain ⟨_, drawers, done⟩ := bind_ok done
  have isSome : legs ≠ [] := by
    rintro rfl
    cases refuseIf_ok hasLegs
  cases currency with
  | other code => cases done
  | known c =>
    obtain ⟨_, inPayout, done⟩ := bind_ok done
    obtain ⟨_, -, done⟩ := bind_ok done
    obtain ⟨paidUsd, summed, done⟩ := bind_ok done
    obtain rfl := legsUsd_ok summed
    obtain ⟨_, -, done⟩ := bind_ok done
    obtain ⟨_, reconciled, done⟩ := bind_ok done
    obtain ⟨_, within, rfl⟩ := map_ok done
    have inOne := eq_amountIn nonneg (of_decide_eq_false (refuseIf_ok inPayout))
    have near := reconcileLegs_ok reconciled isSome
    have noOut : value [] common.rate = 0 := usdEquivalent_zero _
    rw [owedTotals_known, usdEquivalent_amountIn_sub, inOne, noOut, usdEquivalent_zero, sub_zero, sub_zero] at near
    have le := not_lt.mp (of_decide_eq_false (refuseIf_ok within))
    refine ⟨by rw [inOne], c, rfl, inOne, ?_, ?_, isSome, refuseIf_ok drawers⟩
    · rw [owedTotals_known, ← inOne, usdEquivalent_eq, usdEquivalent_eq, usdEquivalent_eq]
      have rate := common.rate.positive
      cases c with
      | usd =>
        simp only [amountIn, zero_div, add_zero]
        linarith
      | lbp =>
        have scaled := div_le_div_of_nonneg_right le rate.le
        rw [add_div, add_div, sub_div, mul_div_cancel_right₀ _ rate.ne', add_assoc, ← add_div] at scaled
        simp only [amountIn, zero_add]
        exact scaled
    · rw [owedTotals_known]
      convert near using 2
      ring

theorem resolvePayout_ok {owed : ℚ} {currency : CurrencyCode} {legs : List ReconciliationLeg} (nonneg : 0 ≤ kept.1 ∧ 0 ≤ kept.2)
    (done : resolvePayout isDrawerAffectingMethod formatMoneyAmount common owed currency legs kept = .ok result)
    (keeps : any (keptAmount result) = true) :
    keptAmount result = kept ∧ ∃ c, currency = .known c ∧
      PayoutKeeps isDrawerAffectingMethod common.rate legs (owedTotals currency owed) kept
        (usdEquivalent (amountIn c (keptChangeRoundingTolerance c + floatDust)) common.rate.value) legReconciliationEpsilonUsd := by
  cases claims : any kept with
  | true =>
    obtain ⟨rfl, c, isKnown, -, payout⟩ := resolvePayout_keeps nonneg done claims
    exact ⟨add_zero kept, c, isKnown, payout⟩
  | false =>
    unfold resolvePayout at done
    rw [claims] at done
    obtain ⟨_, -, rfl⟩ := map_ok done
    exact (not_keeps_none keeps).elim

theorem part_add (x y : UsdLbp) (c : Currency) : part (x + y) c = part x c + part y c := by
  cases c <;> rfl

/-- What is handed out in a currency is its part of the lines. -/
theorem handedIn_eq (legs : List ReconciliationLeg) (c : Currency) :
    handedIn (legs.map fun leg => { leg with isOut := false }) c = part (legTotal legs) c := by
  induction legs with
  | nil => cases c <;> rfl
  | cons leg rest ih =>
    have total : legTotal (leg :: rest) = legAmount leg + legTotal rest := rfl
    rw [total, part_add, ← ih]
    unfold handedIn
    rw [List.map_cons, List.filter_cons]
    by_cases isHere : leg.currencyCode = .known c
    · have here : part (legAmount leg) c = |leg.amount| := by
        rw [legAmount, isHere]
        cases c <;> rfl
      rw [if_pos (by simp [isHere]), List.map_cons, List.sum_cons, here]
    · have foreign : part (legAmount leg) c = 0 := by
        unfold legAmount
        cases code : leg.currencyCode with
        | known d =>
          rw [code] at isHere
          cases c <;> cases d <;> first | rfl | exact absurd rfl isHere
        | other text => cases c <;> rfl
      rw [if_neg (by simp [isHere]), foreign, zero_add]

/-- Rounded up from below nothing, an amount is off by the allowance at most. -/
theorem abs_max_roundTo_sub_le {scale x allowance : ℚ} (positive : 0 < scale) (coarse : 1 / (2 * scale) ≤ allowance)
    (notOver : -allowance ≤ x) : |max 0 (roundTo scale x) - x| ≤ allowance := by
  have near := abs_le.mp (abs_roundTo_sub_le positive x)
  rw [abs_le]
  rcases le_total 0 (roundTo scale x) with nonneg | neg
  · rw [max_eq_right nonneg]
    constructor <;> linarith [near.1, near.2]
  · rw [max_eq_left neg]
    constructor <;> linarith [near.1, near.2]

theorem usdEquivalent_near {x y : UsdLbp} {a b : ℚ} {rate : Rate} (usd : |x.1 - y.1| ≤ a) (lbp : |x.2 - y.2| ≤ b) :
    |usdEquivalent x rate.value - usdEquivalent y rate.value| ≤ usdEquivalent (a, b) rate.value := by
  rw [← usdEquivalent_sub, usdEquivalent_eq, usdEquivalent_eq]
  have scaled : |(x - y).2 / rate.value| ≤ b / rate.value := by
    rw [abs_div, abs_of_pos rate.positive]
    exact div_le_div_of_nonneg_right lbp rate.positive.le
  exact (abs_add_le _ _).trans (add_le_add usd scaled)

theorem resolvePerCurrencyPayout_ok {owed : UsdLbp} {legs : List ReconciliationLeg}
    (done : resolvePerCurrencyPayout isDrawerAffectingMethod common owed legs kept = .ok result)
    (keeps : any (keptAmount result) = true) :
    (0 ≤ (keptAmount result).1 ∧ 0 ≤ (keptAmount result).2) ∧
      PayoutKeeps isDrawerAffectingMethod common.rate legs owed (keptAmount result) (cents common.rate) (cents common.rate) := by
  unfold resolvePerCurrencyPayout at done
  split_ifs at done with none
  · obtain ⟨_, -, rfl⟩ := map_ok done
    exact (not_keeps_none keeps).elim
  · obtain ⟨_, hasLegs, done⟩ := bind_ok done
    obtain ⟨_, notOver, done⟩ := bind_ok done
    obtain ⟨_, -, done⟩ := bind_ok done
    obtain ⟨_, drawers, rfl⟩ := map_ok done
    have isSome : legs ≠ [] := by
      rintro rfl
      cases refuseIf_ok hasLegs
    obtain ⟨notOverUsd, notOverLbp⟩ := Bool.or_eq_false_iff.mp (refuseIf_ok notOver)
    have usdFits := not_lt.mp (of_decide_eq_false notOverUsd)
    have lbpFits := not_lt.mp (of_decide_eq_false notOverLbp)
    rw [handedIn_eq] at usdFits lbpFits
    have usdNear : |max 0 (roundTo (centsOf .usd) (part owed .usd - part (legTotal legs) .usd)) -
        (part owed .usd - part (legTotal legs) .usd)| ≤ holdPickupEpsilon .usd :=
      abs_max_roundTo_sub_le (by norm_num [centsOf]) (by norm_num [centsOf, holdPickupEpsilon]) (by linarith)
    have lbpNear : |max 0 (roundTo (centsOf .lbp) (part owed .lbp - part (legTotal legs) .lbp)) -
        (part owed .lbp - part (legTotal legs) .lbp)| ≤ holdPickupEpsilon .lbp :=
      abs_max_roundTo_sub_le (by norm_num [centsOf]) (by norm_num [centsOf, holdPickupEpsilon]) (by linarith)
    have isKept : keptAmount { kept := ((holdPickupKeptPerCurrency owed (legs.map fun leg => { leg with isOut := false })).kept .usd,
        (holdPickupKeptPerCurrency owed (legs.map fun leg => { leg with isOut := false })).kept .lbp) } =
        (max 0 (roundTo (centsOf .usd) (part owed .usd - part (legTotal legs) .usd)),
          max 0 (roundTo (centsOf .lbp) (part owed .lbp - part (legTotal legs) .lbp))) := by
      rw [← handedIn_eq, ← handedIn_eq]
      exact add_zero _
    rw [isKept]
    have near : |usdEquivalent (max 0 (roundTo (centsOf .usd) (part owed .usd - part (legTotal legs) .usd)),
        max 0 (roundTo (centsOf .lbp) (part owed .lbp - part (legTotal legs) .lbp))) common.rate.value -
        (usdEquivalent owed common.rate.value - value legs common.rate)| ≤ cents common.rate := by
      rw [value, ← usdEquivalent_sub]
      exact usdEquivalent_near usdNear lbpNear
    exact ⟨⟨le_max_left _ _, le_max_left _ _⟩, by linarith [(abs_le.mp near).2], near, isSome, refuseIf_ok drawers⟩

theorem PaymentKeeps.nothing_from_others {rate : Rate} (payment : PaymentKeeps isDrawerAffectingMethod rate inLegs outLegs expected kept)
    (none : ∀ leg ∈ inLegs, isDrawer isDrawerAffectingMethod leg = false) : usdEquivalent kept rate.value ≤ keptTolerance kept rate := by
  have nothing : drawerExcess isDrawerAffectingMethod rate inLegs outLegs expected ≤ 0 := drawerExcess_none none
  linarith [payment.funded]

theorem PayoutKeeps.some_drawer {rate : Rate} {legs : List ReconciliationLeg} {owed : UsdLbp} {rounding reconciliation : ℚ}
    (payout : PayoutKeeps isDrawerAffectingMethod rate legs owed kept rounding reconciliation)
    (none : ∀ leg ∈ legs, isDrawer isDrawerAffectingMethod leg = false) : False := by
  obtain ⟨leg, member⟩ := List.exists_mem_of_ne_nil legs payout.paid
  have drawers : ∀ leg ∈ legs, isDrawer isDrawerAffectingMethod leg = true := by simpa using payout.drawers
  have moves := drawers leg member
  rw [none leg member] at moves
  cases moves

/-- Whatever is kept is within the difference but for rounding, reconciles with it, and is left by the drawer lines but for
the same rounding. -/
theorem resolveKeptChange_drawerMoney {payer : KeptChangePayer}
    (done : resolveKeptChange isDrawerAffectingMethod formatMoneyAmount common payer = .ok result)
    (keeps : any (keptAmount result) = true) :
    RealDrawerMoney isDrawerAffectingMethod common.rate payer (keptAmount result) := by
  obtain ⟨kept, claimed, done⟩ := bind_ok done
  obtain ⟨_, -, done⟩ := bind_ok done
  have nonneg := readAmounts_ok claimed
  cases payer with
  | customer expected inLegs outLegs reduction =>
    obtain ⟨isKept, payment⟩ := resolveCustomer_ok done keeps
    rw [isKept]
    exact ⟨nonneg, payment.within, payment.reconciles, payment.funded, fun none => ⟨rfl, payment.nothing_from_others none⟩⟩
  | shop bill handed returned =>
    obtain ⟨isKept, payment⟩ := resolveShop_ok done keeps
    rw [isKept]
    exact ⟨nonneg, payment.within, payment.reconciles, payment.funded, fun none => ⟨rfl, payment.nothing_from_others none⟩⟩
  | payout owed currency legs outLegs =>
    obtain ⟨_, -, done⟩ := bind_ok done
    obtain ⟨isKept, c, rfl, payout⟩ := resolvePayout_ok nonneg done keeps
    rw [isKept]
    refine ⟨nonneg, payout.within, payout.reconciles, ?_, fun none => (payout.some_drawer none).elim⟩
    rw [drawerLeaves, payoutLeaves_all payout.drawers]
    exact payout.within
  | payoutPerCurrency owed legs outLegs =>
    obtain ⟨_, -, done⟩ := bind_ok done
    obtain ⟨keptNonneg, payout⟩ := resolvePerCurrencyPayout_ok done keeps
    refine ⟨keptNonneg, payout.within, payout.reconciles, ?_, fun none => (payout.some_drawer none).elim⟩
    rw [drawerLeaves, payoutLeaves_all payout.drawers]
    exact payout.within

/-- Cash of $20 for $10, with $5 put on the account and $5 kept. -/
def cashOverpaid : KeptChangePayer :=
  .customer (10, 0) [{ method := "CASH", currencyCode := .known .usd, amount := 20 }]
    [{ method := "CUSTOMER_ACCOUNT", currencyCode := .known .usd, amount := 5, isOut := true }] {}

def dollarRate : Rate :=
  ⟨89500, by norm_num⟩

def claiming (usd : ℚ) : KeptChangeCommon where
  context := "POS sale"
  exchangeRate := dollarRate
  claimedKept := some (usd, 0)

theorem resolveKeptChange_cashOverpaid :
    RealDrawerMoney (· = "CASH") (claiming 5).rate cashOverpaid (keptAmount { kept := (5, 0) }) := by
  have done : resolveKeptChange (· = "CASH") (fun _ _ => "") (claiming 5) cashOverpaid = .ok { kept := (5, 0) } := by
    decide +kernel
  exact resolveKeptChange_drawerMoney done (by decide +kernel)

/-- Half a cent is kept out of an account, where no drawer has taken anything. -/
theorem resolveKeptChange_accountHalfCent :
    let payer : KeptChangePayer :=
      .customer (999 / 200, 0) [{ method := "CUSTOMER_ACCOUNT", currencyCode := .known .usd, amount := 5 }] [] {}
    resolveKeptChange (· = "CASH") (fun _ _ => "") (claiming (1 / 200)) payer = .ok { kept := (1 / 200, 0) } ∧
      (∀ leg ∈ payingLegs payer, isDrawer (· = "CASH") leg = false) ∧
      drawerLeaves (· = "CASH") (claiming (1 / 200)).rate payer = 0 := by
  decide +kernel

end Liratek.Till.KeptFunding
