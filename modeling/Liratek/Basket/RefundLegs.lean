import Liratek.Basket.AccountFirst

/-! The legs of an item refund: each currency goes back in full, but for what is not worth a leg. -/

namespace Liratek.Basket.RefundLegs
open Lib Lib.Rounding Members MemberOwed ItemRefund AccountFirst
open Money.LargestRemainder (mathRound shareUnits sum_shareUnits shareUnits_near length_shareUnits)
open Checkout (currencyCode)

/-! A total shared out in whole units. -/

/-- Shares that are whole and not negative, and add up to the total. -/
structure SharedOut (c : CoverageCurrency) (total : ℚ) (shares : List ℚ) : Prop where
  sum : shares.sum = total
  nonneg : ∀ x ∈ shares, 0 ≤ x
  whole : ∀ x ∈ shares, WholeIn c x

theorem unit_mul (c : CoverageCurrency) (units : ℤ) : units * unit c = units / scale c := by
  rw [unit, mul_one_div]

theorem mathRound_units (units : ℤ) : mathRound (units : ℚ) = units := by
  rw [mathRound, ← round_eq, round_intCast]

theorem roundToUnit_whole {c : CoverageCurrency} {x : ℚ} (whole : WholeIn c x) : roundToUnit x (unit c) = x := by
  rw [roundToUnit_unit, roundAmount_of_whole whole]

theorem length_allocateExact (total : ℚ) (weights : List ℚ) (unit : ℚ) :
    (allocateExact total weights unit).length = weights.length := by
  unfold allocateExact
  dsimp only
  split_ifs
  · exact List.length_map _
  · rw [List.length_map, length_shareUnits, List.length_map]

theorem allocateExact_sharedOut {c : CoverageCurrency} {total : ℚ} {weights : List ℚ} (whole : WholeIn c total)
    (nonneg : 0 ≤ total) (weightsNonneg : ∀ w ∈ weights, 0 ≤ w) (some : 0 < weights.sum) :
    SharedOut c total (allocateExact total weights (unit c)) := by
  unfold allocateExact
  dsimp only
  rw [roundToUnit_whole whole]
  split_ifs with none
  · have zero : total = 0 := by
      rcases none with empty | weightless | worthless
      · rw [empty, List.sum_nil] at some
        exact absurd some (lt_irrefl 0)
      · exact absurd some (not_lt.mpr weightless)
      · exact le_antisymm worthless nonneg
    have zeros : ∀ x ∈ weights.map fun _ => (0 : ℚ), x = 0 := fun x member => by
      obtain ⟨-, -, rfl⟩ := List.mem_map.mp member
      rfl
    exact ⟨(List.sum_eq_zero zeros).trans zero.symm, fun x member => (zeros x member).ge,
      fun x member => zeros x member ▸ whole_zero _⟩
  · obtain ⟨units, rfl⟩ := whole
    have positive := scale_pos c
    have inUnits : (units : ℚ) / scale c / unit c = units := by
      rw [unit, div_div, mul_one_div, div_self positive.ne', div_one]
    have raw : (weights.map fun w => (units : ℚ) / scale c * (w / weights.sum) / unit c).sum = units := by
      have each : (weights.map fun w => (units : ℚ) / scale c * (w / weights.sum) / unit c) =
          weights.map fun w => w * (units / weights.sum) := by
        apply List.map_congr_left
        intro w _
        rw [mul_div_right_comm, inUnits]
        ring
      rw [each, List.sum_map_mul_right, List.map_id', mul_div_cancel₀ _ some.ne']
    rw [inUnits, mathRound_units]
    have each : ∀ u : ℤ, roundToUnit (u * unit c) (unit c) = u * unit c := fun u =>
      roundToUnit_whole ⟨u, unit_mul c u⟩
    simp only [each]
    refine ⟨?_, fun x member => ?_, fun x member => ?_⟩
    · have cast := map_list_sum (Int.castRingHom ℚ)
        (shareUnits (weights.map fun w => (units : ℚ) / scale c * (w / weights.sum) / unit c) units)
      rw [List.sum_map_mul_right]
      exact (congrArg (· * unit c) (cast.symm.trans (congrArg Int.cast (sum_shareUnits raw)))).trans (unit_mul c units)
    · obtain ⟨u, isUnits, rfl⟩ := List.mem_map.mp member
      refine mul_nonneg (Int.cast_nonneg ?_) (unit_pos c).le
      obtain ⟨i, bound, rfl⟩ := List.getElem_of_mem isUnits
      rw [length_shareUnits] at bound
      obtain ⟨u, here, low, -⟩ := shareUnits_near raw (List.getElem?_eq_getElem bound)
      rw [List.getElem_of_getElem? here |>.2]
      refine (Int.floor_nonneg.mpr ?_).trans low
      obtain ⟨w, inside, isShare⟩ := List.mem_map.mp (List.getElem_mem bound)
      rw [← isShare]
      exact div_nonneg (mul_nonneg nonneg (div_nonneg (weightsNonneg w inside) some.le)) (unit_pos c).le
    · obtain ⟨u, -, rfl⟩ := List.mem_map.mp member
      exact ⟨u, unit_mul c u⟩

/-! The legs. -/

/-- Legs of something, in whole units. -/
def LegsInUnits (legs : List TransactionPaymentLeg) : Prop :=
  ∀ leg ∈ legs, 0 ≤ leg.amount ∧ WholeIn leg.currency leg.amount

def amountIn (c : CoverageCurrency) (leg : TransactionPaymentLeg) : ℚ :=
  if leg.currency = c then leg.amount else 0

def legSum (legs : List TransactionPaymentLeg) (c : CoverageCurrency) : ℚ :=
  (legs.map (amountIn c)).sum

theorem legSum_append (first second : List TransactionPaymentLeg) (c : CoverageCurrency) :
    legSum (first ++ second) c = legSum first c + legSum second c := by
  rw [legSum, List.map_append, List.sum_append]
  rfl

theorem LegsInUnits.append {first second : List TransactionPaymentLeg} (left : LegsInUnits first)
    (right : LegsInUnits second) : LegsInUnits (first ++ second) :=
  List.forall_mem_append.mpr ⟨left, right⟩

theorem mergeLeg_inUnits {legs : List TransactionPaymentLeg} (inUnits : LegsInUnits legs) {leg : TransactionPaymentLeg}
    (nonneg : 0 ≤ leg.amount) (whole : WholeIn leg.currency leg.amount) : LegsInUnits (mergeLeg legs leg) := by
  induction legs with
  | nil => exact List.forall_mem_singleton.mpr ⟨nonneg, whole⟩
  | cons other rest ih =>
    obtain ⟨here, others⟩ := List.forall_mem_cons.mp inUnits
    rw [mergeLeg]
    split_ifs with same
    · simp only [sameDrawerLeg, Bool.and_eq_true, decide_eq_true_eq] at same
      exact List.forall_mem_cons.mpr ⟨⟨add_nonneg here.1 nonneg, here.2.add (same.2 ▸ whole)⟩, others⟩
    · exact List.forall_mem_cons.mpr ⟨here, ih others⟩

theorem mergeLeg_sum (legs : List TransactionPaymentLeg) (leg : TransactionPaymentLeg) (c : CoverageCurrency) :
    legSum (mergeLeg legs leg) c = legSum legs c + amountIn c leg := by
  induction legs with
  | nil => exact add_comm _ _
  | cons other rest ih =>
    rw [mergeLeg]
    split_ifs with same
    · simp only [sameDrawerLeg, Bool.and_eq_true, decide_eq_true_eq] at same
      have both : amountIn c { other with amount := other.amount + leg.amount } = amountIn c other + amountIn c leg := by
        unfold amountIn
        rw [same.2]
        split_ifs
        · rfl
        · exact (add_zero 0).symm
      rw [legSum, legSum, List.map_cons, List.map_cons, List.sum_cons, List.sum_cons, both]
      exact add_right_comm _ _ _
    · have more : legSum (other :: mergeLeg rest leg) c = amountIn c other + legSum (mergeLeg rest leg) c := rfl
      have fewer : legSum (other :: rest) c = amountIn c other + legSum rest c := rfl
      rw [more, fewer, ih, add_assoc]

theorem foldl_mergeLeg {legs merged : List TransactionPaymentLeg} (inUnits : LegsInUnits legs) (start : LegsInUnits merged) :
    LegsInUnits (legs.foldl mergeLeg merged) ∧
      ∀ c, legSum (legs.foldl mergeLeg merged) c = legSum merged c + legSum legs c := by
  induction legs generalizing merged with
  | nil => exact ⟨start, fun c => (add_zero _).symm⟩
  | cons leg rest ih =>
    obtain ⟨here, others⟩ := List.forall_mem_cons.mp inUnits
    obtain ⟨kept, sums⟩ := ih others (mergeLeg_inUnits start here.1 here.2)
    refine ⟨kept, fun c => (sums c).trans ?_⟩
    rw [mergeLeg_sum, add_assoc]
    rfl

/-- Less than a unit is nothing. -/
theorem dropped_zero {c : CoverageCurrency} {x : ℚ} (nonneg : 0 ≤ x) (whole : WholeIn c x) (small : x < unit c) : x = 0 := by
  by_contra some
  exact absurd (whole.unit_le (scale_pos c) (lt_of_le_of_ne nonneg (Ne.symm some))) (not_le.mpr small)

theorem filter_sum {legs : List TransactionPaymentLeg} {keep : TransactionPaymentLeg → Bool}
    (dropped : ∀ leg ∈ legs, keep leg = false → leg.amount = 0) (c : CoverageCurrency) :
    legSum (legs.filter keep) c = legSum legs c := by
  induction legs with
  | nil => rfl
  | cons leg rest ih =>
    obtain ⟨here, others⟩ := List.forall_mem_cons.mp dropped
    have whole : legSum (leg :: rest) c = amountIn c leg + legSum rest c := rfl
    rw [List.filter_cons, whole, ← ih others]
    rcases kept : keep leg with _ | _
    · have zero : amountIn c leg = 0 := by rw [amountIn, here kept, ite_self]
      rw [zero, zero_add]
      rfl
    · rfl

theorem mergeLegs_inUnits {legs : List TransactionPaymentLeg} (inUnits : LegsInUnits legs) :
    LegsInUnits (mergeLegs legs) ∧ ∀ c, legSum (mergeLegs legs) c = legSum legs c := by
  obtain ⟨kept, sums⟩ := foldl_mergeLeg inUnits (List.forall_mem_nil _)
  refine ⟨fun leg member => kept leg (List.mem_of_mem_filter member), fun c => ?_⟩
  refine (filter_sum (fun leg member small => ?_) c).trans ((sums c).trans (zero_add _))
  obtain ⟨nonneg, whole⟩ := kept leg member
  have least : (1 / 10000 : ℚ) < unit leg.currency := by
    cases leg.currency <;> norm_num [unit, scale]
  exact dropped_zero nonneg whole ((not_lt.mp (of_decide_eq_false small)).trans_lt least)

section
variable {s : Store} {isDrawerAffectingMethod : String → Bool} {cashDrawer : String} {sessionId : Nat}

theorem cashLeg_sum (c c' : CoverageCurrency) (amount : ℚ) :
    legSum [cashLeg cashDrawer c amount] c' = if c = c' then amount else 0 :=
  List.sum_singleton

/-- A leg for each share. -/
theorem shareLegs_inUnits {c : CoverageCurrency} {amount : ℚ} {shares : List ℚ} (shared : SharedOut c amount shares)
    {pooled : List Payment} (length : pooled.length = shares.length) :
    LegsInUnits ((pooled.zip shares).map fun share =>
        { method := share.1.method, drawerName := share.1.drawerName, currency := c, amount := share.2 }) ∧
      ∀ c', legSum ((pooled.zip shares).map fun share =>
        { method := share.1.method, drawerName := share.1.drawerName, currency := c, amount := share.2 }) c' =
          if c = c' then amount else 0 := by
  have amounts : (pooled.zip shares).map Prod.snd = shares := List.map_snd_zip length.ge
  refine ⟨fun leg member => ?_, fun c' => ?_⟩
  · obtain ⟨share, inside, rfl⟩ := List.mem_map.mp member
    have isShare : share.2 ∈ shares := amounts ▸ List.mem_map_of_mem inside
    exact ⟨shared.nonneg _ isShare, shared.whole _ isShare⟩
  · rw [legSum, List.map_map]
    by_cases same : c = c'
    · rw [if_pos same, ← shared.sum]
      refine (congrArg List.sum (List.map_congr_left fun share _ => ?_)).trans (congrArg List.sum amounts)
      exact if_pos same
    · rw [if_neg same]
      refine List.sum_eq_zero fun x member => ?_
      obtain ⟨share, -, rfl⟩ := List.mem_map.mp member
      exact if_neg same

theorem defaultSessionRefundLegs_inUnits {c : CoverageCurrency} {amount : ℚ} (nonneg : 0 ≤ amount) (whole : WholeIn c amount) :
    LegsInUnits (defaultSessionRefundLegs isDrawerAffectingMethod s cashDrawer sessionId amount c) ∧
      ∀ c', legSum (defaultSessionRefundLegs isDrawerAffectingMethod s cashDrawer sessionId amount c) c' =
        if c = c' then amount else 0 := by
  unfold defaultSessionRefundLegs
  dsimp only
  split_ifs with none noPool
  · refine ⟨List.forall_mem_nil _, fun c' => ?_⟩
    rw [le_antisymm none nonneg, ite_self]
    rfl
  · exact ⟨List.forall_mem_singleton.mpr ⟨nonneg, whole⟩, fun c' => cashLeg_sum c c' amount⟩
  · have weights : ∀ w ∈ (sessionPooledInLegs s sessionId isDrawerAffectingMethod c).map (·.amount), 0 ≤ w := fun w member => by
      obtain ⟨p, inside, rfl⟩ := List.mem_map.mp member
      have kept := (List.mem_filter.mp inside).2
      simp only [Bool.and_eq_true, decide_eq_true_eq] at kept
      exact kept.1.2.le
    have shared := allocateExact_sharedOut whole nonneg weights (not_le.mp noPool)
    have length : (sessionPooledInLegs s sessionId isDrawerAffectingMethod c).length =
        (allocateExact amount ((sessionPooledInLegs s sessionId isDrawerAffectingMethod c).map (·.amount)) (unit c)).length := by
      rw [length_allocateExact, List.length_map]
    obtain ⟨kept, sums⟩ := shareLegs_inUnits shared length
    refine ⟨fun leg member => kept leg (List.mem_of_mem_filter member), fun c' => ?_⟩
    refine (filter_sum (fun leg member small => ?_) c').trans (sums c')
    obtain ⟨nonneg', whole'⟩ := kept leg member
    have isIn : leg.currency = c := by
      obtain ⟨share, -, rfl⟩ := List.mem_map.mp member
      rfl
    rw [isIn] at whole'
    have least : pair (1 / 10000) 0 c < unit c := by
      cases c <;> norm_num [pair, unit, scale]
    exact dropped_zero nonneg' whole' ((not_lt.mp (of_decide_eq_false small)).trans_lt least)

/-- What the client gets back in cash of what the account was repaid. -/
def cashBack (repaidBack : Amounts) : Amounts :=
  fun c => if dust c < repaidBack c then repaidBack c else 0

theorem repaidBackLegs_inUnits {repaidBack : Amounts} (nonneg : ∀ c, 0 ≤ repaidBack c)
    (whole : ∀ c, WholeIn c (repaidBack c)) :
    LegsInUnits (repaidBackLegs cashDrawer repaidBack) ∧
      ∀ c, legSum (repaidBackLegs cashDrawer repaidBack) c = cashBack repaidBack c := by
  have one (c : CoverageCurrency) : LegsInUnits (if dust c < repaidBack c then
        [cashLeg cashDrawer c (roundToUnit (repaidBack c) (unit c))] else []) ∧
      ∀ c', legSum (if dust c < repaidBack c then
        [cashLeg cashDrawer c (roundToUnit (repaidBack c) (unit c))] else []) c' = if c = c' then cashBack repaidBack c else 0 := by
    rw [roundToUnit_whole (whole c), cashBack]
    split_ifs with some
    · exact ⟨List.forall_mem_singleton.mpr ⟨nonneg c, whole c⟩, fun c' => cashLeg_sum c c' _⟩
    · exact ⟨List.forall_mem_nil _, fun c' => (ite_self 0).symm⟩
  obtain ⟨usdKept, usd⟩ := one .usd
  obtain ⟨lbpKept, lbp⟩ := one .lbp
  unfold repaidBackLegs
  rw [List.flatMap_cons, List.flatMap_singleton]
  refine ⟨usdKept.append lbpKept, fun c => ?_⟩
  rw [legSum_append, usd, lbp]
  cases c with
  | usd => exact add_zero _
  | lbp => exact zero_add _

theorem planDefaultLegs_inUnits {plan : Plan} (splitNonneg : ∀ c, 0 ≤ plan.poolSplit c)
    (splitWhole : ∀ c, WholeIn c (plan.poolSplit c)) (repaidNonneg : ∀ c, 0 ≤ plan.repaidBack c)
    (repaidWhole : ∀ c, WholeIn c (plan.repaidBack c)) :
    LegsInUnits (planDefaultLegs isDrawerAffectingMethod s cashDrawer sessionId plan) ∧
      ∀ c, legSum (planDefaultLegs isDrawerAffectingMethod s cashDrawer sessionId plan) c =
        plan.poolSplit c + cashBack plan.repaidBack c := by
  obtain ⟨usdKept, usd⟩ := defaultSessionRefundLegs_inUnits (splitNonneg .usd) (splitWhole .usd)
  obtain ⟨lbpKept, lbp⟩ := defaultSessionRefundLegs_inUnits (splitNonneg .lbp) (splitWhole .lbp)
  obtain ⟨cashKept, cash⟩ := repaidBackLegs_inUnits repaidNonneg repaidWhole
  obtain ⟨kept, sums⟩ := mergeLegs_inUnits ((usdKept.append lbpKept).append cashKept)
  refine ⟨kept, fun c => (sums c).trans ?_⟩
  rw [legSum_append, legSum_append, usd, lbp, cash]
  cases c with
  | usd => exact congrArg (· + _) (add_zero _)
  | lbp => exact congrArg (· + _) (zero_add _)

end

end Liratek.Basket.RefundLegs
