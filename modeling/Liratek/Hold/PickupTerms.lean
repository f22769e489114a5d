import Liratek.Hold.HeldMoney

/-! What is handed out in a pickup is what is returned, less what is kept and with what it is rounded up by. -/

namespace Liratek.Hold.PickupTerms
open Lib.Calls Lib.Rounding Till.KeptChange Till.KeptFunding Till.CustomerLegs Till.Payouts HeldMoney
open Voucher.Vouchers (Currency UsdLbp Rate amountIn usdEquivalent keptChangeRoundingTolerance legReconciliationEpsilonUsd)

/-- How far the money of a pickup may be from its terms: twice the tolerance of the lines, and cents and lira. -/
def pickupTolerance (rate : Rate) : ℚ :=
  2 * legReconciliationEpsilonUsd + 2 * cents rate

variable {env : Setting} {data : CollectHoldInput} {portion : UsdLbp} {terms : Terms}

def customerLines (terms : Terms) : List ReconciliationLeg :=
  (terms.added.measured.map (·.drawerLegs)).getD []

/-- What the lines of a payout are worth; cash for the portion when there are none. -/
def payoutWorth (rate : Rate) (data : CollectHoldInput) (portion : UsdLbp) : ℚ :=
  if data.legs = [] then usdEquivalent portion rate.value else value (nonEmpty data.legs) rate

theorem usdEquivalent_parts (rate : Rate) (amounts : UsdLbp) (c : Currency) :
    usdEquivalent amounts rate.value = inUsd rate c (part amounts c) + inUsd rate (otherCurrency c) (part amounts (otherCurrency c)) := by
  unfold inUsd
  simp only [usdEquivalent_eq]
  cases c <;> simp only [amountIn, part, otherCurrency] <;> ring

theorem cents_eq (rate : Rate) (c : Currency) :
    cents rate = inUsd rate c (holdPickupEpsilon c) + inUsd rate (otherCurrency c) (holdPickupEpsilon (otherCurrency c)) := by
  have whole := usdEquivalent_parts rate (holdPickupEpsilon .usd, holdPickupEpsilon .lbp) c
  cases c <;> exact whole

/-- The tolerance of a claim is half of that of a portion. -/
theorem inUsd_tolerance (rate : Rate) (c : Currency) :
    2 * inUsd rate c (keptChangeRoundingTolerance c) = inUsd rate c (holdPickupEpsilon c) := by
  rw [two_mul, ← inUsd_add]
  congr 1
  cases c <;> norm_num [keptChangeRoundingTolerance, holdPickupEpsilon]

/-- In a pickup of one currency nothing of the other one is returned. -/
theorem other_le (one : returnsBoth portion = false) :
    part portion (otherCurrency (pickupCurrency portion)) ≤ holdPickupEpsilon (otherCurrency (pickupCurrency portion)) := by
  have notBoth := Bool.and_eq_false_iff.mp one
  unfold pickupCurrency
  split_ifs with lbp
  · exact not_lt.mp (of_decide_eq_false (notBoth.resolve_right (by rw [lbp]; decide)))
  · exact not_lt.mp (of_decide_eq_false (Bool.eq_false_iff.mpr lbp))

theorem nonneg_part (nonneg : 0 ≤ portion.1 ∧ 0 ≤ portion.2) (c : Currency) : 0 ≤ part portion c := by
  cases c
  · exact nonneg.1
  · exact nonneg.2

theorem part_amountIn (c : Currency) (amount : ℚ) : part (amountIn c amount) c = amount := by
  cases c <;> rfl

/-- What is counted as added is near the customer's lines. -/
theorem added_near {c : Currency} {rate : Rate} {legs : List ReconciliationLeg} {claim : ℚ} {added : AddedChange}
    (adds : Adds rate legs claim c added) :
    |linesWorth rate legs - inUsd rate c (part added.amount c)| ≤ legReconciliationEpsilonUsd + inUsd rate c (holdPickupEpsilon c) := by
  have lines := abs_le.mp adds.near
  have rounded := abs_le.mp (abs_inUsd_roundTo_sub_le rate c claim)
  have twice := inUsd_tolerance rate c
  rw [adds.amount, part_amountIn, abs_le]
  constructor <;> linarith [lines.1, lines.2, rounded.1, rounded.2]

/-- The customer's lines of the terms, and what they are counted for in the pickup's currency. -/
structure AddedTo (rate : Rate) (portion : UsdLbp) (added : AddedChange) : Prop where
  near : |linesWorth rate ((added.measured.map (·.drawerLegs)).getD []) - inUsd rate (pickupCurrency portion) (part added.amount (pickupCurrency portion))| ≤
    legReconciliationEpsilonUsd + inUsd rate (pickupCurrency portion) (holdPickupEpsilon (pickupCurrency portion))
  nonneg : 0 ≤ part added.amount (pickupCurrency portion)
  oneCurrency : returnsBoth portion = true → added = {}

theorem inUsd_zero (rate : Rate) (c : Currency) : inUsd rate c 0 = 0 := by
  cases c <;> exact usdEquivalent_zero rate

theorem inUsd_nonneg (rate : Rate) (c : Currency) {amount : ℚ} (nonneg : 0 ≤ amount) : 0 ≤ inUsd rate c amount := by
  have mono := inUsd_mono rate c nonneg
  rwa [inUsd_zero] at mono

theorem epsilon_nonneg (c : Currency) : 0 ≤ holdPickupEpsilon c := by
  cases c <;> norm_num [holdPickupEpsilon]

theorem addedTo {added : AddedChange}
    (done : resolveAddedChange env.isDrawerAffectingMethod env.numberText env.derivedText (data.common env)
      { legs := data.customerPayments, expected := ⟨0, .known (pickupCurrency portion)⟩
        payoutCurrency := .known (pickupCurrency portion), claimed := data.addedChange, notAllowed := returnsBoth portion } = .ok added) :
    AddedTo (data.common env).rate portion added ∧ (added = {} ∨ added.measured.isSome = true) := by
  rcases resolveAddedChange_ok rfl rfl rfl done with ⟨rfl, -, -⟩ | ⟨-, one, adds⟩
  · have none : linesWorth (data.common env).rate [] - inUsd (data.common env).rate (pickupCurrency portion)
        (part ({} : AddedChange).amount (pickupCurrency portion)) = 0 := by
      have nothing : part ({} : AddedChange).amount (pickupCurrency portion) = 0 := by
        cases pickupCurrency portion <;> rfl
      rw [nothing, inUsd_zero]
      exact sub_zero 0
    refine ⟨⟨?_, ?_, fun _ => rfl⟩, .inl rfl⟩
    · change |linesWorth (data.common env).rate [] - _| ≤ _
      rw [none, abs_zero]
      exact add_nonneg (by norm_num [legReconciliationEpsilonUsd]) (inUsd_nonneg _ _ (epsilon_nonneg _))
    · cases pickupCurrency portion <;> exact le_rfl
  · have isSome : added.measured.isSome = true := by
      have lines := adds.lines
      cases measured : added.measured with
      | none =>
        rw [measured] at lines
        cases lines
      | some _ => rfl
    refine ⟨⟨?_, ?_, fun both => ?_⟩, .inr isSome⟩
    · rw [adds.lines]
      exact added_near adds
    · rw [adds.amount, part_amountIn]
      exact roundTo_nonneg (by cases pickupCurrency portion <;> norm_num [centsOf]) adds.above.le
    · rw [show returnsBoth portion = false from one] at both
      cases both

/-- What the customer adds, less what is handed out, makes up for the portion, what is kept and the round-up. -/
def OnTerms (rate : Rate) (data : CollectHoldInput) (portion : UsdLbp) (terms : Terms) : Prop :=
  |linesWorth rate (customerLines terms) - payoutWorth rate data portion + usdEquivalent portion rate.value -
    usdEquivalent terms.kept rate.value + usdEquivalent terms.rounding rate.value| ≤ pickupTolerance rate

theorem tolerance_nonneg (rate : Rate) : 0 ≤ pickupTolerance rate := by
  have some : 0 ≤ cents rate := by
    rw [cents_eq rate .usd]
    exact add_nonneg (inUsd_nonneg _ _ (epsilon_nonneg _)) (inUsd_nonneg _ _ (epsilon_nonneg _))
  unfold pickupTolerance legReconciliationEpsilonUsd
  linarith

/-- A pickup of one currency whose payout is near what is owed and added. -/
theorem onTerms_of_one {rate : Rate} (nonneg : 0 ≤ portion.1 ∧ 0 ≤ portion.2) (one : returnsBoth portion = false)
    (added : AddedTo rate portion terms.added) (hasLines : data.legs ≠ [])
    (near : |usdEquivalent terms.kept rate.value - usdEquivalent terms.rounding rate.value -
      (inUsd rate (pickupCurrency portion) (part portion (pickupCurrency portion) + part terms.added.amount (pickupCurrency portion)) -
        value (nonEmpty data.legs) rate)| ≤
      legReconciliationEpsilonUsd + inUsd rate (pickupCurrency portion) (holdPickupEpsilon (pickupCurrency portion))) :
    OnTerms rate data portion terms := by
  have whole := usdEquivalent_parts rate portion (pickupCurrency portion)
  have tolerance := cents_eq rate (pickupCurrency portion)
  have otherLe := inUsd_mono rate (otherCurrency (pickupCurrency portion)) (other_le one)
  have other0 := inUsd_nonneg rate (otherCurrency (pickupCurrency portion)) (nonneg_part nonneg (otherCurrency (pickupCurrency portion)))
  have other1 := inUsd_nonneg rate (otherCurrency (pickupCurrency portion)) (epsilon_nonneg (otherCurrency (pickupCurrency portion)))
  have lines := abs_le.mp added.near
  have paid := abs_le.mp near
  rw [inUsd_add] at paid
  unfold OnTerms payoutWorth pickupTolerance customerLines
  rw [if_neg hasLines, whole, abs_le]
  constructor <;> linarith [lines.1, lines.2, paid.1, paid.2]

/-- Change cannot be kept out of no lines. -/
theorem keeps_refused {owed : ℚ} {result : KeptChangeResult} (none : data.legs = []) (claims : any data.keptChange = true)
    (done : resolveKeptChange env.isDrawerAffectingMethod env.formatMoneyAmount (data.common env) (pickupPayer portion owed data.legs) =
      .ok result) : False := by
  obtain ⟨kept, claimed, done⟩ := bind_ok done
  obtain ⟨_, -, done⟩ := bind_ok done
  obtain ⟨_, -, rfl⟩ := map_ok claimed
  unfold pickupPayer at done
  rw [none] at done
  split_ifs at done with both
  · obtain ⟨_, -, done⟩ := bind_ok done
    unfold resolvePerCurrencyPayout at done
    rw [show any ((data.common env).claimedKept.getD 0) = true from claims] at done
    cases done
  · obtain ⟨_, -, done⟩ := bind_ok done
    unfold resolvePayout at done
    rw [show any ((data.common env).claimedKept.getD 0) = true from claims] at done
    cases done

theorem resolvePickup_onTerms (done : resolvePickup env data portion = .ok terms) (nonneg : 0 ≤ portion.1 ∧ 0 ≤ portion.2)
    (entered : data.legs = [] ∨ nonEmpty data.legs ≠ []) : OnTerms (data.common env).rate data portion terms := by
  obtain ⟨added, resolved, done⟩ := bind_ok done
  obtain ⟨_, notCash, done⟩ := bind_ok done
  obtain ⟨addedTo, noneOrSome⟩ := addedTo resolved
  have rate := (data.common env).rate
  have owed0 : 0 ≤ part portion (pickupCurrency portion) + part added.amount (pickupCurrency portion) :=
    add_nonneg (nonneg_part nonneg _) addedTo.nonneg
  rcases entered with none | some'
  · -- no lines: cash for the portion, and nothing else can be claimed
    have empty : nonEmpty data.legs = [] := by
      rw [none]
      rfl
    have notAdded : added = {} := by
      refine noneOrSome.resolve_right fun isSome => ?_
      have refused := refuseIf_ok notCash
      rw [isSome, empty] at refused
      cases refused
    have nothing : terms = {} := by
      split_ifs at done with rounds claims
      · obtain ⟨given, up, -⟩ := map_ok done
        obtain ⟨-, -, to', up⟩ := resolveRoundingGiven_ok up rounds
        have drawers := up.drawers
        rw [show nonEmpty data.legs = [] from empty] at drawers
        cases drawers
      · obtain ⟨result, kept, -⟩ := map_ok done
        rw [none, List.isEmpty_nil, Bool.not_true, Bool.false_or] at claims
        exact (keeps_refused none claims kept).elim
      · obtain rfl := Except.ok.inj done
        rw [notAdded]
    rw [nothing]
    unfold OnTerms payoutWorth
    rw [if_pos none]
    have zero : linesWorth (data.common env).rate (customerLines {}) = 0 := rfl
    rw [zero, usdEquivalent_zero, zero_sub, neg_add_cancel, sub_zero, add_zero, abs_zero]
    exact tolerance_nonneg _
  · have hasLines : data.legs ≠ [] := by
      rintro none
      rw [none] at some'
      exact some' rfl
    split_ifs at done with rounds claims
    · obtain ⟨given, up, rfl⟩ := map_ok done
      obtain ⟨-, one, to', up⟩ := resolveRoundingGiven_ok up rounds
      have near := up.near
      obtain rfl : pickupCurrency portion = to' := CurrencyCode.known.inj up.currency
      refine onTerms_of_one nonneg one addedTo hasLines ?_
      have half := inUsd_tolerance (data.common env).rate (pickupCurrency portion)
      have half0 := inUsd_nonneg (data.common env).rate (pickupCurrency portion) (epsilon_nonneg (pickupCurrency portion))
      have near := abs_le.mp near
      dsimp only at near
      rw [abs_of_nonneg owed0] at near
      have none : usdEquivalent ({ rounding := given, added } : Terms).kept (data.common env).rate.value = 0 := usdEquivalent_zero _
      rw [none, abs_le]
      dsimp only
      constructor <;> linarith [near.1, near.2]
    · obtain ⟨result, kept, rfl⟩ := map_ok done
      have none : usdEquivalent ({ kept := result.kept, added } : Terms).rounding (data.common env).rate.value = 0 := usdEquivalent_zero _
      unfold pickupPayer at kept
      split_ifs at kept with both
      · have near := abs_le.mp (resolveKeptChange_perCurrency some' kept)
        obtain rfl := addedTo.oneCurrency both
        have zero : linesWorth (data.common env).rate (customerLines { kept := result.kept, added := {} }) = 0 := rfl
        have eps : 0 ≤ cents (data.common env).rate := by
          rw [cents_eq _ .usd]
          exact add_nonneg (inUsd_nonneg _ _ (epsilon_nonneg _)) (inUsd_nonneg _ _ (epsilon_nonneg _))
        unfold OnTerms payoutWorth pickupTolerance legReconciliationEpsilonUsd
        rw [if_neg hasLines, zero, none]
        unfold legReconciliationEpsilonUsd at near
        dsimp only
        rw [abs_le]
        constructor <;> linarith [near.1, near.2]
      · refine onTerms_of_one nonneg (Bool.eq_false_iff.mpr both) addedTo hasLines ?_
        have near := resolveKeptChange_payout some' kept
        rw [abs_of_nonneg owed0] at near
        have eps := inUsd_nonneg (data.common env).rate (pickupCurrency portion) (epsilon_nonneg (pickupCurrency portion))
        rw [none, sub_zero]
        exact near.trans (le_add_of_nonneg_right eps)
    · exact absurd (by rw [List.isEmpty_eq_false_iff.mpr hasLines]; rfl) claims

/-- A round-up is never less than nothing. -/
theorem rounding_nonneg (done : resolvePickup env data portion = .ok terms) : 0 ≤ terms.rounding := by
  obtain ⟨added, -, done⟩ := bind_ok done
  obtain ⟨_, -, done⟩ := bind_ok done
  split_ifs at done with rounds claims
  · obtain ⟨given, up, rfl⟩ := map_ok done
    obtain ⟨-, -, to', up⟩ := resolveRoundingGiven_ok up rounds
    have units : 0 < centsOf to' := by
      cases to' <;> norm_num [centsOf]
    have rounded := roundTo_nonneg units up.above.le
    change 0 ≤ given
    rw [up.given]
    cases to'
    · exact ⟨rounded, le_rfl⟩
    · exact ⟨le_rfl, rounded⟩
  · obtain ⟨result, -, rfl⟩ := map_ok done
    exact le_rfl
  · obtain rfl := Except.ok.inj done
    exact le_rfl

theorem linesWorth_writes {measured : MeasuredCustomerLegs} {write : WriteCustomerLegsInput} {writes : CustomerWrites}
    (done : writeCustomerLegs write measured = .ok writes) (rate : Rate) :
    (writes.payments.map fun row => worthIn rate row.currencyCode row.amount).sum = linesWorth rate measured.drawerLegs := by
  obtain ⟨_, -, rfl⟩ := map_ok done
  dsimp only
  rw [List.map_map]
  rfl

theorem sum_addedPostings {postings : List Posting} (done : addedPostings env terms.added.measured = .ok postings) (rate : Rate) :
    (postings.map fun posting => worthIn rate posting.currencyCode posting.amount).sum = linesWorth rate (customerLines terms) := by
  unfold customerLines
  cases measured : terms.added.measured with
  | none =>
    rw [measured] at done
    obtain rfl := Except.ok.inj done
    rfl
  | some measured' =>
    rw [measured] at done
    obtain ⟨writes, written, rfl⟩ := map_ok done
    have sums := linesWorth_writes written rate
    rw [List.map_map]
    exact sums

end Liratek.Hold.PickupTerms
