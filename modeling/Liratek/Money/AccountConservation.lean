import Liratek.Money.AccountStages
import Mathlib.Algebra.BigOperators.Ring.Finset

/-! No minor unit of an account settlement is lost or counted twice. -/

namespace Liratek.Money.AccountSettle
open FifoCoverage Lib.Coverage

variable {input : AllocInput}

/-! What one pass moves. -/

section
variable {l l' : Ledger} {pool : List Nat} {s budget : ℤ} {takes : List (FifoTake Nat ℤ)} {added : List Take}

/-- Every covered row moves towards zero on the side of the pass. -/
theorem Round.rem_of_side (sane : Sane input l) (round : Round input l l' pool s budget takes added) (i : Nat) :
    l'.rem i = l.rem i - s * takeOf takes i := by
  rw [round.rem]
  by_cases covered : takeOf takes i = 0
  · rw [covered, mul_zero, mul_zero]
  · rw [round.side_of_covered sane covered]

theorem Round.sum_rem (sane : Sane input l) (round : Round input l l' pool s budget takes added) (places : List Nat) :
    (places.map l'.rem).sum = (places.map l.rem).sum - s * (places.map (takeOf takes)).sum := by
  induction places with
  | nil => simp
  | cons i rest ih =>
    simp only [List.map_cons, List.sum_cons]
    rw [ih, round.rem_of_side sane]
    ring

/-- Places that hold the pool see all it takes. -/
theorem Round.sum_rem_of_inside (sane : Sane input l) (round : Round input l l' pool s budget takes added)
    {places : List Nat} (distinct : places.Nodup) (holds : ∀ i ∈ pool, i ∈ places) :
    (places.map l'.rem).sum = (places.map l.rem).sum - s * totalTake takes := by
  rw [round.sum_rem sane, sum_takeOf distinct fun t member =>
    holds t.id (round.covers.ids.subset (List.mem_map_of_mem member))]

/-- Places away from the pool see nothing. -/
theorem Round.sum_rem_of_outside (sane : Sane input l) (round : Round input l l' pool s budget takes added)
    {places : List Nat} (apart : ∀ i ∈ pool, i ∉ places) : (places.map l'.rem).sum = (places.map l.rem).sum := by
  have none : (places.map (takeOf takes)).sum = 0 := by
    have zero : places.map (takeOf takes) = places.map fun _ => 0 :=
      List.map_congr_left fun i member => round.outside fun inside => apart i inside member
    rw [zero, List.sum_map_zero]
  rw [round.sum_rem sane, none, mul_zero, sub_zero]

theorem Round.orig_of_covered (sane : Sane input l) (round : Round input l l' pool s budget takes added) {i : Nat}
    (covered : takeOf takes i ≠ 0) : 0 < s * orig input i := by
  have same := round.side_of_covered sane covered
  have room := round.amount_le sane i
  have positive := lt_of_le_of_ne (round.covers.takeOf_nonneg i) covered.symm
  have nonneg := sane.nonneg i
  rw [← side_mul_cap i, same, ← mul_assoc, round.isSide.mul_self, one_mul]
  omega

end

/-- What the rows hold together. -/
def owed (input : AllocInput) (l : Ledger) : ℤ :=
  ((indices input).map l.rem).sum

theorem indices_distinct (input : AllocInput) : (indices input).Nodup :=
  (indices_increasing input).imp fun less => less.ne

theorem Round.owed {l l' : Ledger} {pool : List Nat} {s budget : ℤ} {takes : List (FifoTake Nat ℤ)} {added : List Take}
    (sane : Sane input l) (isPool : Pool input pool) (round : Round input l l' pool s budget takes added) :
    owed input l' = owed input l - s * totalTake takes :=
  round.sum_rem_of_inside sane (indices_distinct input) fun _ member => isPool.inside.subset member

theorem Netting.owed {l l' mid : Ledger} {debtPool creditPool : List Nat} {n : ℤ} {debits credits : List (FifoTake Nat ℤ)}
    (netting : Netting input l l' debtPool creditPool n mid debits credits) (sane : Sane input l)
    (debts : Pool input debtPool) (creds : Pool input creditPool) : owed input l' = owed input l := by
  rw [netting.credit.owed (netting.debit.sane sane) creds, netting.debit.owed sane debts, netting.debitTotal,
    netting.creditTotal]
  ring

theorem owed_credited (standard : StandardEps input) : owed input (credited input).1 = owed input (opening input) := by
  obtain ⟨mid₁, debits₁, credits₁, first⟩ := dayNetted_netting standard
  obtain ⟨mid₂, debits₂, credits₂, second⟩ := accountNetted_netting standard
  obtain ⟨n, mid₃, debits₃, credits₃, third⟩ := netted_netting standard
  obtain ⟨mid₄, debits₄, credits₄, chosen⟩ := credited_netting standard
  calc owed input (credited input).1
      = owed input (netted input) :=
        chosen.owed (kept_netted standard).sane (pool_scopeIdx input) (pool_acctCreditIdx input)
    _ = owed input (accountNetted input).1 :=
        third.owed (kept_accountNetted standard).sane (pool_acctDebtIdx input) (pool_rowIdx input)
    _ = owed input (dayNetted input).1 :=
        second.owed (kept_dayNetted standard).sane (pool_acctDebtIdx input) (pool_acctCreditIdx input)
    _ = owed input (opening input) := first.owed sane_opening (pool_rowIdx input) (pool_rowIdx input)

theorem creditTakes_side (input : AllocInput) :
    -1 * totalTake (creditTakes input) = totalTake (creditTakes input) * budgetSign input := by
  rcases isSide_budgetSign input with paying | receiving
  · have none : totalTake (creditTakes input) = 0 := by rw [creditTakes_of_pay paying, totalTake, List.map_nil, List.sum_nil]
    rw [none, mul_zero, zero_mul]
  · rw [receiving, mul_comm]

theorem totalTake_append (xs ys : List (FifoTake Nat ℤ)) : totalTake (xs ++ ys) = totalTake xs + totalTake ys := by
  rw [totalTake, List.map_append, List.sum_append, totalTake, totalTake]

theorem appliedMinor_eq (input : AllocInput) : appliedMinor input = totalTake (budgetTakes input) * budgetSign input := by
  unfold appliedMinor
  split_ifs with empty
  · obtain ⟨noScope, noCredit⟩ := no_takes empty
    rw [budgetTakes, noScope, noCredit]
    exact (zero_mul _).symm
  · rfl

/-- The rows move by what the budget applied. -/
theorem owed_settled (standard : StandardEps input) :
    owed input (settled input) = owed input (opening input) - appliedMinor input := by
  obtain ⟨mid, scopeAdded, creditAdded, steps⟩ := budgeted standard
  have sane := (kept_credited standard).sane
  rw [steps.credit.owed (steps.scope.sane sane) (pool_acctCreditIdx input), steps.scope.owed sane (pool_scopeIdx input),
    owed_credited standard, appliedMinor_eq, budgetTakes, totalTake_append, add_mul, ← creditTakes_side]
  ring

/-! What netting puts on debts it puts on credits. -/

/-- Netting takes on rows of a kind. -/
def nettedOn (input : AllocInput) (kind : ℤ → Bool) (takes : List Take) : ℤ :=
  ((takes.filter fun t => t.source = .netting && kind (orig input t.i)).map (·.m)).sum

def isDebt (m : ℤ) : Bool :=
  0 < m

def isCredit (m : ℤ) : Bool :=
  m < 0

theorem nettedOn_append (kind : ℤ → Bool) (xs ys : List Take) :
    nettedOn input kind (xs ++ ys) = nettedOn input kind xs + nettedOn input kind ys := by
  unfold nettedOn
  rw [List.filter_append, List.map_append, List.sum_append]

theorem nettedOn_sourced {kind : ℤ → Bool} {takes : List (FifoTake Nat ℤ)} (answer : Bool)
    (alike : ∀ t ∈ takes, kind (orig input t.id) = answer) :
    nettedOn input kind (takes.map (sourced .netting)) = if answer then totalTake takes else 0 := by
  unfold nettedOn totalTake
  cases answer with
  | true =>
    rw [List.filter_eq_self.mpr, List.map_map]
    · rfl
    · intro a member
      obtain ⟨t, inside, rfl⟩ := List.mem_map.mp member
      exact alike t inside
  | false =>
    rw [List.filter_eq_nil_iff.mpr]
    · rfl
    · intro a member
      obtain ⟨t, inside, rfl⟩ := List.mem_map.mp member
      rw [Bool.not_eq_true]
      exact alike t inside

theorem takeOf_ne_zero {takes : List (FifoTake Nat ℤ)} (positive : ∀ t ∈ takes, 0 < t.take) {t : FifoTake Nat ℤ}
    (member : t ∈ takes) : takeOf takes t.id ≠ 0 := by
  rw [← placed_sourced .netting]
  have inside : sourced .netting t ∈ takes.map (sourced .netting) := List.mem_map_of_mem member
  refine (placed_pos (fun a isThere => ?_) inside).ne'
  obtain ⟨t', here, rfl⟩ := List.mem_map.mp isThere
  exact positive t' here

/-- What a netting adds to the takes. -/
theorem Netting.added {l l' mid : Ledger} {debtPool creditPool : List Nat} {n : ℤ} {debits credits : List (FifoTake Nat ℤ)}
    (netting : Netting input l l' debtPool creditPool n mid debits credits) :
    l'.takes = l.takes ++ (debits.map (sourced .netting) ++ credits.map (sourced .netting)) :=
  (netting.debit.adds.trans netting.credit.adds).takes

theorem Netting.balanced {l l' mid : Ledger} {debtPool creditPool : List Nat} {n : ℤ}
    {debits credits : List (FifoTake Nat ℤ)} (netting : Netting input l l' debtPool creditPool n mid debits credits)
    (sane : Sane input l) (balanced : nettedOn input isDebt l.takes = nettedOn input isCredit l.takes) :
    nettedOn input isDebt l'.takes = nettedOn input isCredit l'.takes := by
  have onDebts : ∀ t ∈ debits, 0 < orig input t.id := fun t member => by
    simpa using netting.debit.orig_of_covered sane (takeOf_ne_zero netting.debit.covers.positive member)
  have onCredits : ∀ t ∈ credits, orig input t.id < 0 := fun t member => by
    simpa using netting.credit.orig_of_covered (netting.debit.sane sane)
      (takeOf_ne_zero netting.credit.covers.positive member)
  have debitDebts : nettedOn input isDebt (debits.map (sourced .netting)) = n := by
    rw [nettedOn_sourced true fun t member => decide_eq_true (onDebts t member)]
    exact netting.debitTotal
  have debitCredits : nettedOn input isCredit (debits.map (sourced .netting)) = 0 :=
    nettedOn_sourced false fun t member => decide_eq_false (onDebts t member).not_gt
  have creditDebts : nettedOn input isDebt (credits.map (sourced .netting)) = 0 :=
    nettedOn_sourced false fun t member => decide_eq_false (onCredits t member).not_gt
  have creditCredits : nettedOn input isCredit (credits.map (sourced .netting)) = n := by
    rw [nettedOn_sourced true fun t member => decide_eq_true (onCredits t member)]
    exact netting.creditTotal
  rw [netting.added]
  simp only [nettedOn_append]
  rw [debitDebts, debitCredits, creditDebts, creditCredits, balanced]
  ring

/-- The budget's own takes are no netting. -/
theorem nettedOn_of_budget (kind : ℤ → Bool) {added : List Take} (sources : ∀ a ∈ added, a.source ≠ .netting) :
    nettedOn input kind added = 0 := by
  unfold nettedOn
  rw [List.filter_eq_nil_iff.mpr]
  · rfl
  · intro a member
    simp [sources a member]

theorem netting_balanced (standard : StandardEps input) :
    nettedOn input isDebt (settled input).takes = nettedOn input isCredit (settled input).takes := by
  obtain ⟨mid₁, debits₁, credits₁, first⟩ := dayNetted_netting standard
  obtain ⟨mid₂, debits₂, credits₂, second⟩ := accountNetted_netting standard
  obtain ⟨n, mid₃, debits₃, credits₃, third⟩ := netted_netting standard
  obtain ⟨mid₄, debits₄, credits₄, chosen⟩ := credited_netting standard
  obtain ⟨mid, scopeAdded, creditAdded, steps⟩ := budgeted standard
  have before : nettedOn input isDebt (credited input).1.takes = nettedOn input isCredit (credited input).1.takes := by
    apply chosen.balanced (kept_netted standard).sane
    apply third.balanced (kept_accountNetted standard).sane
    apply second.balanced (kept_dayNetted standard).sane
    exact first.balanced sane_opening rfl
  rw [(steps.scope.adds.trans steps.credit.adds).takes, nettedOn_append isDebt (credited input).1.takes,
    nettedOn_append isCredit (credited input).1.takes, nettedOn_of_budget _ steps.sources, nettedOn_of_budget _ steps.sources, before]

/-! Each source gives at most what it has. -/

theorem Netting.sources {l l' mid : Ledger} {debtPool creditPool : List Nat} {n : ℤ}
    {debits credits : List (FifoTake Nat ℤ)} (netting : Netting input l l' debtPool creditPool n mid debits credits)
    (before : ∀ t ∈ l.takes, t.source = .netting) : ∀ t ∈ l'.takes, t.source = .netting := by
  intro t member
  rw [netting.added, ← List.map_append] at member
  rcases List.mem_append.mp member with old | fresh
  · exact before t old
  · obtain ⟨take, -, rfl⟩ := List.mem_map.mp fresh
    rfl

theorem credited_sources (standard : StandardEps input) : ∀ t ∈ (credited input).1.takes, t.source = .netting := by
  obtain ⟨mid₁, debits₁, credits₁, first⟩ := dayNetted_netting standard
  obtain ⟨mid₂, debits₂, credits₂, second⟩ := accountNetted_netting standard
  obtain ⟨n, mid₃, debits₃, credits₃, third⟩ := netted_netting standard
  obtain ⟨mid₄, debits₄, credits₄, chosen⟩ := credited_netting standard
  apply chosen.sources
  apply third.sources
  apply second.sources
  apply first.sources
  exact fun _ member => absurd member List.not_mem_nil

theorem sumFrom_settled (standard : StandardEps input) {source : CoverageSource} (notNetting : source ≠ .netting)
    {mid : Ledger} {scopeAdded creditAdded : List Take} (steps : Budgeted input mid scopeAdded creditAdded) :
    sumFrom source (settled input).takes = sumFrom source (scopeAdded ++ creditAdded) := by
  have none : sumFrom source (credited input).1.takes = 0 := by
    unfold sumFrom
    rw [List.filter_eq_nil_iff.mpr]
    · rfl
    · intro t member
      simp [credited_sources standard t member, notNetting.symm]
  rw [(steps.scope.adds.trans steps.credit.adds).takes, sumFrom_append, none, zero_add]

theorem waive_le (standard : StandardEps input) :
    sumFrom .waive (settled input).takes ≤ |toMinor input input.waive| := by
  obtain ⟨mid, scopeAdded, creditAdded, steps⟩ := budgeted standard
  rw [sumFrom_settled standard (by decide) steps]
  refine steps.waived.trans (max_le (abs_nonneg _) ?_)
  have size : |waiveMinor input * budgetSign input| = |toMinor input input.waive| := by
    have unit : ∀ s : ℤ, IsSide s → |s| = 1 := fun s isSide => by rcases isSide with rfl | rfl <;> rfl
    have signed : IsSide (waiveSign input) := by
      unfold waiveSign
      split
      · exact isSide_one
      · exact isSide_neg
      · split_ifs
        · exact isSide_neg
        · exact isSide_one
    rw [waiveMinor, abs_mul, abs_mul, abs_abs, unit _ signed, unit _ (isSide_budgetSign input), mul_one, mul_one]
  rw [← size]
  exact le_abs_self _

theorem commission_le (standard : StandardEps input) :
    sumFrom .commission (settled input).takes ≤ |toMinor input input.commission| := by
  obtain ⟨mid, scopeAdded, creditAdded, steps⟩ := budgeted standard
  rw [sumFrom_settled standard (by decide) steps]
  refine steps.commissioned.trans ?_
  unfold commissionCoverMinor
  split_ifs
  · exact le_rfl
  · exact abs_nonneg _

/-! The account credit. -/

theorem accountCreditAppliedMinor_eq (input : AllocInput) :
    accountCreditAppliedMinor input = (credited input).2 + totalTake (creditTakes input) := by
  unfold accountCreditAppliedMinor
  split_ifs with empty
  · rw [(no_takes empty).2]
    exact (add_zero _).symm
  · rfl

/-- The credit pool moves by the account credit applied. -/
theorem accountCredit_consumed (standard : StandardEps input) :
    ((acctCreditIdx input).map (settled input).rem).sum - ((acctCreditIdx input).map (netted input).rem).sum =
      accountCreditAppliedMinor input := by
  obtain ⟨mid₁, debits, credits, chosen⟩ := credited_netting standard
  obtain ⟨mid₂, scopeAdded, creditAdded, steps⟩ := budgeted standard
  have sane := (kept_netted standard).sane
  have sane' := (kept_credited standard).sane
  have distinct := (pool_acctCreditIdx input).distinct
  rw [steps.credit.sum_rem_of_inside (steps.scope.sane sane') distinct fun _ member => member,
    steps.scope.sum_rem_of_outside sane' fun i inScope inCredit => mem_scopeIdx_side inScope inCredit,
    chosen.credit.sum_rem_of_inside (chosen.debit.sane sane) distinct fun _ member => member,
    chosen.debit.sum_rem_of_outside sane fun i inScope inCredit => mem_scopeIdx_side inScope inCredit,
    chosen.creditTotal, accountCreditAppliedMinor_eq]
  ring

theorem credited_le (standard : StandardEps input) : (credited input).2 ≤ creditUsedMinor input := by
  have nonneg : 0 ≤ creditUsedMinor input := abs_nonneg _
  unfold credited
  split_ifs
  · rw [net_amount standard]
    exact max_le nonneg ((min_le_right _ _).trans (min_le_left _ _))
  · exact nonneg

theorem credited_of_notPay (notPay : directionFromRows input ≠ .pay) : (credited input).2 = 0 := by
  unfold credited
  rw [if_neg]
  simp [notPay]

theorem accountCredit_le (standard : StandardEps input) : accountCreditAppliedMinor input ≤ creditUsedMinor input := by
  have chosen := credited_le standard
  have total := (creditTakes_covers standard).total
  rw [accountCreditAppliedMinor_eq]
  by_cases taken : (budgetSign input < 0 && !creditUsedTooHigh input && 0 < creditForMoneyMinor input) = true
  · have received : totalTake (creditTakes input) ≤ creditForMoneyMinor input := by
      rw [total, creditBudget, if_pos taken]
      exact (min_le_left _ _).trans (min_le_right _ _)
    by_cases paying : directionFromRows input = .pay
    · have share : creditForMoneyMinor input ≤ creditUsedMinor input - (credited input).2 := by
        unfold creditForMoneyMinor
        rw [if_pos paying]
        split_ifs
        · exact le_rfl
        · exact sub_nonneg.mpr chosen
      omega
    · have share : creditForMoneyMinor input = creditUsedMinor input := if_neg paying
      rw [credited_of_notPay paying, zero_add]
      exact received.trans share.le
  · have nothing : creditTakes input = [] := if_neg taken
    rw [nothing]
    exact (add_zero _).le.trans chosen

/-! Amounts in whole minor units. -/

/-- Every remaining is a whole number of minor units. -/
def WholeRows (input : AllocInput) : Prop :=
  ∀ row ∈ input.rows ++ input.accountCredits, (row.remaining * minorFactor input.currency).den = 1

instance (input : AllocInput) : Decidable (WholeRows input) :=
  inferInstanceAs (Decidable (∀ row ∈ _, _ = 1))

theorem mathRound_whole {x : ℚ} (whole : x.den = 1) : (LargestRemainder.mathRound x : ℚ) = x := by
  have same : (x.num : ℚ) = x := Rat.coe_int_num_of_den_eq_one whole
  rw [← same, LargestRemainder.mathRound]
  have floor : ⌊(x.num : ℚ) + 1 / 2⌋ = x.num := by
    rw [Int.floor_eq_iff]
    constructor <;> linarith
  rw [floor]

theorem map_orig (input : AllocInput) :
    (indices input).map (orig input) = (all input).map fun row => toMinor input row.remaining := by
  apply List.ext_getElem
  · rw [List.length_map, List.length_map, indices, List.length_range]
  · intro i inside _
    rw [List.length_map, indices, List.length_range] at inside
    simp [indices, orig, inside]

theorem all_perm (input : AllocInput) : (all input).Perm (input.rows ++ input.accountCredits) :=
  (List.perm_insertionSort _ _).append (List.perm_insertionSort _ _)

theorem minorFactor_ne_zero (currency : Currency) : minorFactor currency ≠ 0 := by
  cases currency <;> norm_num [minorFactor]

theorem owed_opening (whole : WholeRows input) : ((owed input (opening input) : ℤ) : ℚ) =
    ((input.rows ++ input.accountCredits).map fun row => row.remaining * minorFactor input.currency).sum := by
  have units : (all input).map (fun row => ((toMinor input row.remaining : ℤ) : ℚ)) =
      (all input).map fun row => row.remaining * minorFactor input.currency :=
    List.map_congr_left fun row member => mathRound_whole (whole row ((all_perm input).subset member))
  calc ((owed input (opening input) : ℤ) : ℚ)
      = ((((all input).map fun row => toMinor input row.remaining).sum : ℤ) : ℚ) := by rw [← map_orig]; rfl
    _ = ((all input).map fun row => ((toMinor input row.remaining : ℤ) : ℚ)).sum := by
        rw [Int.cast_list_sum, List.map_map]
        rfl
    _ = ((all input).map fun row => row.remaining * minorFactor input.currency).sum := by rw [units]
    _ = _ := ((all_perm input).map _).sum_eq

theorem fromMinor_mul (input : AllocInput) (m : ℤ) : fromMinor input m * minorFactor input.currency = m := by
  rw [fromMinor, div_mul_cancel₀ _ (minorFactor_ne_zero _)]

/-- What is left of a row after the takes. -/
def leftAfter (input : AllocInput) (takes : List Take) (i : Nat) : ℤ :=
  orig input i - side input i * placed takes i

/-- Everything a settlement conserves, in minor units. -/
structure Conserved (input : AllocInput) : Prop where
  /-- before − after = paid + signed waive + covering commission − extra -/
  balance : ((input.rows ++ input.accountCredits).map fun row => row.remaining * minorFactor input.currency).sum -
      (((indices input).map (settled input).rem).sum : ℤ) =
    ((paidMinor input + waiveMinor input + commissionCoverMinor input : ℤ) : ℚ) -
      (allocateAccountSettlement input).extra * minorFactor input.currency
  netting : nettedOn input isDebt (settled input).takes = nettedOn input isCredit (settled input).takes
  rem : ∀ i, (settled input).rem i = leftAfter input (settled input).takes i
  perRow : ∀ i, placed (settled input).takes i = |orig input i - (settled input).rem i|
  /-- no take exceeds what the takes before it left -/
  left : ∀ before t after, (settled input).takes = before ++ t :: after → 0 < t.m ∧ t.m ≤ |leftAfter input before t.i|
  /-- no row changes sign at any point -/
  sign : ∀ before, before <+: (settled input).takes → ∀ i,
    (0 ≤ orig input i → 0 ≤ leftAfter input before i) ∧ (orig input i ≤ 0 → leftAfter input before i ≤ 0)
  waive : sumFrom .waive (settled input).takes ≤ |toMinor input input.waive|
  commission : sumFrom .commission (settled input).takes ≤ |toMinor input input.commission|
  /-- the credit pool moves by the account credit applied, never by more than `creditUsed` -/
  credit : ((acctCreditIdx input).map (settled input).rem).sum - ((acctCreditIdx input).map (netted input).rem).sum =
      accountCreditAppliedMinor input ∧
    (allocateAccountSettlement input).accountCreditApplied * minorFactor input.currency =
      (accountCreditAppliedMinor input : ℤ) ∧
    accountCreditAppliedMinor input ≤ |toMinor input input.creditUsed|

theorem placed_nonneg {takes : List Take} (positive : ∀ t ∈ takes, 0 < t.m) (i : Nat) : 0 ≤ placed takes i := by
  apply List.sum_nonneg
  intro x member
  obtain ⟨e, inside, rfl⟩ := List.mem_map.mp member
  obtain ⟨t, isThere, rfl⟩ := List.mem_map.mp (List.mem_filter.mp inside).1
  exact (positive t isThere).le

/-- Up to any point the takes stay within each row. -/
theorem Sane.placed_le {l : Ledger} (sane : Sane input l) {before : List Take} (isPrefix : before <+: l.takes) (i : Nat) :
    placed before i ≤ cap input i := by
  obtain ⟨after, whole⟩ := isPrefix
  have total := sane.amounts i
  rw [← whole, placed_append] at total
  have rest : 0 ≤ placed after i :=
    placed_nonneg (fun t member => sane.positive t (whole ▸ List.mem_append_right _ member)) i
  have bound := sane.bounded i
  omega

theorem leftAfter_eq (before : List Take) (i : Nat) :
    leftAfter input before i = side input i * (cap input i - placed before i) := by
  rw [leftAfter, mul_sub, side_mul_cap]

theorem Sane.abs_leftAfter {l : Ledger} (sane : Sane input l) {before : List Take} (isPrefix : before <+: l.takes)
    (i : Nat) : |leftAfter input before i| = cap input i - placed before i := by
  have room : 0 ≤ cap input i - placed before i := sub_nonneg.mpr (sane.placed_le isPrefix i)
  rw [leftAfter_eq, abs_mul, abs_of_nonneg room]
  rcases @isSide_side input i with same | same
  · rw [same, abs_one, one_mul]
  · rw [same, abs_neg, abs_one, one_mul]

theorem Sane.sign {l : Ledger} (sane : Sane input l) {before : List Take} (isPrefix : before <+: l.takes) (i : Nat) :
    (0 ≤ orig input i → 0 ≤ leftAfter input before i) ∧ (orig input i ≤ 0 → leftAfter input before i ≤ 0) := by
  have room : placed before i ≤ cap input i := sane.placed_le isPrefix i
  have nonneg : 0 ≤ placed before i :=
    placed_nonneg (fun t member => sane.positive t (isPrefix.subset member)) i
  rw [leftAfter]
  unfold cap side at *
  rcases lt_trichotomy (orig input i) 0 with negative | zero | positive
  · rw [if_neg (not_lt.mpr negative.le)]
    rw [abs_of_neg negative] at room
    constructor <;> intro _ <;> omega
  · rw [zero] at room ⊢
    rw [abs_zero] at room
    rw [if_neg (lt_irrefl 0)]
    constructor <;> intro _ <;> omega
  · rw [if_pos positive]
    rw [abs_of_pos positive] at room
    constructor <;> intro _ <;> omega

/-- An account settlement in whole minor units conserves money, whatever is paid, waived, covered and credited. -/
theorem settlement_conserves (input : AllocInput) (standard : StandardEps input) (whole : WholeRows input) :
    Conserved input where
  balance := by
    have after : owed input (settled input) = _ := owed_settled standard
    unfold owed at after
    change _ = _ - fromMinor input (extraMinor input) * minorFactor input.currency
    rw [after, Int.cast_sub, ← owed_opening whole, fromMinor_mul, extraMinor, budget, owed]
    push_cast
    ring
  netting := netting_balanced standard
  rem i := by
    have sane := (kept_settled standard).sane
    rw [sane.rem, leftAfter_eq, sane.amounts]
  perRow i := by
    have sane := (kept_settled standard).sane
    have gap : orig input i - (settled input).rem i = side input i * (settled input).taken i := by
      rw [sane.rem, mul_sub, side_mul_cap]
      ring
    rw [sane.amounts, gap, abs_mul, abs_of_nonneg (sane.nonneg i)]
    rcases @isSide_side input i with same | same
    · rw [same, abs_one, one_mul]
    · rw [same, abs_neg, abs_one, one_mul]
  left before t after split := by
    have sane := (kept_settled standard).sane
    have here : t ∈ (settled input).takes := split ▸ List.mem_append_right _ List.mem_cons_self
    have next : before ++ [t] <+: (settled input).takes := ⟨after, by rw [split, List.append_assoc, List.singleton_append]⟩
    have room := sane.placed_le next t.i
    rw [placed_append, placed_single, if_pos rfl] at room
    rw [sane.abs_leftAfter ⟨t :: after, split.symm⟩]
    exact ⟨sane.positive t here, le_sub_iff_add_le'.mpr room⟩
  sign before isPrefix i := (kept_settled standard).sane.sign isPrefix i
  waive := waive_le standard
  commission := commission_le standard
  credit := ⟨accountCredit_consumed standard, fromMinor_mul input _, accountCredit_le standard⟩

/-- Two debts and a credit of the day, an account debt and an account credit, with every source in use. -/
def mixedInput : AllocInput where
  currency := .usd
  rows := [
    { kind := .ledger, id := 3, memberSupplierId := 1, createdAt := "2026-03-02", remaining := 20, commissionModel1 := false, cashoutCommission := 0 },
    { kind := .financialService, id := 1, memberSupplierId := 1, createdAt := "2026-03-01", remaining := 30, commissionModel1 := true, cashoutCommission := 0 },
    { kind := .financialService, id := 2, memberSupplierId := 2, createdAt := "2026-03-01", remaining := -25 / 2, commissionModel1 := false, cashoutCommission := 1 / 4 }]
  paid := 25
  commission := 2
  waive := 1
  commissionCovers := true
  eps := 5 / 1000
  accountCredits := [
    { kind := .ledger, id := 5, memberSupplierId := 1, createdAt := "2026-01-09", remaining := 5, commissionModel1 := false, cashoutCommission := 0 },
    { kind := .ledger, id := 4, memberSupplierId := 2, createdAt := "2026-01-08", remaining := -87 / 10, commissionModel1 := false, cashoutCommission := 0 }]
  creditUsed := 3

theorem settlement_conserves_mixed : Conserved mixedInput ∧
    ((settled mixedInput).takes.map fun t => (t.i, t.source, t.m)) =
      [(0, .netting, 1250), (1, .netting, 1250), (4, .netting, 500), (3, .netting, 500), (0, .netting, 300),
        (3, .netting, 300), (0, .waive, 100), (0, .commission, 200), (0, .payment, 1150), (2, .payment, 1350)] :=
  ⟨settlement_conserves mixedInput (by decide +kernel) (by decide +kernel), by decide +kernel⟩

end Liratek.Money.AccountSettle
