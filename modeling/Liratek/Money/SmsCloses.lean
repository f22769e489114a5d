import Liratek.Money.AccountReport
import Liratek.Money.OmtSmsSettlement

/-! Settling by the SMS that is expected closes every row and collects every ticked share. -/

namespace Liratek.Money.SmsCloses
open FifoCoverage AccountSettle OmtSmsSettlement LargestRemainder

/-! Money and credit for all that is owed close every row. -/

section
variable {input : AllocInput}

/-- After the nettings the scope is one-sided. -/
theorem scope_one_sided (standard : StandardEps input) :
    (∀ i ∈ scopeIdx input, 0 ≤ (netted input).rem i) ∨ (∀ i ∈ scopeIdx input, (netted input).rem i ≤ 0) := by
  have sane := (kept_netted standard).sane
  obtain ⟨mid, debits, credits, first⟩ := dayNetted_netting standard
  obtain ⟨mid₂, debits₂, credits₂, second⟩ := accountNetted_netting standard
  obtain ⟨mid₃, debits₃, credits₃, third⟩ := net_netting standard (kept_accountNetted standard).sane (pool_acctDebtIdx input)
    (pool_rowIdx input) none
  have kept := kept_dayNetted standard
  have run := (second.run (pool_acctDebtIdx input) (pool_acctCreditIdx input)).trans
    (third.run (pool_acctDebtIdx input) (pool_rowIdx input))
  have debtsHigh : ∀ i ∈ acctDebtIdx input, 0 ≤ (netted input).rem i :=
    fun i inside => (sane.rem_sign i).1 (mem_acctDebtIdx.mp inside).2.le
  rcases third.one_sided (kept_accountNetted standard).sane (pool_acctDebtIdx input) (pool_rowIdx input)
    (net_amount standard _ _ _ _) with debtsClosed | creditsClosed
  · rcases first.one_sided sane_opening (pool_rowIdx input) (pool_rowIdx input) (net_amount standard _ _ _ _) with low | high
    · right
      intro i inside
      rcases List.mem_append.mp inside with day | account
      · have closed := closed_run run kept isSide_one i (low i day)
        rwa [one_mul] at closed
      · have closed := debtsClosed i account
        rwa [one_mul] at closed
    · left
      intro i inside
      rcases List.mem_append.mp inside with day | account
      · have closed := closed_run run kept isSide_neg i (high i day)
        rwa [neg_one_mul, neg_nonpos] at closed
      · exact debtsHigh i account
  · left
    intro i inside
    rcases List.mem_append.mp inside with day | account
    · have closed := creditsClosed i day
      rwa [neg_one_mul, neg_nonpos] at closed
    · exact debtsHigh i account

theorem openTotal_of_nonneg {pool : List Nat} {out : Nat → ℤ} (nonneg : ∀ i ∈ pool, 0 ≤ out i) :
    openTotal pool out = (pool.map out).sum := by
  unfold openTotal
  congr 1
  apply List.map_congr_left
  exact fun i inside => max_eq_right (nonneg i inside)

theorem sum_map_nonpos {pool : List Nat} {f : Nat → ℤ} (nonpos : ∀ i ∈ pool, f i ≤ 0) : (pool.map f).sum ≤ 0 := by
  have flipped : 0 ≤ (pool.map fun i => -f i).sum := List.sum_nonneg fun x member => by
    obtain ⟨i, inside, rfl⟩ := List.mem_map.mp member
    exact neg_nonneg.mpr (nonpos i inside)
  have same : (pool.map fun i => -f i).sum = -(pool.map f).sum := by
    rw [List.sum_neg, List.map_map]
    rfl
  omega

/-- Amounts that are not below zero are each at most their sum. -/
theorem le_sum_map {pool : List Nat} {f : Nat → ℤ} (nonneg : ∀ i ∈ pool, 0 ≤ f i) : ∀ i ∈ pool, f i ≤ (pool.map f).sum := by
  intro i inside
  refine List.single_le_sum ?_ _ (List.mem_map_of_mem inside)
  intro x member
  obtain ⟨j, inside, rfl⟩ := List.mem_map.mp member
  exact nonneg j inside

/-- The scope and the account credit are all there is. -/
theorem owed_split {l : Ledger} (sane : Sane input l) :
    owed input l = ((scopeIdx input).map l.rem).sum - openTotal (acctCreditIdx input) fun i => -l.rem i := by
  have accounts : ∀ places : List Nat, (places.map l.rem).sum =
      ((places.filter fun i => 0 < orig input i).map l.rem).sum + ((places.filter fun i => orig input i < 0).map l.rem).sum := by
    intro places
    induction places with
    | nil => rfl
    | cons i rest ih =>
      rw [List.map_cons, List.sum_cons, ih]
      rcases lt_trichotomy (orig input i) 0 with low | none | high
      · simp only [List.filter_cons, low, not_lt.mpr low.le, decide_true, decide_false, if_true, Bool.false_eq_true,
          if_false, List.map_cons, List.sum_cons]
        ring
      · simp only [List.filter_cons, none, lt_irrefl, decide_false, Bool.false_eq_true, if_false, sane.rem_of_orig none, zero_add]
      · simp only [List.filter_cons, high, not_lt.mpr high.le, decide_true, decide_false, if_true, Bool.false_eq_true, if_false,
          List.map_cons, List.sum_cons]
        ring
  have credits : openTotal (acctCreditIdx input) (fun i => -l.rem i) = ((acctCreditIdx input).map fun i => -l.rem i).sum :=
    openTotal_of_nonneg fun i inside => neg_nonneg.mpr ((sane.rem_sign i).2 (mem_acctCreditIdx.mp inside).2.le)
  have flipped : ((acctCreditIdx input).map fun i => -l.rem i).sum = -((acctCreditIdx input).map l.rem).sum := by
    rw [List.sum_neg, List.map_map]
    rfl
  rw [owed, ← rows_append, List.map_append, List.sum_append, accounts (acctIdx input), scopeIdx, List.map_append, List.sum_append,
    credits, flipped]
  change _ + (((acctDebtIdx input).map l.rem).sum + ((acctCreditIdx input).map l.rem).sum) = _
  ring

theorem creditPoolMinor_eq (input : AllocInput) :
    creditPoolMinor input = openTotal (acctCreditIdx input) fun i => -(netted input).rem i := rfl

/-- The whole credit that is left is never too high. -/
theorem creditUsed_fits (whole : input.wholeCredit = true) (allCredit : creditUsedMinor input = creditPoolMinor input) :
    creditUsedTooHigh input = false := by
  unfold creditUsedTooHigh creditCap
  rw [whole, allCredit]
  simp

theorem directionFromRows_pay (standard : StandardEps input) : directionFromRows input = .pay ↔ 0 < owedAfterNetting input := by
  unfold directionFromRows
  rw [epsMinor_standard standard]
  split_ifs with debts
  · exact iff_of_true rfl (half_lt_iff.mp debts)
  · exact iff_of_false (nomatch ·) (mt half_lt_iff.mpr debts)
  · exact iff_of_false (nomatch ·) (mt half_lt_iff.mpr debts)

theorem credited_pay (standard : StandardEps input) (whole : input.wholeCredit = true)
    (allCredit : creditUsedMinor input = creditPoolMinor input) (debts : ∀ i ∈ scopeIdx input, 0 ≤ (netted input).rem i)
    (some' : 0 < owedAfterNetting input) : (credited input).2 = min (creditPoolMinor input) (owedAfterNetting input) := by
  have pay := (directionFromRows_pay standard).mpr some'
  have fits := creditUsed_fits whole allCredit
  have nonneg : 0 ≤ creditPoolMinor input := openTotal_nonneg _ _
  have owes : openTotal (scopeIdx input) (netted input).rem = owedAfterNetting input := openTotal_of_nonneg debts
  unfold credited
  rw [pay, fits, allCredit]
  by_cases pool : 0 < creditPoolMinor input
  · rw [if_pos (by simp [pool]), net_amount standard, reach, upTo, owes, ← creditPoolMinor_eq]
    omega
  · have none : creditPoolMinor input = 0 := le_antisymm (not_lt.mp pool) nonneg
    rw [if_neg (by simp [pool]), none]
    exact (min_eq_left some'.le).symm

/-- What the chosen credit leaves of the scope and of the credit. -/
theorem credited_sums (standard : StandardEps input) :
    ((scopeIdx input).map (credited input).1.rem).sum = owedAfterNetting input - (credited input).2 ∧
      openTotal (acctCreditIdx input) (fun i => -(credited input).1.rem i) = creditPoolMinor input - (credited input).2 := by
  obtain ⟨mid, debits, credits, chosen⟩ := credited_netting standard
  have sane := (kept_netted standard).sane
  have scope : ((scopeIdx input).map (credited input).1.rem).sum = owedAfterNetting input - (credited input).2 := by
    rw [chosen.credit.sum_rem_of_outside (chosen.debit.sane sane) fun i inCredit inScope => mem_scopeIdx_side inScope inCredit,
      chosen.debit.sum_rem_of_inside sane (pool_scopeIdx input).distinct fun _ member => member, chosen.debitTotal, one_mul]
    rfl
  refine ⟨scope, ?_⟩
  have before := owed_split (kept_netted standard).sane
  have after := owed_split (kept_credited standard).sane
  have same := chosen.owed sane (pool_scopeIdx input) (pool_acctCreditIdx input)
  rw [scope] at after
  rw [creditPoolMinor_eq]
  change owed input (netted input) = owedAfterNetting input - _ at before
  omega

/-- Before the money: only debts are open and there is no credit left, or no debt is open and the money may take all
    the credit that is left. -/
theorem before_money (standard : StandardEps input) (whole : input.wholeCredit = true)
    (allCredit : creditUsedMinor input = creditPoolMinor input) :
    (∀ i ∈ scopeIdx input, 0 ≤ (credited input).1.rem i) ∧ 0 < ((scopeIdx input).map (credited input).1.rem).sum ∧
        openTotal (acctCreditIdx input) (fun i => -(credited input).1.rem i) = 0 ∨
      (∀ i ∈ scopeIdx input, (credited input).1.rem i ≤ 0) ∧
        creditForMoneyMinor input = openTotal (acctCreditIdx input) fun i => -(credited input).1.rem i := by
  obtain ⟨scope, pool⟩ := credited_sums standard
  obtain ⟨mid, debits, credits, chosen⟩ := credited_netting standard
  have run := chosen.run (pool_scopeIdx input) (pool_acctCreditIdx input)
  have kept := kept_netted standard
  by_cases pay : 0 < owedAfterNetting input
  · have direction := (directionFromRows_pay standard).mpr pay
    have debts : ∀ i ∈ scopeIdx input, 0 ≤ (netted input).rem i := by
      refine (scope_one_sided standard).resolve_right fun low => ?_
      exact absurd pay (not_lt.mpr (sum_map_nonpos low))
    have stillDebts : ∀ i ∈ scopeIdx input, 0 ≤ (credited input).1.rem i := by
      intro i inside
      have closed := closed_run run kept isSide_neg i (by rw [neg_one_mul, neg_nonpos]; exact debts i inside)
      rwa [neg_one_mul, neg_nonpos] at closed
    have amount := credited_pay standard whole allCredit debts pay
    rcases lt_or_ge (creditPoolMinor input) (owedAfterNetting input) with less | more
    · left
      rw [min_eq_left less.le] at amount
      exact ⟨stillDebts, by omega, by omega⟩
    · right
      rw [min_eq_right more] at amount
      have nothing : ((scopeIdx input).map (credited input).1.rem).sum = 0 := by omega
      refine ⟨?_, ?_⟩
      · intro i inside
        have within := le_sum_map stillDebts i inside
        omega
      · unfold creditForMoneyMinor
        rw [if_pos direction, if_pos whole, allCredit, pool]
  · right
    have notPay : directionFromRows input ≠ .pay := fun direction => pay ((directionFromRows_pay standard).mp direction)
    have none := credited_of_notPay notPay
    have credits : ∀ i ∈ scopeIdx input, (netted input).rem i ≤ 0 := by
      rcases scope_one_sided standard with high | low
      · intro i inside
        exact (le_sum_map high i inside).trans (not_lt.mp pay)
      · exact low
    refine ⟨?_, ?_⟩
    · intro i inside
      have closed := closed_run run kept isSide_one i (by rw [one_mul]; exact credits i inside)
      rwa [one_mul] at closed
    · unfold creditForMoneyMinor
      rw [if_neg notPay, allCredit, pool, none, sub_zero]

theorem le_openTotal {pool : List Nat} {out : Nat → ℤ} : ∀ i ∈ pool, out i ≤ openTotal pool out := fun i inside =>
  (le_max_right 0 (out i)).trans (le_sum_map (fun j _ => le_max_left 0 (out j)) i inside)

/-- The account credit is closed once none of it is open. -/
theorem credits_closed (standard : StandardEps input) (closed : ∀ i ∈ acctCreditIdx input, -1 * (settled input).rem i ≤ 0) :
    ∀ i ∈ acctCreditIdx input, (settled input).rem i = 0 := by
  intro i inside
  have high := closed i inside
  have low := ((kept_settled standard).sane.rem_sign i).2 (mem_acctCreditIdx.mp inside).2.le
  omega

/-- A budget of all that is owed, with all the account credit, leaves nothing open. -/
theorem settled_closes (standard : StandardEps input) (whole : input.wholeCredit = true)
    (allCredit : creditUsedMinor input = creditPoolMinor input) (exact' : budget input = owed input (opening input)) :
    (∀ i ∈ scopeIdx input, (settled input).rem i = 0) ∧ ∀ i ∈ acctCreditIdx input, (settled input).rem i = 0 := by
  obtain ⟨mid, scopeAdded, creditAdded, steps⟩ := budgeted standard
  have kept := kept_credited standard
  have midSane := steps.scope.sane kept.sane
  have run := run_from_credited standard
  rw [← owed_credited standard, owed_split kept.sane] at exact'
  rcases before_money standard whole allCredit with ⟨debts, positive, noCredit⟩ | ⟨creds, money⟩
  · rw [noCredit, sub_zero] at exact'
    have paying : budgetSign input = 1 := if_pos (by rw [exact']; exact positive)
    constructor
    · intro i inside
      have enough : openTotal (scopeIdx input) (fun i => budgetSign input * (credited input).1.rem i) ≤ |budget input| := by
        simp only [paying, one_mul]
        rw [openTotal_of_nonneg debts, exact']
        exact le_abs_self _
      have low := steps.credit.open_anti midSane isSide_one i
        (paying ▸ steps.scope.closes kept.sane (pool_scopeIdx input).distinct enough i inside)
      have high := closed_run run kept isSide_neg i (by rw [neg_one_mul, neg_nonpos]; exact debts i inside)
      omega
    · apply credits_closed standard
      intro i inside
      apply closed_run run kept isSide_neg i
      rw [neg_one_mul]
      exact (le_openTotal i inside).trans noCredit.le
  · have low := sum_map_nonpos creds
    have pool : 0 ≤ openTotal (acctCreditIdx input) fun i => -(credited input).1.rem i := openTotal_nonneg _ _
    have receiving : budgetSign input = -1 := if_neg (by omega)
    have taken : openTotal (scopeIdx input) (fun i => budgetSign input * (credited input).1.rem i) =
        -((scopeIdx input).map (credited input).1.rem).sum := by
      simp only [receiving, neg_one_mul]
      rw [openTotal_of_nonneg fun i inside => neg_nonneg.mpr (creds i inside), List.sum_neg, List.map_map]
      rfl
    have size : |budget input| = -budget input := abs_of_nonpos (by omega)
    constructor
    · intro i inside
      have high := steps.credit.open_anti midSane isSide_neg i
        (receiving ▸ steps.scope.closes kept.sane (pool_scopeIdx input).distinct (by omega) i inside)
      have below := closed_run run kept isSide_one i (by rw [one_mul]; exact creds i inside)
      omega
    · apply credits_closed standard
      have same : openTotal (acctCreditIdx input) (fun i => -1 * mid.rem i) =
          openTotal (acctCreditIdx input) fun i => -(credited input).1.rem i := by
        apply openTotal_congr
        intro i inside
        have untouched : takeOf (scopeTakes input) i = 0 := steps.scope.outside fun inScope => mem_scopeIdx_side inScope inside
        rw [steps.scope.rem, untouched, mul_zero, sub_zero, neg_one_mul]
      refine steps.credit.closes midSane (pool_acctCreditIdx input).distinct ?_
      rw [same]
      have total := (scopeTakes_covers standard).total
      rw [taken] at total
      unfold creditBudget
      rw [receiving, creditUsed_fits whole allCredit, money]
      split_ifs with some'
      · omega
      · simpa using some'

theorem rem_settled (standard : StandardEps input) (whole : input.wholeCredit = true)
    (allCredit : creditUsedMinor input = creditPoolMinor input) (exact' : budget input = owed input (opening input)) :
    ∀ i ∈ indices input, (settled input).rem i = 0 := by
  obtain ⟨scope, credits⟩ := settled_closes standard whole allCredit exact'
  intro i inside
  rw [← rows_append] at inside
  rcases List.mem_append.mp inside with day | account
  · exact scope i (List.mem_append_left _ day)
  · rcases lt_trichotomy (orig input i) 0 with low | none | high
    · exact credits i (mem_acctCreditIdx.mpr ⟨account, low⟩)
    · exact (kept_settled standard).sane.rem_of_orig none
    · exact scope i (List.mem_append_right _ (mem_acctDebtIdx.mpr ⟨account, high⟩))

end

/-! Splitting a total by weights that add up to it. -/

theorem shareUnits_whole (weights : List ℤ) : shareUnits (weights.map fun w : ℤ => (w : ℚ)) weights.sum = weights := by
  have floors : ((weights.map fun w : ℤ => (w : ℚ)).map fun v => ⌊v⌋) = weights := by
    rw [List.map_map]
    exact (List.map_congr_left fun w _ => Int.floor_intCast w).trans (List.map_id _)
  unfold shareUnits
  dsimp only
  rw [floors, sub_self]
  simp

section
variable {ι : Type*} {pool : List ι} {weight : ι → ℤ}

theorem rawShareUnits_whole (nonneg : ∀ j ∈ pool, 0 ≤ weight j) (positive : 0 < (pool.map weight).sum) :
    rawShareUnits (pool.map fun j => { id := j, weight := some (weight j : ℚ) }) (pool.map weight).sum =
      (pool.map weight).map fun w : ℤ => (w : ℚ) := by
  have total : ((pool.map weight).map fun w : ℤ => (w : ℚ)).sum = ((pool.map weight).sum : ℤ) := (Int.cast_list_sum _).symm
  have some' : (0 : ℚ) < ((pool.map weight).sum : ℤ) := Int.cast_pos.mpr positive
  unfold rawShareUnits
  rw [clampedWeights_whole nonneg, total]
  dsimp only
  rw [if_pos some', if_pos some']
  refine (List.map_congr_left fun w _ => ?_).trans (List.map_id _)
  exact div_mul_cancel₀ w some'.ne'

/-- Everyone's share is the own weight. -/
theorem allocateProportional_whole (nonneg : ∀ j ∈ pool, 0 ≤ weight j) (positive : 0 < (pool.map weight).sum) :
    allocateProportional (pool.map fun j => { id := j, weight := some (weight j : ℚ) }) ((pool.map weight).sum : ℤ) 1 =
      pool.map fun j => { id := j, amount := weight j } := by
  have some' : (0 : ℚ) < ((pool.map weight).sum : ℤ) := Int.cast_pos.mpr positive
  have one : (1 : ℚ) ≤ ((pool.map weight).sum : ℤ) := by exact_mod_cast positive
  have units : mathRound (|(((pool.map weight).sum : ℤ) : ℚ)| / 1) = (pool.map weight).sum := by
    rw [abs_of_pos some', div_one, mathRound, Int.floor_intCast_add]
    norm_num
  unfold allocateProportional
  rw [if_neg (by rw [abs_of_pos some']; linarith), units]
  dsimp only
  rw [if_neg positive.ne', if_neg (not_lt.mpr some'.le), rawShareUnits_whole nonneg positive, shareUnits_whole]
  clear nonneg positive some' one units
  induction pool with
  | nil => rfl
  | cons j rest ih =>
    simp only [List.map_cons, List.zip_cons_cons, one_mul, mul_one, List.cons.injEq] at ih ⊢
    exact ⟨trivial, ih⟩

end

theorem spread_whole {pool : List Nat} {weight : Nat → ℤ} (nonneg : ∀ j ∈ pool, 0 ≤ weight j)
    (positive : 0 < (pool.map weight).sum) (distinct : pool.Nodup) {i : Nat} (inside : i ∈ pool) :
    spread pool weight (pool.map weight).sum i = weight i := by
  unfold spread
  rw [if_neg (not_le.mpr positive), allocateProportional_whole nonneg positive]
  have single : ∀ places : List Nat, (((places.map fun j => ({ id := j, amount := (weight j : ℚ) } : AllocationShare Nat)).filter
      fun share => share.id = i).map (·.amount)).sum = (places.map fun j => if i = j then (weight i : ℚ) else 0).sum := by
    intro places
    induction places with
    | nil => rfl
    | cons j rest ih =>
      rw [List.map_cons, List.map_cons, List.sum_cons, ← ih]
      by_cases same : j = i
      · simp [same]
      · simp [same, Ne.symm same]
  rw [single, Lib.Coverage.sum_single distinct inside]

/-! What is netted before the money. -/

/-- The same rows, settled with other money. -/
def withMoney (input : AllocInput) (paid commission creditUsed : ℚ) (split : Option ℚ) : AllocInput :=
  { input with paid, commission, commissionCovers := true, commissionSplit := split, wholeCredit := true, creditUsed }

section
variable {input : AllocInput} {paid commission creditUsed : ℚ} {split : Option ℚ}

theorem pairTakes_money : pairTakes (withMoney input paid commission creditUsed split) = pairTakes input := by
  funext fuel debits credits dLeft cLeft pairs
  induction fuel generalizing debits credits dLeft cLeft pairs with
  | zero => rfl
  | succ fuel ih =>
    cases debits with
    | nil => rfl
    | cons d ds =>
      cases credits with
      | nil => rfl
      | cons c cs => exact ih ..

theorem net_money : net (withMoney input paid commission creditUsed split) = net input := by
  unfold net withPairs
  rw [pairTakes_money]
  rfl

theorem netted_money : netted (withMoney input paid commission creditUsed split) = netted input := by
  unfold netted accountNetted dayNetted
  rw [net_money]
  rfl

theorem creditPoolMinor_money :
    creditPoolMinor (withMoney input paid commission creditUsed split) = creditPoolMinor input := by
  unfold creditPoolMinor
  rw [netted_money]
  rfl

end

/-! The figures of the SMS. -/

section
variable {c : Currency} {covered : Option (List OmtCoveredType)} {row : AccountUnsettledRow}

theorem toMinor_fromMinor (m : ℤ) (c : Currency) : OmtSmsSettlement.toMinor (OmtSmsSettlement.fromMinor m c) c = m := by
  unfold OmtSmsSettlement.toMinor OmtSmsSettlement.fromMinor mathRound
  rw [div_mul_cancel₀ _ (minorFactor_ne_zero c), Int.floor_intCast_add]
  norm_num

theorem outstandingMinor_nonneg (row : AccountUnsettledRow) (c : Currency) : 0 ≤ outstandingMinor row c := by
  unfold outstandingMinor
  split_ifs
  · exact le_rfl
  · exact le_max_left _ _

theorem outstandingMinor_ledger (ledger : row.kind = .ledger) : outstandingMinor row c = 0 := by
  unfold outstandingMinor
  rw [if_pos (Or.inl (by rw [ledger]; exact (nomatch ·)))]

theorem outstandingMinor_model1 (some' : 0 < outstandingMinor row c) :
    row.kind = .financialService ∧ row.commissionModel = some 1 := by
  unfold outstandingMinor at some'
  split_ifs at some' with none'
  · exact absurd some' (lt_irrefl _)
  · push Not at none'
    exact none'

theorem commissionMinorOf_nonneg (rows : List AccountUnsettledRow) : 0 ≤ commissionMinorOf rows c covered := by
  apply List.sum_nonneg
  intro x member
  obtain ⟨row, -, rfl⟩ := List.mem_map.mp member
  split_ifs
  · exact outstandingMinor_nonneg row c
  · exact le_rfl

theorem toMinor_nonneg {v : ℚ} (nonneg : 0 ≤ v) : 0 ≤ OmtSmsSettlement.toMinor v c := by
  have factor : 0 ≤ minorFactor c := by cases c <;> norm_num [minorFactor]
  apply Int.floor_nonneg.mpr
  have scaled := mul_nonneg nonneg factor
  linarith

/-- A remaining above the tolerance is not rounded to nothing. -/
theorem toMinor_ne_zero {v : ℚ} (isOpen : amountFirstEps c < |v|) : OmtSmsSettlement.toMinor v c ≠ 0 := by
  intro none'
  have range := Int.floor_eq_iff.mp none'
  have size : |v * minorFactor c| ≤ 1 / 2 := by
    rw [abs_le]
    constructor
    · linarith [range.1]
    · have above := range.2
      push_cast at above
      linarith
  revert isOpen size
  cases c
  · simp only [amountFirstEps, minorFactor, abs_mul]
    intro isOpen size
    norm_num at size
    linarith
  · simp only [amountFirstEps, minorFactor, mul_one]
    intro isOpen size
    linarith

/-- Shares that fit together are all collected. -/
theorem collect_all {shares : List OwedShareView} (nonneg : ∀ share ∈ shares, 0 ≤ share.amount) {more : ℤ} (rest : 0 ≤ more) :
    collect c shares (more + (shares.map fun share => OmtSmsSettlement.toMinor share.amount c).sum) = (shares, more) := by
  induction shares with
  | nil =>
    rw [List.map_nil, List.sum_nil, add_zero]
    rfl
  | cons share others ih =>
    obtain ⟨-, nonnegOthers⟩ := List.forall_mem_cons.mp nonneg
    have othersNonneg : 0 ≤ (others.map fun share => OmtSmsSettlement.toMinor share.amount c).sum := by
      apply List.sum_nonneg
      intro x member
      obtain ⟨other, inside, rfl⟩ := List.mem_map.mp member
      exact toMinor_nonneg (nonnegOthers other inside)
    unfold collect
    dsimp only
    rw [List.map_cons, List.sum_cons, if_neg (by omega)]
    have left : more + (OmtSmsSettlement.toMinor share.amount c +
        (others.map fun share => OmtSmsSettlement.toMinor share.amount c).sum) - OmtSmsSettlement.toMinor share.amount c =
          more + (others.map fun share => OmtSmsSettlement.toMinor share.amount c).sum := by
      ring
    rw [left, ih nonnegOthers]

end

section
variable (scope : SmsScope)

def owedAll : ℤ :=
  owedMinor (scope.rows ++ scope.accountRows) scope.currency

def commissionAll : ℤ :=
  commissionMinorOf (scope.rows ++ scope.accountRows) scope.currency scope.coveredTypes

def sharesAll : ℤ :=
  sharesMinor scope.owedShares scope.currency scope.coveredTypes

theorem sharesAll_nonneg : 0 ≤ sharesAll scope := by
  apply List.sum_nonneg
  intro x member
  obtain ⟨share, inside, rfl⟩ := List.mem_map.mp member
  exact toMinor_nonneg (scope.nonneg share (List.mem_filter.mp inside).1)

theorem smsCommission_eq : smsCommission scope = OmtSmsSettlement.fromMinor (commissionAll scope + sharesAll scope) scope.currency := by
  have nonneg : 0 ≤ commissionAll scope + sharesAll scope := add_nonneg (commissionMinorOf_nonneg _) (sharesAll_nonneg scope)
  have raw : OmtSmsSettlement.toMinor (smsFigure scope).owed scope.currency -
      OmtSmsSettlement.toMinor (smsFigure scope).expected scope.currency = commissionAll scope + sharesAll scope := by
    change OmtSmsSettlement.toMinor (OmtSmsSettlement.fromMinor (owedAll scope) _) _ -
      OmtSmsSettlement.toMinor (OmtSmsSettlement.fromMinor (owedAll scope - commissionAll scope - sharesAll scope) _) _ = _
    rw [toMinor_fromMinor, toMinor_fromMinor]
    ring
  unfold smsCommission deriveSmsCommission
  dsimp only
  rw [raw, max_eq_right nonneg]

theorem commissionAll_nonneg : 0 ≤ commissionAll scope :=
  commissionMinorOf_nonneg _

theorem smsShares_eq : smsShares scope =
    { collected := ticked scope, split := OmtSmsSettlement.fromMinor (commissionAll scope) scope.currency } := by
  have nonneg : ∀ share ∈ ticked scope, 0 ≤ share.amount :=
    fun share inside => scope.nonneg share (List.mem_filter.mp inside).1
  have collected : collect scope.currency (ticked scope) (commissionAll scope + sharesAll scope) = (ticked scope, commissionAll scope) :=
    collect_all nonneg (commissionAll_nonneg scope)
  unfold smsShares owedSharesCollected
  rw [smsCommission_eq, toMinor_fromMinor, collected]
  dsimp only
  rw [max_eq_right (commissionAll_nonneg scope)]

/-! What the settlement makes of them. -/

theorem standardEps_sms : StandardEps (smsInput scope) := by
  change amountFirstEps scope.currency = _
  rfl

theorem allCredit_sms : creditUsedMinor (smsInput scope) = creditPoolMinor (smsInput scope) := by
  have pool : creditPoolMinor (smsInput scope) = creditPoolMinor (probe scope) := creditPoolMinor_money
  have nonneg : 0 ≤ creditPoolMinor (probe scope) := openTotal_nonneg _ _
  rw [pool]
  change |OmtSmsSettlement.toMinor (OmtSmsSettlement.fromMinor (creditPoolMinor (probe scope)) scope.currency) scope.currency| = _
  rw [toMinor_fromMinor, abs_of_nonneg nonneg]

theorem commissionMinor_sms : commissionMinor (smsInput scope) = commissionAll scope + sharesAll scope := by
  change |OmtSmsSettlement.toMinor (smsCommission scope) scope.currency| = _
  rw [smsCommission_eq, toMinor_fromMinor, abs_of_nonneg (add_nonneg (commissionAll_nonneg scope) (sharesAll_nonneg scope))]

theorem splitMinor_sms : splitMinor (smsInput scope) = commissionAll scope := by
  change |OmtSmsSettlement.toMinor (smsShares scope).split scope.currency| = _
  rw [smsShares_eq, toMinor_fromMinor, abs_of_nonneg (commissionAll_nonneg scope)]

/-- Money and commission together are all that is owed. -/
theorem budget_sms : budget (smsInput scope) = owedAll scope := by
  have paid : paidMinor (smsInput scope) = owedAll scope - commissionAll scope - sharesAll scope := by
    change OmtSmsSettlement.toMinor (OmtSmsSettlement.fromMinor (owedAll scope - commissionAll scope - sharesAll scope)
      scope.currency) scope.currency = _
    rw [toMinor_fromMinor]
  have waived : waiveMinor (smsInput scope) = 0 := by
    have none' : AccountSettle.toMinor (smsInput scope) (smsInput scope).waive = 0 := by
      change mathRound (0 * minorFactor scope.currency) = 0
      rw [zero_mul]
      decide +kernel
    rw [waiveMinor, none', abs_zero, zero_mul]
  have covers : commissionCoverMinor (smsInput scope) = commissionAll scope + sharesAll scope := by
    rw [← commissionMinor_sms]
    rfl
  rw [budget, paid, waived, covers]
  ring

theorem owed_sms : owed (smsInput scope) (opening (smsInput scope)) = owedAll scope := by
  have listed : (smsInput scope).rows ++ (smsInput scope).accountCredits =
      (scope.rows ++ scope.accountRows).map (toAllocRow scope.currency scope.coveredTypes) :=
    List.map_append.symm
  calc owed (smsInput scope) (opening (smsInput scope))
      = ((all (smsInput scope)).map fun row => AccountSettle.toMinor (smsInput scope) row.remaining).sum := by
        rw [← map_orig]
        rfl
    _ = (((smsInput scope).rows ++ (smsInput scope).accountCredits).map fun row =>
          AccountSettle.toMinor (smsInput scope) row.remaining).sum := ((all_perm _).map _).sum_eq
    _ = owedAll scope := by
        rw [listed, List.map_map]
        rfl

theorem rem_sms : ∀ i ∈ indices (smsInput scope), (settled (smsInput scope)).rem i = 0 :=
  rem_settled (standardEps_sms scope) rfl (allCredit_sms scope) ((budget_sms scope).trans (owed_sms scope).symm)

/-- Of a row that is listed once, all that is left of it is taken. -/
theorem coverageOf_sms (distinct : DistinctRows (smsInput scope)) {row : AccountUnsettledRow}
    (member : row ∈ scope.rows ++ scope.accountRows) :
    coverageOf (allocateAccountSettlement (smsInput scope)).takes { kind := row.kind, id := row.id } =
      OmtSmsSettlement.fromMinor |OmtSmsSettlement.toMinor (remaining row scope.currency) scope.currency| scope.currency := by
  have listed : toAllocRow scope.currency scope.coveredTypes row ∈ all (smsInput scope) := by
    refine (all_perm (smsInput scope)).mem_iff.mpr ?_
    change _ ∈ scope.rows.map _ ++ scope.accountRows.map _
    rw [← List.map_append]
    exact List.mem_map_of_mem member
  obtain ⟨i, hasI, isRow⟩ := List.mem_iff_getElem.mp listed
  have isRow : (all (smsInput scope))[i]? = some (toAllocRow scope.currency scope.coveredTypes row) := by
    rw [List.getElem?_eq_getElem hasI, isRow]
  have sane := (kept_settled (standardEps_sms scope)).sane
  have taken : (settled (smsInput scope)).taken i = cap (smsInput scope) i := by
    have left := sane.abs_rem i
    rw [rem_sms scope i (mem_indices.mpr hasI), abs_zero] at left
    omega
  have covered := coverageOf_settled distinct (standardEps_sms scope) hasI
  rw [rowRef_of isRow, taken, cap, orig_of isRow] at covered
  exact covered

theorem extra_sms : extraMinor (smsInput scope) = 0 := by
  have left : owed (smsInput scope) (settled (smsInput scope)) = 0 := by
    apply List.sum_eq_zero
    intro x member
    obtain ⟨i, inside, rfl⟩ := List.mem_map.mp member
    exact rem_sms scope i inside
  have moved := owed_settled (standardEps_sms scope)
  rw [left, owed_sms] at moved
  rw [extraMinor, budget_sms]
  omega

theorem rowClass_sms {i : Nat} (inside : i ∈ indices (smsInput scope)) : rowClass (smsInput scope) i = .closed :=
  rowClass_closed (standardEps_sms scope) (rem_sms scope i inside)

theorem refsOf_closed : refsOf (smsInput scope) .closed = (all (smsInput scope)).map refOf := by
  have every : (indices (smsInput scope)).filter (fun i => rowClass (smsInput scope) i = .closed) = indices (smsInput scope) :=
    List.filter_eq_self.mpr fun i inside => decide_eq_true (rowClass_sms scope inside)
  rw [refsOf, every, map_rowRef]

theorem refsOf_untouched : refsOf (smsInput scope) .untouched = [] := by
  have none' : (indices (smsInput scope)).filter (fun i => rowClass (smsInput scope) i = .untouched) = [] := by
    rw [List.filter_eq_nil_iff]
    intro i inside
    rw [rowClass_sms scope inside]
    simp
  rw [refsOf, none', List.map_nil]

theorem firstPartial_sms {rows : List Nat} (inside : ∀ i ∈ rows, i ∈ indices (smsInput scope)) :
    firstPartial (smsInput scope) rows = none := by
  have none' : rows.find? (fun i => rowClass (smsInput scope) i = .partly) = none := by
    rw [List.find?_eq_none]
    intro i member
    rw [rowClass_sms scope (inside i member)]
    simp
  rw [firstPartial, none', Option.map_none]

/-! The profit split. -/

/-- A ticked day row with commission still to come. -/
def carries (row : AccountUnsettledRow) : Bool :=
  isOmtRowCovered row scope.coveredTypes && 0 < outstandingMinor row scope.currency

/-- The allocator's estimated rows, told by the row. -/
def isEstimated (row : AllocRow) : Bool :=
  (row.commissionModel1 && AccountSettle.toMinor (smsInput scope) row.remaining ≠ 0 && row.commissionTicked.getD true) &&
    0 < |AccountSettle.toMinor (smsInput scope) (row.commissionEstimate.getD 0)|

def estimateOf (row : AllocRow) : ℤ :=
  |AccountSettle.toMinor (smsInput scope) (row.commissionEstimate.getD 0)|

theorem estimateOf_row (row : AccountUnsettledRow) : estimateOf scope (toAllocRow scope.currency scope.coveredTypes row) =
    if isOmtRowCovered row scope.coveredTypes then outstandingMinor row scope.currency else 0 := by
  change |OmtSmsSettlement.toMinor (if isOmtRowCovered row scope.coveredTypes = true then
    OmtSmsSettlement.fromMinor (outstandingMinor row scope.currency) scope.currency else 0) scope.currency| = _
  split_ifs
  · rw [toMinor_fromMinor, abs_of_nonneg (outstandingMinor_nonneg row scope.currency)]
  · rw [OmtSmsSettlement.toMinor, zero_mul]
    decide +kernel

/-- Commission is carried only by open transfers. -/
theorem isEstimated_row {row : AccountUnsettledRow} (inside : row ∈ scope.rows) :
    isEstimated scope (toAllocRow scope.currency scope.coveredTypes row) = carries scope row := by
  have estimate := estimateOf_row scope row
  unfold estimateOf at estimate
  unfold isEstimated carries
  rw [estimate]
  by_cases covered : isOmtRowCovered row scope.coveredTypes = true
  · rw [if_pos covered, covered]
    by_cases some' : 0 < outstandingMinor row scope.currency
    · obtain ⟨service, model⟩ := outstandingMinor_model1 some'
      have isOpen : AccountSettle.toMinor (smsInput scope) (remaining row scope.currency) ≠ 0 :=
        toMinor_ne_zero (scope.isOpen row inside some')
      simp [toAllocRow, smsCommissionWeight, service, model, covered, isOpen, some']
    · simp [some']
  · simp [covered]

/-- The day rows in their places, chosen and told by the row. -/
theorem places_of_rows {β : Type*} (input : AllocInput) (p : Option AllocRow → Bool) (f : Option AllocRow → β) :
    (((rowIdx input).filter fun i => p (all input)[i]?).map fun i => f (all input)[i]?) =
      ((sorted input.rows).filter fun row => p (some row)).map fun row => f (some row) := by
  have listed : (rowIdx input).map (fun i => (all input)[i]?) = (sorted input.rows).map some := by
    have length : (sorted input.rows).length = nRows input := List.length_insertionSort _ _
    apply List.ext_getElem
    · rw [List.length_map, List.length_map, length, rowIdx, indices, List.take_range, List.length_range, length_all]
      omega
    · intro i inside bound
      rw [List.length_map] at bound
      simp only [List.getElem_map, rowIdx, indices, List.take_range, List.getElem_range, all]
      rw [List.getElem?_append_left bound, List.getElem?_eq_getElem bound]
  calc _ = (((rowIdx input).map fun i => (all input)[i]?).filter p).map f := by
        rw [List.filter_map, List.map_map]
        rfl
    _ = _ := by
        rw [listed, List.filter_map, List.map_map]
        rfl

theorem estimatedRows_places : estimatedRows (smsInput scope) = (rowIdx (smsInput scope)).filter fun i =>
    ((all (smsInput scope))[i]?.map (isEstimated scope)).getD false := by
  rw [estimatedRows, commissionRows, List.filter_filter]
  apply List.filter_congr
  intro i _
  unfold model1 orig AccountSettle.ticked estimate
  rcases (all (smsInput scope))[i]? with _ | row
  · rfl
  · simp only [Option.map_some, Option.getD_some, isEstimated]
    rw [Bool.and_comm]

/-- Read off the estimated rows, in their places, is read off the rows that carry commission. -/
theorem estimated_perm {β : Type*} (f : AllocRow → β) (other : β) :
    ((estimatedRows (smsInput scope)).map fun i => ((all (smsInput scope))[i]?.map f).getD other).Perm
      ((scope.rows.filter (carries scope)).map fun row => f (toAllocRow scope.currency scope.coveredTypes row)) := by
  have chosen : ((scope.rows.map (toAllocRow scope.currency scope.coveredTypes)).filter (isEstimated scope)).map f =
      (scope.rows.filter (carries scope)).map fun row => f (toAllocRow scope.currency scope.coveredTypes row) := by
    rw [List.filter_map, List.map_map]
    congr 1
    exact List.filter_congr fun row inside => isEstimated_row scope inside
  rw [estimatedRows_places, places_of_rows (smsInput scope) (fun row => (row.map (isEstimated scope)).getD false)
    fun row => (row.map f).getD other, ← chosen]
  exact ((List.perm_insertionSort _ _).filter _).map f

theorem sum_estimates : ((estimatedRows (smsInput scope)).map (estimate (smsInput scope))).sum = commissionAll scope := by
  have accounts : (scope.accountRows.map fun row =>
      if isOmtRowCovered row scope.coveredTypes then outstandingMinor row scope.currency else 0).sum = 0 := by
    apply List.sum_eq_zero
    intro x member
    obtain ⟨row, inside, rfl⟩ := List.mem_map.mp member
    rw [outstandingMinor_ledger (scope.onDays row inside), ite_self]
  have days : ∀ rows : List AccountUnsettledRow, ((rows.filter (carries scope)).map fun row =>
      estimateOf scope (toAllocRow scope.currency scope.coveredTypes row)).sum =
        (rows.map fun row => if isOmtRowCovered row scope.coveredTypes then outstandingMinor row scope.currency else 0).sum := by
    intro rows
    induction rows with
    | nil => rfl
    | cons row rest ih =>
      rw [List.map_cons, List.sum_cons, ← ih]
      by_cases here : carries scope row = true
      · rw [List.filter_cons_of_pos here, List.map_cons, List.sum_cons, estimateOf_row]
      · rw [List.filter_cons_of_neg here]
        have none' : (if isOmtRowCovered row scope.coveredTypes then outstandingMinor row scope.currency else 0) = 0 := by
          have nonneg := outstandingMinor_nonneg row scope.currency
          simp only [carries, Bool.and_eq_true, decide_eq_true_iff, not_and, not_lt] at here
          split_ifs with covered
          · exact le_antisymm (here covered) nonneg
          · rfl
        rw [none', zero_add]
  calc ((estimatedRows (smsInput scope)).map (estimate (smsInput scope))).sum
      = ((scope.rows.filter (carries scope)).map fun row =>
          estimateOf scope (toAllocRow scope.currency scope.coveredTypes row)).sum :=
        (estimated_perm scope (estimateOf scope) 0).sum_eq
    _ = commissionAll scope := by
        rw [days, commissionAll, commissionMinorOf, List.map_append, List.sum_append, accounts, add_zero]

theorem estimate_pos {i : Nat} (inside : i ∈ estimatedRows (smsInput scope)) : 0 < estimate (smsInput scope) i :=
  of_decide_eq_true (List.mem_filter.mp inside).2

theorem estimatedRows_distinct : (estimatedRows (smsInput scope)).Nodup :=
  ((pool_rowIdx (smsInput scope)).distinct.filter _).filter _

theorem commissionAlloc_sms : commissionAlloc (smsInput scope) = (estimatedRows (smsInput scope)).map fun i =>
    ((rowRef (smsInput scope) i).id, (estimate (smsInput scope) i : ℚ) / minorFactor scope.currency) := by
  have nonneg : ∀ i ∈ estimatedRows (smsInput scope), 0 ≤ estimate (smsInput scope) i := fun i inside => (estimate_pos scope inside).le
  have total := sum_estimates scope
  have shares := sharesAll_nonneg scope
  have covers : (smsInput scope).commissionCovers = true := rfl
  unfold commissionAlloc commissionShares
  rw [covers, splitMinor_sms, commissionMinor_sms]
  rcases (commissionAll_nonneg scope).eq_or_lt with none' | some'
  · have empty : estimatedRows (smsInput scope) = [] := by
      rw [List.eq_nil_iff_forall_not_mem]
      intro i inside
      have within := le_sum_map nonneg i inside
      have positive := estimate_pos scope inside
      omega
    rw [empty, ← none']
    rcases shares.eq_or_lt with noShare | _ <;> simp_all
  · have listed : estimatedRows (smsInput scope) ≠ [] := by
      intro empty
      rw [empty] at total
      exact some'.ne total
    have each : ∀ i ∈ estimatedRows (smsInput scope),
        spread (estimatedRows (smsInput scope)) (estimate (smsInput scope)) (commissionAll scope) i = estimate (smsInput scope) i := by
      intro i inside
      rw [← total]
      exact spread_whole nonneg (total ▸ some') (estimatedRows_distinct scope) inside
    rw [if_neg (by simp [some'.ne']), if_pos (by simp [some'])]
    dsimp only
    rw [if_neg (by simp [listed]), if_pos total.ge]
    dsimp only
    rw [if_pos rfl, List.filter_eq_self.mpr]
    · apply List.map_congr_left
      intro i inside
      rw [each i inside]
      rfl
    · intro i inside
      apply decide_eq_true
      rw [each i inside]
      exact Int.cast_pos.mpr (estimate_pos scope inside)

end

/-- Everything is closed, to the minor unit. -/
structure ClosesAll (scope : SmsScope) (result : AllocResult) : Prop where
  closed : result.closed.Perm ((scope.rows ++ scope.accountRows).map fun row => { kind := row.kind, id := row.id })
  /-- where no row is listed twice -/
  covered : DistinctRows (smsInput scope) → ∀ row ∈ scope.rows ++ scope.accountRows,
    coverageOf result.takes { kind := row.kind, id := row.id } =
      OmtSmsSettlement.fromMinor |OmtSmsSettlement.toMinor (remaining row scope.currency) scope.currency| scope.currency
  untouched : result.untouched = []
  dayPartial : result.partialRow = none
  accountPartial : result.accountPartial = none
  extra : result.extra = 0
  credit : result.creditUsedTooHigh = false
  collected : (smsShares scope).collected = ticked scope
  allocated : result.commissionAlloc.Perm
    ((scope.rows.filter (carries scope)).map fun row => (row.id, outstandingEstimate row scope.currency))

/-- Settling by the SMS that is expected, with all the account credit, closes everything. -/
theorem sms_closes_all (scope : SmsScope) : ClosesAll scope (allocateAccountSettlement (smsInput scope)) where
  closed := by
    have named : (all (smsInput scope)).map refOf = refsOf (smsInput scope) .closed := (refsOf_closed scope).symm
    change (refsOf (smsInput scope) .closed).Perm _
    rw [← named]
    refine ((all_perm (smsInput scope)).map refOf).trans (List.Perm.of_eq ?_)
    change ((scope.rows.map _ ++ scope.accountRows.map _).map refOf) = _
    rw [← List.map_append, List.map_map]
    rfl
  covered distinct _ member := coverageOf_sms scope distinct member
  untouched := refsOf_untouched scope
  dayPartial := firstPartial_sms scope fun i inside => (pool_rowIdx (smsInput scope)).inside.subset inside
  accountPartial := firstPartial_sms scope fun i inside => mem_indices.mpr (mem_acctIdx.mp inside).2
  extra := by
    change AccountSettle.fromMinor (smsInput scope) (extraMinor (smsInput scope)) = 0
    rw [extra_sms, AccountSettle.fromMinor, Int.cast_zero, zero_div]
  credit := creditUsed_fits rfl (allCredit_sms scope)
  collected := by rw [smsShares_eq]
  allocated := by
    have read : ∀ i, ((rowRef (smsInput scope) i).id, (estimate (smsInput scope) i : ℚ) / minorFactor scope.currency) =
        ((all (smsInput scope))[i]?.map fun row => (row.id, (estimateOf scope row : ℚ) / minorFactor scope.currency)).getD (0, 0) := by
      intro i
      unfold rowRef estimate
      rcases (all (smsInput scope))[i]? with _ | row
      · simp
      · rfl
    change (commissionAlloc (smsInput scope)).Perm _
    rw [commissionAlloc_sms, List.map_congr_left fun i _ => read i]
    refine (estimated_perm scope _ _).trans (List.Perm.of_eq ?_)
    apply List.map_congr_left
    intro row member
    have carrying := (List.mem_filter.mp member).2
    rw [carries, Bool.and_eq_true] at carrying
    rw [estimateOf_row, if_pos carrying.1]
    rfl

def omtTransfer (id : Nat) (remainingUsd : ℚ) (type : OmtServiceType) (expected : ℚ) : AccountUnsettledRow where
  kind := .financialService
  id := id
  supplierId := 1
  createdAt := "2026-11-03 10:00:00"
  remainingUsd := remainingUsd
  remainingLbp := 0
  commissionModel := some 1
  sourceProvider := some "OMT"
  omtServiceType := some (.service type)
  expectedCommissionUsd := some expected

/-- OMT owes the shop more than the shop owes, and a share from before. -/
def collecting : SmsScope where
  currency := .usd
  rows := [omtTransfer 505 204 .cashToBusiness 1, omtTransfer 507 (101 / 2) .onlineBrokerage 3, omtTransfer 1346 (-1000) .westernUnion 2]
  accountRows := [{ kind := .ledger, id := 323, supplierId := 1, createdAt := "2026-11-02 09:00:00", remainingUsd := 200, remainingLbp := 0 }]
  coveredTypes := some [.service .cashToBusiness, .service .westernUnion]
  owedShares := [{ omtServiceType := .service .westernUnion, currency := .usd, amount := 5 / 2 }]
  onDays := by decide
  isOpen := by decide +kernel
  nonneg := by decide +kernel

theorem sms_closes_all_collecting : (smsFigure collecting).expected = -551 ∧ smsCommission collecting = 11 / 2 ∧
    coverageOf (allocateAccountSettlement (smsInput collecting)).takes { kind := .financialService, id := 1346 } = 1000 ∧
    ClosesAll collecting (allocateAccountSettlement (smsInput collecting)) :=
  ⟨by decide +kernel, by decide +kernel, by decide +kernel, sms_closes_all collecting⟩

end Liratek.Money.SmsCloses
