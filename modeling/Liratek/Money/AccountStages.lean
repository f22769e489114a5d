import Liratek.Money.AccountSteps

/-! The whole settlement as passes: from the rows as they came to the rows as they are left. -/

namespace Liratek.Money.AccountSettle
open FifoCoverage Lib.Coverage

variable {input : AllocInput}

theorem dayNetted_netting (standard : StandardEps input) :
    ∃ mid debits credits, Netting input (opening input) (dayNetted input).1 (rowIdx input) (rowIdx input)
      (dayNetted input).2 mid debits credits :=
  net_netting standard sane_opening (pool_rowIdx input) (pool_rowIdx input) none

theorem kept_dayNetted (standard : StandardEps input) : Kept input (dayNetted input).1 := by
  obtain ⟨mid, debits, credits, netting⟩ := dayNetted_netting standard
  exact netting.kept kept_opening (pool_rowIdx input) (pool_rowIdx input)

theorem accountNetted_netting (standard : StandardEps input) :
    ∃ mid debits credits, Netting input (dayNetted input).1 (accountNetted input).1 (acctDebtIdx input)
      (acctCreditIdx input) (accountNetted input).2 mid debits credits :=
  net_netting standard (kept_dayNetted standard).sane (pool_acctDebtIdx input) (pool_acctCreditIdx input) none

theorem kept_accountNetted (standard : StandardEps input) : Kept input (accountNetted input).1 := by
  obtain ⟨mid, debits, credits, netting⟩ := accountNetted_netting standard
  exact netting.kept (kept_dayNetted standard) (pool_acctDebtIdx input) (pool_acctCreditIdx input)

theorem netted_netting (standard : StandardEps input) :
    ∃ n mid debits credits, Netting input (accountNetted input).1 (netted input) (acctDebtIdx input) (rowIdx input) n
      mid debits credits :=
  ⟨_, net_netting standard (kept_accountNetted standard).sane (pool_acctDebtIdx input) (pool_rowIdx input) none⟩

theorem kept_netted (standard : StandardEps input) : Kept input (netted input) := by
  obtain ⟨n, mid, debits, credits, netting⟩ := netted_netting standard
  exact netting.kept (kept_accountNetted standard) (pool_acctDebtIdx input) (pool_rowIdx input)

theorem credited_netting (standard : StandardEps input) :
    ∃ mid debits credits, Netting input (netted input) (credited input).1 (scopeIdx input) (acctCreditIdx input)
      (credited input).2 mid debits credits := by
  unfold credited
  split_ifs with chosen
  · exact net_netting standard (kept_netted standard).sane (pool_scopeIdx input) (pool_acctCreditIdx input) _
  · exact ⟨netted input, [], [], le_rfl, Round.none _ _ isSide_one, Round.none _ _ isSide_neg, rfl, rfl⟩

theorem kept_credited (standard : StandardEps input) : Kept input (credited input).1 := by
  obtain ⟨mid, debits, credits, netting⟩ := credited_netting standard
  exact netting.kept (kept_netted standard) (pool_scopeIdx input) (pool_acctCreditIdx input)

/-! The budget. -/

theorem isSide_budgetSign (input : AllocInput) : IsSide (budgetSign input) := by
  unfold budgetSign
  split_ifs
  · exact isSide_one
  · exact isSide_neg

theorem scopeTakes_covers (standard : StandardEps input) :
    Covers (scopeIdx input) (fun i => budgetSign input * (credited input).1.rem i) |budget input| (scopeTakes input) := by
  have shape : scopeTakes input = allocateFifo within (((scopeIdx input).filter fun i =>
      !within ((credited input).1.rem i * budgetSign input)).map fun i =>
        { id := i, outstanding := (credited input).1.rem i * budgetSign input }) |budget input| := by
    unfold scopeTakes
    simp only [openDebts_eq standard, openCredits_eq standard]
    rcases isSide_budgetSign input with same | same
    · simp only [same, mul_one, if_pos Int.one_pos]
    · simp only [same, mul_neg_one, if_neg (show ¬(0 : ℤ) < -1 by decide)]
  rw [shape]
  refine (allocate_covers (pool_scopeIdx input).distinct _ (abs_nonneg _)).congr fun i _ => ?_
  rw [mul_comm]

/-- What the money received may take from the account credit. -/
def creditBudget (input : AllocInput) : ℤ :=
  if budgetSign input < 0 && !creditUsedTooHigh input && 0 < creditForMoneyMinor input then
    min (|budget input| - totalTake (scopeTakes input)) (creditForMoneyMinor input)
  else 0

theorem creditBudget_nonneg (standard : StandardEps input) : 0 ≤ creditBudget input := by
  unfold creditBudget
  split_ifs with taken
  · simp only [Bool.and_eq_true, decide_eq_true_eq] at taken
    refine le_min (sub_nonneg.mpr ?_) taken.2.le
    rw [(scopeTakes_covers standard).total]
    exact min_le_left _ _
  · exact le_rfl

theorem creditTakes_covers (standard : StandardEps input) :
    Covers (acctCreditIdx input) (fun i => -(credited input).1.rem i) (creditBudget input) (creditTakes input) := by
  have nonneg := creditBudget_nonneg standard
  unfold creditBudget creditTakes at *
  split_ifs with taken
  · rw [if_pos taken] at nonneg
    refine (allocateFifo_covers (fun _ => within_iff) (pool_acctCreditIdx input).distinct _ nonneg).congr fun i _ => ?_
    exact max_eq_right (le_max_left _ _)
  · exact covers_nil (min_eq_left (openTotal_nonneg _ _))

theorem creditTakes_of_pay (paying : budgetSign input = 1) : creditTakes input = [] := by
  unfold creditTakes
  rw [paying]
  exact if_neg (by simp)

theorem no_takes (empty : budget input = 0) : scopeTakes input = [] ∧ creditTakes input = [] := by
  have spent : scopeTakes input = [] := by
    unfold scopeTakes
    rw [empty]
    exact allocateFifo_spent (within_iff.mpr (by simp)) _
  refine ⟨spent, ?_⟩
  unfold creditTakes
  split_ifs
  · apply allocateFifo_spent
    rw [within_iff, spent, empty]
    exact (min_le_left _ _).trans (by simp [totalTake])
  · rfl

theorem settled_eq (input : AllocInput) :
    settled input = ((budgetTakes input).foldl (tagTake input) (tagging input)).ledger := by
  unfold settled
  split_ifs with empty
  · obtain ⟨noScope, noCredit⟩ := no_takes empty
    rw [budgetTakes, noScope, noCredit]
    rfl
  · rfl

theorem commissionCoverMinor_nonneg (input : AllocInput) : 0 ≤ commissionCoverMinor input := by
  unfold commissionCoverMinor
  split_ifs
  · exact abs_nonneg _
  · exact le_rfl

/-- The budget covers the scope, then the account credit, and uses up no more than it has. -/
structure Budgeted (input : AllocInput) (mid : Ledger) (scopeAdded creditAdded : List Take) : Prop where
  scope : Round input (credited input).1 mid (scopeIdx input) (budgetSign input) |budget input| (scopeTakes input)
    scopeAdded
  credit : Round input mid (settled input) (acctCreditIdx input) (-1) (creditBudget input) (creditTakes input) creditAdded
  sources : ∀ a ∈ scopeAdded ++ creditAdded, a.source ≠ .netting
  waived : sumFrom .waive (scopeAdded ++ creditAdded) ≤ max 0 (waiveMinor input * budgetSign input)
  commissioned : sumFrom .commission (scopeAdded ++ creditAdded) ≤ commissionCoverMinor input

theorem mem_scopeIdx_side {i : Nat} (inScope : i ∈ scopeIdx input) (inCredit : i ∈ acctCreditIdx input) : False := by
  obtain ⟨account, negative⟩ := mem_acctCreditIdx.mp inCredit
  rcases List.mem_append.mp inScope with day | debt
  · exact absurd (mem_rowIdx.mp day) (not_lt.mpr (mem_acctIdx.mp account).1)
  · exact absurd (mem_acctDebtIdx.mp debt).2 (not_lt.mpr negative.le)

theorem budgeted (standard : StandardEps input) : ∃ mid scopeAdded creditAdded, Budgeted input mid scopeAdded creditAdded := by
  have scopeCovers := scopeTakes_covers standard
  have creditCovers := creditTakes_covers standard
  have commissionLeft : 0 ≤ (tagging input).commissionLeft := by
    unfold tagging
    dsimp only
    split_ifs
    · exact commissionCoverMinor_nonneg input
    · exact le_rfl
  obtain ⟨scopeAdded, scopeTagged⟩ := @tag_run input _ scopeCovers.positive
    ((pool_scopeIdx input).increasing.sublist scopeCovers.ids) (tagging input) (le_max_left _ _) commissionLeft
  obtain ⟨creditAdded, creditTagged⟩ := @tag_run input _ creditCovers.positive
    ((pool_acctCreditIdx input).increasing.sublist creditCovers.ids) _ scopeTagged.waiveLeft scopeTagged.commissionLeft
  have scopeRound : Round input (credited input).1 _ (scopeIdx input) (budgetSign input) |budget input|
      (scopeTakes input) scopeAdded :=
    ⟨isSide_budgetSign input, scopeCovers, scopeTagged.adds, scopeTagged.amounts, scopeTagged.sorted⟩
  rw [← List.foldl_append, ← budgetTakes] at creditTagged
  refine ⟨_, scopeAdded, creditAdded, scopeRound, ⟨isSide_neg, ?_, ?_, creditTagged.amounts, creditTagged.sorted⟩, ?_, ?_, ?_⟩
  · refine creditCovers.congr fun i inCredit => ?_
    have untouched : takeOf (scopeTakes input) i = 0 := scopeRound.outside fun inScope => mem_scopeIdx_side inScope inCredit
    rw [scopeRound.rem, untouched, mul_zero, sub_zero, neg_one_mul]
  · rw [settled_eq]
    exact creditTagged.adds
  · exact fun a member => (List.mem_append.mp member).elim (scopeTagged.sources a) (creditTagged.sources a)
  · rw [sumFrom_append, scopeTagged.waived, creditTagged.waived, sub_add_sub_cancel]
    exact sub_le_self _ creditTagged.waiveLeft
  · rw [sumFrom_append, scopeTagged.commissioned, creditTagged.commissioned, sub_add_sub_cancel]
    refine (sub_le_self _ creditTagged.commissionLeft).trans ?_
    unfold tagging
    dsimp only
    split_ifs
    · exact le_rfl
    · exact commissionCoverMinor_nonneg input

theorem kept_settled (standard : StandardEps input) : Kept input (settled input) := by
  obtain ⟨mid, scopeAdded, creditAdded, steps⟩ := budgeted standard
  exact steps.credit.kept (steps.scope.kept (kept_credited standard) (pool_scopeIdx input)) (pool_acctCreditIdx input)

/-! The runs that follow the first two nettings. -/

theorem run_from_credited (standard : StandardEps input) :
    Relation.ReflTransGen (Passes input) (credited input).1 (settled input) := by
  obtain ⟨mid, scopeAdded, creditAdded, steps⟩ := budgeted standard
  exact (Relation.ReflTransGen.single ⟨_, _, _, _, _, pool_scopeIdx input, steps.scope⟩).tail
    ⟨_, _, _, _, _, pool_acctCreditIdx input, steps.credit⟩

theorem run_from_accountNetted (standard : StandardEps input) :
    Relation.ReflTransGen (Passes input) (accountNetted input).1 (settled input) := by
  obtain ⟨n, mid, debits, credits, third⟩ := netted_netting standard
  obtain ⟨mid', debits', credits', chosen⟩ := credited_netting standard
  exact ((third.run (pool_acctDebtIdx input) (pool_rowIdx input)).trans
    (chosen.run (pool_scopeIdx input) (pool_acctCreditIdx input))).trans (run_from_credited standard)

theorem run_from_dayNetted (standard : StandardEps input) :
    Relation.ReflTransGen (Passes input) (dayNetted input).1 (settled input) := by
  obtain ⟨mid, debits, credits, second⟩ := accountNetted_netting standard
  exact (second.run (pool_acctDebtIdx input) (pool_acctCreditIdx input)).trans (run_from_accountNetted standard)

end Liratek.Money.AccountSettle
