import Liratek.Money.AccountConservation

/-! At most one day row and one account row are left part-covered, because every queue is covered oldest first. -/

namespace Liratek.Money.AccountSettle
open FifoCoverage Lib.Coverage

variable {input : AllocInput}

/-! The first two nettings each leave one side closed. -/

theorem Netting.one_sided {l l' mid : Ledger} {debtPool creditPool : List Nat} {n : ℤ}
    {debits credits : List (FifoTake Nat ℤ)} (netting : Netting input l l' debtPool creditPool n mid debits credits)
    (sane : Sane input l) (debts : Pool input debtPool) (creds : Pool input creditPool)
    (amount : n = max 0 (reach l debtPool creditPool none)) :
    (∀ i ∈ debtPool, 1 * l'.rem i ≤ 0) ∨ (∀ i ∈ creditPool, -1 * l'.rem i ≤ 0) := by
  have sane' := netting.debit.sane sane
  rcases le_total (openTotal debtPool l.rem) (openTotal creditPool fun i => -l.rem i) with debtsLess | creditsLess
  · left
    have enough : openTotal debtPool (fun i => 1 * l.rem i) ≤ n := by
      simp only [one_mul]
      rw [amount, reach, upTo, min_eq_left debtsLess]
      exact le_max_right _ _
    intro i inside
    exact netting.credit.open_anti sane' isSide_one i (netting.debit.closes sane debts.distinct enough i inside)
  · right
    refine netting.credit.closes sane' creds.distinct ?_
    rw [← openTotal_congr fun i _ => netting.debit.credit_open sane i, amount, reach, upTo, min_eq_right creditsLess]
    exact le_max_right _ _

theorem days_one_sided (standard : StandardEps input) :
    ∃ s, IsSide s ∧ ∀ i ∈ rowIdx input, s * (settled input).rem i ≤ 0 := by
  obtain ⟨mid, debits, credits, first⟩ := dayNetted_netting standard
  have kept := kept_dayNetted standard
  have run := run_from_dayNetted standard
  rcases first.one_sided sane_opening (pool_rowIdx input) (pool_rowIdx input) (net_amount standard _ _ _ _) with
    debts | creds
  · exact ⟨1, isSide_one, fun i inside => closed_run run kept isSide_one i (debts i inside)⟩
  · exact ⟨-1, isSide_neg, fun i inside => closed_run run kept isSide_neg i (creds i inside)⟩

/-- A row without an amount is never open. -/
theorem Sane.rem_of_orig {l : Ledger} (sane : Sane input l) {i : Nat} (empty : orig input i = 0) : l.rem i = 0 := by
  have bound := sane.bounded i
  have nonneg := sane.nonneg i
  have none : cap input i = 0 := by rw [cap, empty, abs_zero]
  have zero : cap input i - l.taken i = 0 := by omega
  rw [sane.rem, zero, mul_zero]

theorem Sane.rem_sign {l : Ledger} (sane : Sane input l) (i : Nat) :
    (0 ≤ orig input i → 0 ≤ l.rem i) ∧ (orig input i ≤ 0 → l.rem i ≤ 0) := by
  have signs := sane.sign List.prefix_rfl i
  rw [leftAfter_eq, sane.amounts, ← sane.rem] at signs
  exact signs

theorem accounts_one_sided (standard : StandardEps input) :
    ∃ s, IsSide s ∧ ∀ i ∈ acctIdx input, s * (settled input).rem i ≤ 0 := by
  obtain ⟨mid, debits, credits, second⟩ := accountNetted_netting standard
  have kept := kept_accountNetted standard
  have run := run_from_accountNetted standard
  have final := (kept_settled standard).sane
  rcases second.one_sided (kept_dayNetted standard).sane (pool_acctDebtIdx input) (pool_acctCreditIdx input)
    (net_amount standard _ _ _ _) with debts | creds
  · refine ⟨1, isSide_one, fun i inside => ?_⟩
    rcases lt_or_ge 0 (orig input i) with positive | low
    · exact closed_run run kept isSide_one i (debts i (mem_acctDebtIdx.mpr ⟨inside, positive⟩))
    · rw [one_mul]
      exact (final.rem_sign i).2 low
  · refine ⟨-1, isSide_neg, fun i inside => ?_⟩
    rcases lt_or_ge (orig input i) 0 with negative | high
    · exact closed_run run kept isSide_neg i (creds i (mem_acctCreditIdx.mpr ⟨inside, negative⟩))
    · rw [neg_one_mul, neg_nonpos]
      exact (final.rem_sign i).1 high

/-! A covered row has no older open row in its queue. -/

/-- When a row is covered, the older rows of its queue are full. -/
theorem Kept.full_before {l : Ledger} (kept : Kept input l) {before after : List Take} {t : Take}
    (split : l.takes = before ++ t :: after) {i : Nat} (earlier : i < t.i) (same : SameQueue input i t.i) :
    placed before i = cap input i := by
  refine kept.order (before.map place) (place t) (after.map place) ?_ i earlier same
  rw [split, List.map_append, List.map_cons]

theorem Kept.closed_of_later {l : Ledger} (kept : Kept input l) {i j : Nat} (earlier : i < j)
    (same : SameQueue input i j) (covered : l.taken j ≠ 0) : l.rem i = 0 := by
  have hasEntry : amountAt (l.takes.map place) j ≠ 0 := by
    have amount : amountAt (l.takes.map place) j = l.taken j := kept.sane.amounts j
    rw [amount]
    exact covered
  obtain ⟨e, member, here⟩ := exists_entry hasEntry
  obtain ⟨t, isThere, rfl⟩ := List.mem_map.mp member
  obtain ⟨before, after, split⟩ := List.append_of_mem isThere
  have isAt : t.i = j := here
  have full := kept.full_before split (isAt.symm ▸ earlier) (isAt.symm ▸ same)
  have within_ := kept.sane.placed_le ⟨t :: after, split.symm⟩ i
  have total := kept.sane.amounts i
  have rest : 0 ≤ placed (t :: after) i :=
    placed_nonneg (fun a inside => kept.sane.positive a (split ▸ List.mem_append_right _ inside)) i
  have bound := kept.sane.bounded i
  rw [split, placed_append] at total
  have none : cap input i - l.taken i = 0 := by omega
  rw [kept.sane.rem, none, mul_zero]

theorem rowClass_partly (standard : StandardEps input) (i : Nat) :
    rowClass input i = .partly ↔ (settled input).rem i ≠ 0 ∧ (settled input).taken i ≠ 0 := by
  unfold rowClass
  split_ifs with closed untouched
  · rw [isZero_iff standard] at closed
    simp [closed]
  · simp [untouched]
  · rw [isZero_iff standard] at closed
    simp [closed, untouched]

theorem rowClass_closed (standard : StandardEps input) {i : Nat} (closed : (settled input).rem i = 0) :
    rowClass input i = .closed := by
  unfold rowClass
  rw [if_pos ((isZero_iff standard).mpr closed)]

/-- Rows of one class that are open on one side hold at most one part-covered row. -/
theorem partly_unique (standard : StandardEps input) {rows : List Nat} {s : ℤ} (isSide : IsSide s)
    (oneSided : ∀ i ∈ rows, s * (settled input).rem i ≤ 0)
    (alike : ∀ i ∈ rows, ∀ j ∈ rows, i < nRows input ↔ j < nRows input) {i j : Nat} (hasI : i ∈ rows) (hasJ : j ∈ rows)
    (partI : rowClass input i = .partly) (partJ : rowClass input j = .partly) : i = j := by
  have kept := kept_settled standard
  obtain ⟨openI, coveredI⟩ := (rowClass_partly standard i).mp partI
  obtain ⟨openJ, coveredJ⟩ := (rowClass_partly standard j).mp partJ
  have isSideNeg : IsSide (-s) := by rcases isSide with rfl | rfl; exacts [isSide_neg, isSide_one]
  have sideOf : ∀ k ∈ rows, (settled input).rem k ≠ 0 → side input k = -s := by
    intro k inside isOpen
    refine kept.sane.side_of_open isSideNeg ?_
    rw [neg_mul, neg_pos]
    refine lt_of_le_of_ne (oneSided k inside) (mul_ne_zero ?_ isOpen)
    rcases isSide with rfl | rfl <;> decide
  have sides : side input i = side input j := (sideOf i hasI openI).trans (sideOf j hasJ openJ).symm
  rcases lt_trichotomy i j with less | same | more
  · have hasAmount : orig input i ≠ 0 := fun empty => openI (kept.sane.rem_of_orig empty)
    exact absurd (kept.closed_of_later less ⟨alike i hasI j hasJ, sides, hasAmount⟩ coveredJ) openI
  · exact same
  · have hasAmount : orig input j ≠ 0 := fun empty => openJ (kept.sane.rem_of_orig empty)
    exact absurd (kept.closed_of_later more ⟨alike j hasJ i hasI, sides.symm, hasAmount⟩ coveredI) openJ

theorem day_partly_unique (standard : StandardEps input) {i j : Nat} (hasI : i ∈ rowIdx input) (hasJ : j ∈ rowIdx input)
    (partI : rowClass input i = .partly) (partJ : rowClass input j = .partly) : i = j := by
  obtain ⟨s, isSide, oneSided⟩ := days_one_sided standard
  refine partly_unique standard isSide oneSided (fun a hasA b hasB => ?_) hasI hasJ partI partJ
  exact iff_of_true (mem_rowIdx.mp hasA) (mem_rowIdx.mp hasB)

theorem account_partly_unique (standard : StandardEps input) {i j : Nat} (hasI : i ∈ acctIdx input)
    (hasJ : j ∈ acctIdx input) (partI : rowClass input i = .partly) (partJ : rowClass input j = .partly) : i = j := by
  obtain ⟨s, isSide, oneSided⟩ := accounts_one_sided standard
  refine partly_unique standard isSide oneSided (fun a hasA b hasB => ?_) hasI hasJ partI partJ
  exact iff_of_false (not_lt.mpr (mem_acctIdx.mp hasA).1) (not_lt.mpr (mem_acctIdx.mp hasB).1)

end Liratek.Money.AccountSettle
