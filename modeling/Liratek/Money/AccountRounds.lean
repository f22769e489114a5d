import Liratek.Money.AccountPasses

/-! The pools of the account settlement, and the passes over them: three nettings, the chosen credit, the budget. -/

namespace Liratek.Money.AccountSettle
open FifoCoverage Lib.Coverage

variable {input : AllocInput}

theorem length_all (input : AllocInput) : (all input).length = nRows input + input.accountCredits.length := by
  rw [all, List.length_append, sorted, sorted, List.length_insertionSort, List.length_insertionSort, nRows]

theorem rows_append (input : AllocInput) : rowIdx input ++ acctIdx input = indices input :=
  List.take_append_drop _ _

theorem indices_increasing (input : AllocInput) : (indices input).Pairwise (· < ·) :=
  List.pairwise_lt_range

theorem mem_indices {i : Nat} : i ∈ indices input ↔ i < (all input).length :=
  List.mem_range

theorem mem_rowIdx {i : Nat} : i ∈ rowIdx input ↔ i < nRows input := by
  have fits := length_all input
  rw [rowIdx, indices, List.take_range, List.mem_range]
  omega

theorem mem_acctIdx {i : Nat} : i ∈ acctIdx input ↔ nRows input ≤ i ∧ i < (all input).length := by
  have distinct : (rowIdx input ++ acctIdx input).Nodup := by
    rw [rows_append]
    exact (indices_increasing input).imp fun less => less.ne
  constructor
  · intro member
    have elsewhere : i ∉ rowIdx input := fun here => (List.nodup_append.mp distinct).2.2 i here i member rfl
    have inside : i ∈ rowIdx input ++ acctIdx input := List.mem_append_right _ member
    rw [rows_append] at inside
    exact ⟨not_lt.mp fun low => elsewhere (mem_rowIdx.mpr low), mem_indices.mp inside⟩
  · rintro ⟨high, inside⟩
    have member : i ∈ rowIdx input ++ acctIdx input := by
      rw [rows_append]
      exact mem_indices.mpr inside
    exact (List.mem_append.mp member).resolve_left fun here => absurd (mem_rowIdx.mp here) (not_lt.mpr high)

/-- Rows that queue up: day rows or account rows, on one side. -/
def SameQueue (input : AllocInput) (i j : Nat) : Prop :=
  (i < nRows input ↔ j < nRows input) ∧ side input i = side input j ∧ orig input i ≠ 0

/-- A pool lists whole queues in order. -/
structure Pool (input : AllocInput) (pool : List Nat) : Prop where
  inside : pool.Sublist (indices input)
  closed : ∀ j ∈ pool, ∀ i, i < j → SameQueue input i j → i ∈ pool

theorem Pool.increasing {pool : List Nat} (isPool : Pool input pool) : pool.Pairwise (· < ·) :=
  (indices_increasing input).sublist isPool.inside

theorem Pool.distinct {pool : List Nat} (isPool : Pool input pool) : pool.Nodup :=
  isPool.increasing.imp fun less => less.ne

theorem pool_rowIdx (input : AllocInput) : Pool input (rowIdx input) where
  inside := List.take_sublist _ _
  closed _ member _ _ same := mem_rowIdx.mpr (same.1.mpr (mem_rowIdx.mp member))

theorem mem_acctDebtIdx {i : Nat} : i ∈ acctDebtIdx input ↔ i ∈ acctIdx input ∧ 0 < orig input i := by
  rw [acctDebtIdx, List.mem_filter, decide_eq_true_iff]

theorem mem_acctCreditIdx {i : Nat} : i ∈ acctCreditIdx input ↔ i ∈ acctIdx input ∧ orig input i < 0 := by
  rw [acctCreditIdx, List.mem_filter, decide_eq_true_iff]

theorem mem_acctIdx_of_same {i j : Nat} (member : j ∈ acctIdx input) (earlier : i < j) (same : SameQueue input i j) :
    i ∈ acctIdx input := by
  rw [mem_acctIdx] at member ⊢
  exact ⟨not_lt.mp fun low => absurd (same.1.mp low) (not_lt.mpr member.1), earlier.trans member.2⟩

theorem side_of_pos {i : Nat} (positive : 0 < orig input i) : side input i = 1 :=
  if_pos positive

theorem side_of_nonpos {i : Nat} (low : orig input i ≤ 0) : side input i = -1 :=
  if_neg (not_lt.mpr low)

theorem pos_of_side {i : Nat} (same : side input i = 1) : 0 < orig input i := by
  by_contra low
  rw [side_of_nonpos (not_lt.mp low)] at same
  exact absurd same (by decide)

theorem nonpos_of_side {i : Nat} (same : side input i = -1) : orig input i ≤ 0 := by
  by_contra high
  rw [side_of_pos (not_le.mp high)] at same
  exact absurd same (by decide)

theorem acctDebtIdx_sublist (input : AllocInput) : (acctDebtIdx input).Sublist (acctIdx input) :=
  List.filter_sublist

theorem pool_acctDebtIdx (input : AllocInput) : Pool input (acctDebtIdx input) where
  inside := (acctDebtIdx_sublist input).trans (List.drop_sublist _ _)
  closed j member i earlier same := by
    obtain ⟨inside, positive⟩ := mem_acctDebtIdx.mp member
    exact mem_acctDebtIdx.mpr ⟨mem_acctIdx_of_same inside earlier same,
      pos_of_side (same.2.1.trans (side_of_pos positive))⟩

theorem pool_acctCreditIdx (input : AllocInput) : Pool input (acctCreditIdx input) where
  inside := List.filter_sublist.trans (List.drop_sublist _ _)
  closed j member i earlier same := by
    obtain ⟨inside, negative⟩ := mem_acctCreditIdx.mp member
    have low := nonpos_of_side (same.2.1.trans (side_of_nonpos negative.le))
    exact mem_acctCreditIdx.mpr ⟨mem_acctIdx_of_same inside earlier same, lt_of_le_of_ne low same.2.2⟩

theorem pool_scopeIdx (input : AllocInput) : Pool input (scopeIdx input) where
  inside := by
    rw [← rows_append]
    exact (acctDebtIdx_sublist input).append_left _
  closed j member i earlier same := by
    rcases List.mem_append.mp member with day | account
    · exact List.mem_append_left _ ((pool_rowIdx input).closed j day i earlier same)
    · exact List.mem_append_right _ ((pool_acctDebtIdx input).closed j account i earlier same)

/-- One pass, whatever it covers. -/
def Passes (input : AllocInput) (l l' : Ledger) : Prop :=
  ∃ pool s budget takes added, Pool input pool ∧ Round input l l' pool s budget takes added

/-- Rows sane, and every queue covered oldest first. -/
structure Kept (input : AllocInput) (l : Ledger) : Prop where
  sane : Sane input l
  order : InOrder (SameQueue input) (cap input) (l.takes.map place)

theorem kept_opening : Kept input (opening input) where
  sane := sane_opening
  order := inOrder_nil _ _

theorem placed_pos {added : List Take} (positive : ∀ t ∈ added, 0 < t.m) {t : Take} (member : t ∈ added) :
    0 < placed added t.i := by
  have here : (t.i, t.m) ∈ (added.map place).filter fun e => e.1 = t.i :=
    List.mem_filter.mpr ⟨List.mem_map_of_mem member, by simp⟩
  refine lt_of_lt_of_le (positive t member) (List.single_le_sum ?_ _ (List.mem_map_of_mem here))
  intro x inside
  obtain ⟨e, isThere, rfl⟩ := List.mem_map.mp inside
  obtain ⟨t', from_, rfl⟩ := List.mem_map.mp (List.mem_filter.mp isThere).1
  exact (positive t' from_).le

theorem Round.kept {l l' : Ledger} {pool : List Nat} {s budget : ℤ} {takes : List (FifoTake Nat ℤ)} {added : List Take}
    (kept : Kept input l) (isPool : Pool input pool) (round : Round input l l' pool s budget takes added) :
    Kept input l' where
  sane := round.sane kept.sane
  order := by
    rw [round.adds.takes, List.map_append]
    refine kept.order.append round.sorted fun e member i earlier same => ?_
    change placed l.takes i + placed added i = cap input i
    obtain ⟨t, isThere, rfl⟩ := List.mem_map.mp member
    have covered : takeOf takes t.i ≠ 0 := by
      rw [← round.amounts]
      exact (placed_pos round.adds.positive isThere).ne'
    have inside := (round.open_of_covered covered).1
    have full := round.covers.full_of_lt isPool.increasing (isPool.closed t.i inside i earlier same) inside earlier covered
    have onSide := kept.sane.open_of_side (same.2.1.trans (round.side_of_covered kept.sane covered))
    rw [kept.sane.amounts, round.amounts, full, onSide]
    omega

/-- A side closed once stays closed. -/
theorem closed_run {l l' : Ledger} (run : Relation.ReflTransGen (Passes input) l l') (kept : Kept input l) {s : ℤ}
    (isSide : IsSide s) (i : Nat) (closed : s * l.rem i ≤ 0) : s * l'.rem i ≤ 0 := by
  have both : Kept input l' ∧ s * l'.rem i ≤ 0 := by
    induction run with
    | refl => exact ⟨kept, closed⟩
    | tail _ pass ih =>
      obtain ⟨pool, s', budget, takes, added, isPool, round⟩ := pass
      exact ⟨round.kept ih.1 isPool, round.open_anti ih.1.sane isSide i ih.2⟩
  exact both.2

end Liratek.Money.AccountSettle
