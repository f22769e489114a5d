import Liratek.Lib.Coverage
import Liratek.Money.AccountSettle
import Mathlib.Algebra.BigOperators.Ring.Finset

/-! The commission entered on a settlement, split over its transfers. -/

namespace Liratek.Money.CommissionSplit
open AccountSettle LargestRemainder
open Lib.Coverage (amountAt)

/-! One spread. -/

section
variable {pool : List Nat} {weight : Nat → ℤ} {total : ℤ}

/-- The rows that `spread` hands to the allocator. -/
def weighted (pool : List Nat) (weight : Nat → ℤ) : List (WeightedAllocationRow Nat) :=
  pool.map fun j => { id := j, weight := some (weight j : ℚ) }

def units (pool : List Nat) (weight : Nat → ℤ) (total : ℤ) : List ℤ :=
  shareUnits (rawShareUnits (weighted pool weight) total) total

/-- What each row gets, in whole minor units. -/
def share (pool : List Nat) (weight : Nat → ℤ) (total : ℤ) : Nat → ℤ :=
  amountAt (pool.zip (units pool weight total))

theorem weighted_some (some' : pool ≠ []) : weighted pool weight ≠ [] := by
  simpa [weighted] using some'

theorem length_units (some' : pool ≠ []) : (units pool weight total).length = pool.length :=
  (length_shares (weighted_some some')).trans (List.length_map _)

theorem spread_eq (positive : 0 < total) (i : Nat) : spread pool weight total i = share pool weight total i := by
  have zipped : (weighted pool weight).zip (units pool weight total) =
      (pool.zip (units pool weight total)).map fun e =>
        (({ id := e.1, weight := some (weight e.1 : ℚ) } : WeightedAllocationRow Nat), e.2) := by
    rw [weighted, List.zip_map_left]
    rfl
  unfold spread
  rw [if_neg (not_le.mpr positive)]
  change (((allocateProportional (weighted pool weight) total 1).filter _).map _).sum = _
  rw [allocateProportional_units positive]
  change (((((weighted pool weight).zip (units pool weight total)).map _).filter _).map _).sum = _
  rw [zipped, List.map_map, List.filter_map, List.map_map, share, amountAt, Int.cast_list_sum, List.map_map]
  rfl

theorem places (some' : pool ≠ []) : (pool.zip (units pool weight total)).map Prod.fst = pool :=
  List.map_fst_zip (length_units some').ge

theorem sum_share (some' : pool ≠ []) (distinct : pool.Nodup) : (pool.map (share pool weight total)).sum = total := by
  have inside : ∀ e ∈ pool.zip (units pool weight total), e.1 ∈ pool := fun e member => (List.of_mem_zip member).1
  have amounts : (pool.zip (units pool weight total)).map Prod.snd = units pool weight total :=
    List.map_snd_zip (length_units some').le
  calc (pool.map (share pool weight total)).sum = ((pool.zip (units pool weight total)).map Prod.snd).sum :=
        Lib.Coverage.sum_amountAt distinct inside
    _ = total := by rw [amounts, units, sum_shares (weighted_some some')]

/-- The share of a row is the unit count in its place. -/
theorem share_at (some' : pool ≠ []) (distinct : pool.Nodup) {i k : Nat} (here : pool[k]? = some i) :
    (units pool weight total)[k]? = some (share pool weight total i) := by
  obtain ⟨bound, rfl⟩ := List.getElem?_eq_some_iff.mp here
  have bound' : k < (units pool weight total).length := (length_units some').symm ▸ bound
  have zipBound : k < (pool.zip (units pool weight total)).length := by
    rw [List.length_zip]
    exact lt_min bound bound'
  have own := Lib.Coverage.amountAt_of_distinct ((places some').symm ▸ distinct) (List.getElem_mem zipBound)
  rw [List.getElem_zip] at own
  rw [List.getElem?_eq_getElem bound', share, own]

theorem share_nonneg (some' : pool ≠ []) (nonneg : 0 ≤ total) (i : Nat) : 0 ≤ share pool weight total i := by
  apply List.sum_nonneg
  intro s member
  obtain ⟨e, inside, rfl⟩ := List.mem_map.mp member
  exact shares_nonneg (weighted_some some') nonneg _ (List.of_mem_zip (List.mem_filter.mp inside).1).2

theorem share_le (distinct : pool.Nodup) (positive : 0 < total) (weights : ∀ j ∈ pool, 0 ≤ weight j)
    (upTo : total ≤ (pool.map weight).sum) {i : Nat} (inside : i ∈ pool) : share pool weight total i ≤ weight i := by
  have some' : pool ≠ [] := List.ne_nil_of_mem inside
  obtain ⟨k, bound, rfl⟩ := List.getElem_of_mem inside
  have clamped : clampedWeights (weighted pool weight) = (pool.map weight).map fun w : ℤ => (w : ℚ) :=
    clampedWeights_whole weights
  have upTo' : (total : ℚ) ≤ (clampedWeights (weighted pool weight)).sum := by
    rw [clamped, ← Int.cast_list_sum]
    exact_mod_cast upTo
  have own : (clampedWeights (weighted pool weight))[k]? = some (weight pool[k] : ℚ) := by
    rw [clamped, List.getElem?_map, List.getElem?_map, List.getElem?_eq_getElem bound]
    rfl
  exact share_le_weight positive upTo' own (share_at some' distinct (List.getElem?_eq_getElem bound))

end

/-! The commission of one settlement. -/

section
variable {input : AllocInput}

theorem indices_distinct : (indices input).Nodup :=
  List.nodup_range

theorem commissionRows_distinct : (commissionRows input).Nodup :=
  (indices_distinct.sublist (List.take_sublist _ _)).filter _

theorem estimatedRows_distinct : (estimatedRows input).Nodup :=
  commissionRows_distinct.filter _

theorem estimate_nonneg (i : Nat) : 0 ≤ estimate input i := by
  unfold estimate
  cases (all input)[i]? with
  | none => exact le_rfl
  | some row => exact abs_nonneg _

theorem estimated {i : Nat} : i ∈ estimatedRows input ↔ i ∈ commissionRows input ∧ 0 < estimate input i := by
  rw [estimatedRows, List.mem_filter, decide_eq_true_iff]

/-- Leaving out what is nothing changes no sum. -/
theorem sum_positive {f : Nat → ℤ} (nonneg : ∀ i, 0 ≤ f i) (rows : List Nat) :
    ((rows.filter fun i => 0 < f i).map f).sum = (rows.map f).sum := by
  induction rows with
  | nil => rfl
  | cons i rest ih =>
    rw [List.filter_cons, List.map_cons, List.sum_cons]
    split_ifs with positive
    · rw [List.map_cons, List.sum_cons, ih]
    · have none : f i = 0 := le_antisymm (not_lt.mp (by simpa using positive)) (nonneg i)
      rw [none, zero_add, ih]

theorem sum_estimates : ((estimatedRows input).map (estimate input)).sum = ((commissionRows input).map (estimate input)).sum :=
  sum_positive estimate_nonneg _

theorem commissionMinor_nonneg : 0 ≤ commissionMinor input :=
  abs_nonneg _

theorem splitMinor_nonneg : 0 ≤ splitMinor input := by
  unfold splitMinor
  split
  · exact abs_nonneg _
  · exact commissionMinor_nonneg

theorem splitMinor_uncovered (uncovered : input.commissionCovers = false) : splitMinor input = commissionMinor input := by
  unfold splitMinor
  rw [uncovered]

/-- A transfer that may get a part of the commission. -/
def Eligible (input : AllocInput) (i : Nat) : Prop :=
  if input.commissionCovers then
    i < nRows input ∧ model1 input i = true ∧ orig input i ≠ 0 ∧ ticked input i = true
  else rowClass input i = .closed ∧ model1 input i = true ∧ 0 < orig input i

theorem commissionRows_eligible (covers : input.commissionCovers = true) {i : Nat} (member : i ∈ commissionRows input) :
    Eligible input i := by
  simp only [commissionRows, rowIdx, indices, List.take_range, List.mem_filter, List.mem_range, Bool.and_eq_true,
    decide_eq_true_eq, lt_min_iff] at member
  rw [Eligible, if_pos covers]
  exact ⟨member.1.1, member.2.1.1, member.2.1.2, member.2.2⟩

theorem eligibleRows_eligible (uncovered : input.commissionCovers = false) {i : Nat} (member : i ∈ eligibleRows input) :
    Eligible input i := by
  simp only [eligibleRows, List.mem_filter, Bool.and_eq_true, decide_eq_true_eq] at member
  rw [Eligible, uncovered, if_neg Bool.false_ne_true]
  exact ⟨if_pos member.2.1.1, member.2.1.2, member.2.2⟩

theorem mem_of_orig {i : Nat} (some' : orig input i ≠ 0) : i < (all input).length := by
  by_contra outside
  rw [orig, List.getElem?_eq_none (not_lt.mp outside)] at some'
  exact some' rfl

/-- The rows of the pool are all that are eligible. -/
theorem mem_commissionRows (covers : input.commissionCovers = true) {i : Nat} :
    i ∈ commissionRows input ↔ Eligible input i := by
  refine ⟨commissionRows_eligible covers, fun eligible => ?_⟩
  rw [Eligible, if_pos covers] at eligible
  obtain ⟨isDay, isModel1, some', isTicked⟩ := eligible
  simp only [commissionRows, rowIdx, indices, List.take_range, List.mem_filter, List.mem_range, Bool.and_eq_true,
    decide_eq_true_eq, lt_min_iff]
  exact ⟨⟨isDay, mem_of_orig some'⟩, ⟨isModel1, some'⟩, isTicked⟩

theorem mem_eligibleRows (uncovered : input.commissionCovers = false) {i : Nat} :
    i ∈ eligibleRows input ↔ Eligible input i := by
  refine ⟨eligibleRows_eligible uncovered, fun eligible => ?_⟩
  rw [Eligible, uncovered, if_neg Bool.false_ne_true] at eligible
  obtain ⟨isClosed, isModel1, positive⟩ := eligible
  have zero : isZero input ((settled input).rem i) = true := by
    unfold rowClass at isClosed
    split_ifs at isClosed with zero
    exact zero
  simp only [eligibleRows, indices, List.mem_filter, List.mem_range, Bool.and_eq_true, decide_eq_true_eq]
  exact ⟨mem_of_orig positive.ne', ⟨zero, isModel1⟩, positive⟩

/-- The flag is for a commission that no row may get. -/
theorem commissionWithoutClosedModel1_iff :
    commissionWithoutClosedModel1 input = true ↔ 0 < splitMinor input ∧ ∀ i, ¬Eligible input i := by
  have split0 : 0 ≤ splitMinor input := splitMinor_nonneg
  unfold commissionWithoutClosedModel1
  cases covers : input.commissionCovers with
  | true =>
    have empty : (commissionRows input).isEmpty = true ↔ ∀ i, ¬Eligible input i := by
      rw [List.isEmpty_iff, List.eq_nil_iff_forall_not_mem]
      exact forall_congr' fun i => not_congr (mem_commissionRows covers)
    by_cases positive : 0 < splitMinor input
    · rw [if_neg (by simp [positive.ne']), if_pos (by simp [positive]), empty]
      exact (and_iff_right positive).symm
    · have none : splitMinor input = 0 := le_antisymm (not_lt.mp positive) split0
      refine iff_of_false (fun flagged => ?_) fun some' => positive some'.1
      by_cases entered : 0 < commissionMinor input
      · rw [if_pos (by simp [entered, none])] at flagged
        cases flagged
      · rw [if_neg (by simp [entered]), if_neg (by simp [positive])] at flagged
        simp [entered] at flagged
  | false =>
    have empty : (eligibleRows input).isEmpty = true ↔ ∀ i, ¬Eligible input i := by
      rw [List.isEmpty_iff, List.eq_nil_iff_forall_not_mem]
      exact forall_congr' fun i => not_congr (mem_eligibleRows covers)
    rw [if_neg (by simp), if_neg (by simp), Bool.and_eq_true, decide_eq_true_eq, empty, splitMinor_uncovered covers]

/-- The whole commission in shares of whole minor units. -/
structure Shares (input : AllocInput) (rows : List Nat) (received : Nat → ℤ) : Prop where
  distinct : rows.Nodup
  eligible : ∀ i ∈ rows, Eligible input i
  nonneg : ∀ i, 0 ≤ received i
  outside : ∀ i, i ∉ rows → received i = 0
  total : (rows.map received).sum = splitMinor input
  -- up to the estimates of the ticked transfers: no more than the own estimate
  capped : input.commissionCovers = true → splitMinor input ≤ ((commissionRows input).map (estimate input)).sum →
    ∀ i, received i ≤ estimate input i
  -- beyond them: the own estimate first
  covered : input.commissionCovers = true → ((commissionRows input).map (estimate input)).sum < splitMinor input →
    ∀ i ∈ commissionRows input, estimate input i ≤ received i

/-- A share function as it is on the rows, and nothing elsewhere. -/
def onRows (rows : List Nat) (f : Nat → ℤ) (i : Nat) : ℤ :=
  if i ∈ rows then f i else 0

theorem onRows_inside {rows : List Nat} {f : Nat → ℤ} {i : Nat} (member : i ∈ rows) : onRows rows f i = f i :=
  if_pos member

theorem onRows_outside {rows : List Nat} {f : Nat → ℤ} {i : Nat} (fresh : i ∉ rows) : onRows rows f i = 0 :=
  if_neg fresh

theorem onRows_nonneg {rows : List Nat} {f : Nat → ℤ} (nonneg : ∀ i ∈ rows, 0 ≤ f i) (i : Nat) : 0 ≤ onRows rows f i := by
  unfold onRows
  split_ifs with member
  · exact nonneg i member
  · exact le_rfl

theorem sum_onRows (rows : List Nat) (f : Nat → ℤ) : (rows.map (onRows rows f)).sum = (rows.map f).sum := by
  rw [List.map_congr_left fun i member => onRows_inside member]

theorem shares_none (none : splitMinor input = 0) : Shares input [] fun _ => 0 where
  distinct := List.nodup_nil
  eligible i member := by cases member
  nonneg _ := le_rfl
  outside _ _ := rfl
  total := none.symm
  capped _ _ i := estimate_nonneg i
  covered _ below := by
    have nonneg : 0 ≤ ((commissionRows input).map (estimate input)).sum :=
      List.sum_nonneg fun e member => by
        obtain ⟨i, -, rfl⟩ := List.mem_map.mp member
        exact estimate_nonneg i
    omega

/-- No estimate anywhere: by what each transfer owed. -/
theorem shares_unestimated (covers : input.commissionCovers = true) (positive : 0 < splitMinor input)
    (none : estimatedRows input = []) (some' : commissionRows input ≠ []) :
    Shares input (commissionRows input)
      (onRows (commissionRows input) (share (commissionRows input) (fun i => |orig input i|) (splitMinor input))) where
  distinct := commissionRows_distinct
  eligible _ member := commissionRows_eligible covers member
  nonneg := onRows_nonneg fun i _ => share_nonneg some' positive.le i
  outside _ := onRows_outside
  total := (sum_onRows _ _).trans (sum_share some' commissionRows_distinct)
  capped _ upTo := by
    rw [← sum_estimates, none] at upTo
    exact absurd upTo (not_le.mpr positive)
  covered _ _ i member := by
    have nothing : ¬0 < estimate input i := fun own => by simpa [none] using estimated.mpr ⟨member, own⟩
    rw [onRows_inside member]
    exact (not_lt.mp nothing).trans (share_nonneg some' positive.le i)

/-- Up to the estimates: pro rata. -/
theorem shares_upTo (covers : input.commissionCovers = true) (positive : 0 < splitMinor input)
    (some' : estimatedRows input ≠ []) (upTo : splitMinor input ≤ ((estimatedRows input).map (estimate input)).sum) :
    Shares input (estimatedRows input)
      (onRows (estimatedRows input) (share (estimatedRows input) (estimate input) (splitMinor input))) where
  distinct := estimatedRows_distinct
  eligible _ member := commissionRows_eligible covers (estimated.mp member).1
  nonneg := onRows_nonneg fun i _ => share_nonneg some' positive.le i
  outside _ := onRows_outside
  total := (sum_onRows _ _).trans (sum_share some' estimatedRows_distinct)
  capped _ _ i := by
    unfold onRows
    split_ifs with member
    · exact share_le estimatedRows_distinct positive (fun j _ => estimate_nonneg j) upTo member
    · exact estimate_nonneg i
  covered _ below := by
    rw [← sum_estimates] at below
    exact absurd upTo (not_le.mpr below)

/-- Beyond the estimates: everyone's own, and the rest pro rata. -/
theorem shares_beyond (covers : input.commissionCovers = true) (some' : estimatedRows input ≠ [])
    (beyond : ((estimatedRows input).map (estimate input)).sum < splitMinor input) :
    Shares input (estimatedRows input) (onRows (estimatedRows input) fun i => estimate input i +
      share (estimatedRows input) (estimate input)
        (splitMinor input - ((estimatedRows input).map (estimate input)).sum) i) where
  distinct := estimatedRows_distinct
  eligible _ member := commissionRows_eligible covers (estimated.mp member).1
  nonneg := onRows_nonneg fun i _ => add_nonneg (estimate_nonneg i) (share_nonneg some' (sub_nonneg.mpr beyond.le) i)
  outside _ := onRows_outside
  total := by
    rw [sum_onRows, List.sum_map_add, sum_share some' estimatedRows_distinct]
    omega
  capped _ upTo := by
    rw [← sum_estimates] at upTo
    exact absurd beyond (not_lt.mpr upTo)
  covered _ _ i member := by
    by_cases own : i ∈ estimatedRows input
    · rw [onRows_inside own]
      exact le_add_of_nonneg_right (share_nonneg some' (sub_nonneg.mpr beyond.le) i)
    · rw [onRows_outside own]
      exact not_lt.mp fun positive => own (estimated.mpr ⟨member, positive⟩)

/-- Over the closed transfers that the shop owed, by what it owed. -/
theorem shares_closed (uncovered : input.commissionCovers = false) (positive : 0 < commissionMinor input)
    (some' : eligibleRows input ≠ []) :
    Shares input (eligibleRows input)
      (onRows (eligibleRows input) (share (eligibleRows input) (orig input) (commissionMinor input))) where
  distinct := indices_distinct.filter _
  eligible _ member := eligibleRows_eligible uncovered member
  nonneg := onRows_nonneg fun i _ => share_nonneg some' positive.le i
  outside _ := onRows_outside
  total := by
    rw [sum_onRows, sum_share some' (indices_distinct.filter _), splitMinor_uncovered uncovered]
  capped covers := by simp [uncovered] at covers
  covered covers := by simp [uncovered] at covers

/-- Unless no transfer can take it, the commission is split whole. -/
theorem exists_shares (takeable : commissionWithoutClosedModel1 input = false) :
    ∃ received, Shares input (commissionShares input).1 received ∧
      ∀ i ∈ (commissionShares input).1, (commissionShares input).2 i = received i := by
  unfold commissionWithoutClosedModel1 at takeable
  unfold commissionShares
  have split0 : 0 ≤ splitMinor input := splitMinor_nonneg
  have minor0 : 0 ≤ commissionMinor input := commissionMinor_nonneg
  by_cases allOwed : input.commissionCovers && 0 < commissionMinor input && splitMinor input = 0
  · rw [if_pos allOwed]
    simp only [Bool.and_eq_true, decide_eq_true_eq] at allOwed
    exact ⟨_, shares_none allOwed.2, fun i member => by cases member⟩
  rw [if_neg allOwed] at takeable ⊢
  by_cases covering : 0 < splitMinor input && input.commissionCovers
  · rw [if_pos covering] at takeable ⊢
    simp only [Bool.and_eq_true, decide_eq_true_eq] at covering
    obtain ⟨positive, covers⟩ := covering
    have some' : commissionRows input ≠ [] := fun none => by simp [none] at takeable
    dsimp only
    by_cases none : estimatedRows input = []
    · rw [if_pos (by simp [none])]
      exact ⟨_, shares_unestimated covers positive none some', fun i member => by
        rw [onRows_inside member, ← spread_eq positive]⟩
    rw [if_neg (by simpa using none)]
    by_cases upTo : splitMinor input ≤ ((estimatedRows input).map (estimate input)).sum
    · rw [if_pos upTo]
      exact ⟨_, shares_upTo covers positive none upTo, fun i member => by
        rw [onRows_inside member, ← spread_eq positive]⟩
    · rw [if_neg upTo]
      exact ⟨_, shares_beyond covers none (not_le.mp upTo), fun i member => by
        rw [onRows_inside member, Int.cast_add, ← spread_eq (sub_pos.mpr (not_le.mp upTo))]⟩
  rw [if_neg covering] at takeable ⊢
  have uncovered : splitMinor input = 0 ∨ input.commissionCovers = false := by
    simp only [Bool.and_eq_true, decide_eq_true_eq, not_and, Bool.not_eq_true] at covering
    rcases split0.eq_or_lt with none | positive
    · exact .inl none.symm
    · exact .inr (covering positive)
  by_cases positive : 0 < commissionMinor input
  · rw [if_pos positive]
    have isUncovered : input.commissionCovers = false := by
      rcases uncovered with none | isUncovered
      · simpa [positive, none] using allOwed
      · exact isUncovered
    have some' : eligibleRows input ≠ [] := fun none => by simp [none, positive] at takeable
    exact ⟨_, shares_closed isUncovered positive some', fun i member => by
      rw [onRows_inside member, ← spread_eq positive]⟩
  · rw [if_neg positive]
    have none : splitMinor input = 0 := by
      rcases uncovered with none | isUncovered
      · exact none
      · rw [splitMinor_uncovered isUncovered]
        omega
    exact ⟨_, shares_none none, fun i member => by cases member⟩

/-- The rows that are listed: with a covering commission only those that get something. -/
theorem Shares.listed {rows : List Nat} {received : Nat → ℤ} (shares : Shares input rows received) :
    Shares input (rows.filter fun i => 0 < received i) received where
  distinct := shares.distinct.filter _
  eligible i member := shares.eligible i (List.mem_filter.mp member).1
  nonneg := shares.nonneg
  outside i fresh := by
    by_cases member : i ∈ rows
    · have none : ¬0 < received i := fun positive => fresh (List.mem_filter.mpr ⟨member, decide_eq_true positive⟩)
      have nonneg := shares.nonneg i
      omega
    · exact shares.outside i member
  total := (sum_positive shares.nonneg rows).trans shares.total
  capped := shares.capped
  covered := shares.covered

/-- What the settlement reports is a whole split over transfers that may get it, or, where there is something to split and no
transfer may get it, that there is none. -/
theorem commission_split (input : AllocInput) :
    ((allocateAccountSettlement input).commissionWithoutClosedModel1 = true ↔
      0 < splitMinor input ∧ ∀ i, ¬Eligible input i) ∧
    ((allocateAccountSettlement input).commissionWithoutClosedModel1 = true ∨
      ∃ rows received, Shares input rows received ∧
        (allocateAccountSettlement input).commissionAlloc =
          rows.map fun i => ((rowRef input i).id, fromMinor input (received i))) := by
  refine ⟨commissionWithoutClosedModel1_iff, ?_⟩
  cases takeable : commissionWithoutClosedModel1 input with
  | true => exact .inl takeable
  | false =>
    obtain ⟨received, shares, same⟩ := exists_shares takeable
    change _ ∨ ∃ rows received, Shares input rows received ∧ commissionAlloc input = _
    unfold commissionAlloc fromMinor
    dsimp only
    by_cases covers : input.commissionCovers
    · refine .inr ⟨_, received, shares.listed, ?_⟩
      rw [if_pos covers]
      have listed : ((commissionShares input).1.filter fun i => 0 < (commissionShares input).2 i) =
          (commissionShares input).1.filter fun i => 0 < received i :=
        List.filter_congr fun i member => by simp [same i member]
      rw [listed]
      exact List.map_congr_left fun i member => by rw [same i (List.mem_filter.mp member).1]
    · refine .inr ⟨_, received, shares, ?_⟩
      rw [if_neg covers]
      exact List.map_congr_left fun i member => by rw [same i member]

end

/-- Three transfers, two of them of a ticked type, and $5 of commission for estimates of $3 and $1. -/
def threeTransfers : AllocInput where
  currency := .usd
  rows := [
    { kind := .financialService, id := 1, memberSupplierId := 1, createdAt := "2026-03-01", remaining := 30, commissionModel1 := true, cashoutCommission := 0, commissionEstimate := some 3 },
    { kind := .financialService, id := 2, memberSupplierId := 1, createdAt := "2026-03-02", remaining := 20, commissionModel1 := true, cashoutCommission := 0, commissionEstimate := some 1 },
    { kind := .financialService, id := 3, memberSupplierId := 1, createdAt := "2026-03-03", remaining := 20, commissionModel1 := true, cashoutCommission := 0, commissionEstimate := some 2, commissionTicked := some false }]
  paid := 65
  commission := 5
  waive := 0
  commissionCovers := true
  eps := 1 / 200

theorem commission_split_threeTransfers :
    (allocateAccountSettlement threeTransfers).commissionAlloc = [(1, 15 / 4), (2, 5 / 4)] ∧
    ∃ rows received, Shares threeTransfers rows received ∧
      (allocateAccountSettlement threeTransfers).commissionAlloc =
        rows.map fun i => ((rowRef threeTransfers i).id, fromMinor threeTransfers (received i)) :=
  ⟨by decide +kernel, (commission_split threeTransfers).2.resolve_left (by decide +kernel)⟩

end Liratek.Money.CommissionSplit
