import Mathlib.Algebra.Order.Round
import Mathlib.Tactic.FieldSimp
import Mathlib.Tactic.Linarith
import Mathlib.Tactic.Ring

/-! A need paid off by pieces of another unit, each credited after rounding. What the roundings drop stays in the need. -/

namespace Liratek.Lib.Drift

variable {K : Type*} [Field K] [LinearOrder K] [FloorRing K]

/-- What a piece gives to the need. A unit of the piece is worth `k` units of the need. -/
def takeOf (k : K) (need piece : ℤ) : ℤ :=
  if 0 < piece ∧ 0 < need then max 0 (min piece (round (need / k))) else 0

def needAfter (k : K) (need piece : ℤ) : ℤ :=
  max 0 (need - round (takeOf k need piece * k))

def takes (k : K) : ℤ → List ℤ → List ℤ
  | _, [] => []
  | need, piece :: rest => takeOf k need piece :: takes k (needAfter k need piece) rest

/-- The first pieces, as long as the need asks for more than the piece. -/
def wholes (k : K) : ℤ → List ℤ → List ℤ
  | _, [] => []
  | need, piece :: rest =>
    if piece < round (need / k) then piece :: wholes k (need - round (piece * k)) rest else []

def credited (k : K) (pieces : List ℤ) : ℤ :=
  (pieces.map fun p : ℤ => round ((p : K) * k)).sum

/-- What the roundings of the credits drop, one by one. -/
def drift (k : K) (pieces : List ℤ) : K :=
  (pieces.map fun p : ℤ => (p : K) * k - round ((p : K) * k)).sum

theorem credited_cons (k : K) (p : ℤ) (rest : List ℤ) : credited k (p :: rest) = round ((p : K) * k) + credited k rest := rfl

theorem drift_cons (k : K) (p : ℤ) (rest : List ℤ) : drift k (p :: rest) = (p : K) * k - round ((p : K) * k) + drift k rest := rfl

theorem credited_add_drift (k : K) (pieces : List ℤ) : (credited k pieces : K) + drift k pieces = pieces.sum * k := by
  induction pieces with
  | nil => simp [credited, drift]
  | cons p rest ih =>
    calc ((credited k (p :: rest) : ℤ) : K) + drift k (p :: rest)
      _ = (p : K) * k + ((credited k rest : K) + drift k rest) := by rw [credited_cons, drift_cons, Int.cast_add]; ring
      _ = (p :: rest).sum * k := by rw [ih, List.sum_cons, Int.cast_add, add_mul]

theorem takeOf_nonneg (k : K) (need piece : ℤ) : 0 ≤ takeOf k need piece := by
  unfold takeOf
  split_ifs
  · exact le_max_left _ _
  · exact le_rfl

theorem takeOf_le {k : K} {need piece : ℤ} (nonneg : 0 ≤ piece) : takeOf k need piece ≤ piece := by
  unfold takeOf
  split_ifs
  · exact max_le nonneg (min_le_left _ _)
  · exact nonneg

/-- A need of nothing, or one that rounds to nothing, takes nothing. -/
theorem takeOf_none {k : K} {need piece : ℤ} (none : need ≤ 0 ∨ round (need / k) ≤ 0) : takeOf k need piece = 0 := by
  unfold takeOf
  split_ifs with both
  · rcases none with noNeed | rounded
    · exact absurd both.2 (not_lt.mpr noNeed)
    · exact max_eq_left ((min_le_right _ _).trans rounded)
  · rfl

theorem needAfter_none [IsStrictOrderedRing K] {k : K} {need piece : ℤ} (nonneg : 0 ≤ need) (none : takeOf k need piece = 0) :
    needAfter k need piece = need := by
  rw [needAfter, none, Int.cast_zero, zero_mul, round_zero, sub_zero, max_eq_right nonneg]

theorem needAfter_nonneg (k : K) (need piece : ℤ) : 0 ≤ needAfter k need piece :=
  le_max_left _ _

theorem takes_zeros (k : K) (need : ℤ) {pieces : List ℤ} (zeros : ∀ p ∈ pieces, p = 0) : (takes k need pieces).sum = 0 := by
  induction pieces generalizing need with
  | nil => rfl
  | cons p rest ih =>
    obtain ⟨here, others⟩ := List.forall_mem_cons.mp zeros
    have none : takeOf k need p = 0 := if_neg fun both => both.1.ne' here
    rw [takes, List.sum_cons, none, ih _ others, zero_add]

section
variable [IsStrictOrderedRing K] {k : K}

theorem takes_none {need : ℤ} (nonneg : 0 ≤ need) (none : need ≤ 0 ∨ round (need / k) ≤ 0) (pieces : List ℤ) :
    (takes k need pieces).sum = 0 := by
  induction pieces with
  | nil => rfl
  | cons p rest ih =>
    have here : takeOf k need p = 0 := takeOf_none none
    rw [takes, List.sum_cons, here, needAfter_none nonneg here, ih, add_zero]

theorem round_pos_iff_half_le {x : K} : 0 < round x ↔ 1 / 2 ≤ x := by
  rw [round_eq, Int.floor_pos]
  constructor <;> intro le <;> linarith

variable (positive : 0 < k)
include positive

/-- The rounded need is half a unit of the piece away from the need at most. -/
theorem near_need (need : ℤ) : |(round ((need : K) / k) : K) * k - need| ≤ k / 2 := by
  have near := abs_sub_round ((need : K) / k)
  have scaled := mul_le_mul_of_nonneg_right near positive.le
  rw [← abs_of_pos positive, ← abs_mul, abs_of_pos positive, sub_mul, div_mul_cancel₀ _ positive.ne', abs_sub_comm] at scaled
  linarith

/-- A piece that the need takes whole leaves a need that is not negative. -/
theorem credit_le {need piece : ℤ} (less : piece < round ((need : K) / k)) : round ((piece : K) * k) ≤ need := by
  have oneLess : (piece : K) + 1 ≤ round ((need : K) / k) := by exact_mod_cast less
  have scaled := mul_le_mul_of_nonneg_right oneLess positive.le
  have near := (abs_le.mp (near_need positive need)).2
  have below : (piece : K) * k ≤ need := by linarith
  rw [round_eq, ← Int.lt_add_one_iff, Int.floor_lt, Int.cast_add, Int.cast_one]
  linarith

/-- A need within one unit of the pieces takes at most that unit. -/
theorem takes_atMostOne {need : ℤ} (nonneg : 0 ≤ need) (small : (need : K) ≤ k) (pieces : List ℤ) :
    (takes k need pieces).sum = 0 ∨ (takes k need pieces).sum = 1 := by
  induction pieces with
  | nil => exact .inl rfl
  | cons p rest ih =>
    have asks : round ((need : K) / k) ≤ 1 := by
      have ratio : (need : K) / k ≤ 1 := (div_le_one positive).mpr small
      rw [round_eq, ← Int.lt_add_one_iff, Int.floor_lt]
      norm_num
      linarith
    have atMost : takeOf k need p ≤ 1 := by
      unfold takeOf
      split_ifs
      · exact max_le zero_le_one ((min_le_right _ _).trans asks)
      · exact zero_le_one
    rw [takes, List.sum_cons]
    rcases (takeOf_nonneg k need p).eq_or_lt with none | one
    · rw [← none, needAfter_none nonneg none.symm, zero_add]
      exact ih
    · have isOne : takeOf k need p = 1 := by omega
      have covers : need ≤ round k := (Int.le_floor.mpr small).trans (by
        rw [round_eq]
        exact Int.floor_le_floor (by linarith))
      have paid : needAfter k need p = 0 := by
        rw [needAfter, isOne, Int.cast_one, one_mul]
        exact max_eq_left (by omega)
      rw [paid, isOne, takes_none le_rfl (.inl le_rfl), add_zero]
      exact .inr rfl

/-- Once a piece is not taken whole, what the need still takes is off by half a unit of each at most. -/
theorem closing (need : ℤ) (pieces : List ℤ) :
    |((round ((need : K) / k) : ℤ) : K) * k +
      (takes k (max 0 (need - round (((round ((need : K) / k) : ℤ) : K) * k))) pieces).sum * k - need| ≤ (1 + k) / 2 := by
  have near := abs_le.mp (near_need positive need)
  generalize round ((need : K) / k) = w at *
  have credit := abs_le.mp (abs_sub_round ((w : K) * k))
  rcases le_or_gt (need - round ((w : K) * k)) 0 with paid | left
  · rw [max_eq_left paid, takes_none le_rfl (.inl le_rfl), Int.cast_zero, zero_mul, add_zero, abs_le]
    constructor <;> linarith [near.1, near.2]
  · rw [max_eq_right left.le]
    have value : ((need - round ((w : K) * k) : ℤ) : K) = need - round ((w : K) * k) := Int.cast_sub ..
    generalize need - round ((w : K) * k) = rest at *
    have one : (1 : K) ≤ rest := by exact_mod_cast left
    -- what is left is over half a unit of the piece only if a unit of the piece is worth at least one of the need
    have small : (rest : K) ≤ k := by linarith [near.1, credit.1]
    by_cases asks : 0 < round ((rest : K) / k)
    · have halfLe : k / 2 ≤ rest := by
        have ratio := mul_le_mul_of_nonneg_right (round_pos_iff_half_le.mp asks) positive.le
        rw [div_mul_cancel₀ _ positive.ne'] at ratio
        linarith
      rcases takes_atMostOne positive left.le small pieces with none | last
      · rw [none, Int.cast_zero, zero_mul, add_zero, abs_le]
        constructor <;> linarith [near.1, near.2]
      · rw [last, Int.cast_one, one_mul, abs_le]
        constructor <;> linarith [near.1, near.2, credit.1, credit.2]
    · rw [takes_none left.le (.inr (not_lt.mp asks)), Int.cast_zero, zero_mul, add_zero, abs_le]
      constructor <;> linarith [near.1, near.2]

/-- What a need takes from pieces is worth the need and the drift of the pieces taken whole, up to half a unit of each; or
every piece is taken whole. -/
theorem takes_value {need : ℤ} (nonneg : 0 ≤ need) {pieces : List ℤ} (amounts : ∀ p ∈ pieces, 0 ≤ p) :
    (wholes k need pieces = pieces ∧ takes k need pieces = pieces) ∨ wholes k need pieces ≠ pieces ∧
      |((takes k need pieces).sum : K) * k - (need + drift k (wholes k need pieces))| ≤ (1 + k) / 2 := by
  induction pieces generalizing need with
  | nil => exact .inl ⟨rfl, rfl⟩
  | cons p rest ih =>
    obtain ⟨here, others⟩ := List.forall_mem_cons.mp amounts
    rw [wholes, takes]
    split_ifs with less
    · have fits := credit_le positive less
      have needPos : 0 < need := by
        by_contra none
        have zero : need = 0 := by omega
        rw [zero, Int.cast_zero, zero_div, round_zero] at less
        omega
      have all : takeOf k need p = p := by
        unfold takeOf
        split_ifs with both
        · rw [min_eq_left less.le, max_eq_right here]
        · have : ¬0 < p := fun some' => both ⟨some', needPos⟩
          omega
      have next : needAfter k need p = need - round ((p : K) * k) := by
        rw [needAfter, all, max_eq_right (by omega)]
      rw [all, next]
      rcases ih (sub_nonneg.mpr fits) others with ⟨whole, taken⟩ | ⟨notWhole, near⟩
      · exact .inl ⟨congrArg (p :: ·) whole, congrArg (p :: ·) taken⟩
      · refine .inr ⟨fun whole => notWhole (List.cons_injective whole), ?_⟩
        rw [List.sum_cons, drift_cons, Int.cast_add]
        rw [Int.cast_sub] at near
        convert near using 2
        ring
    · refine .inr ⟨(List.cons_ne_nil _ _).symm, ?_⟩
      have noDrift : drift k ([] : List ℤ) = 0 := rfl
      rw [noDrift, add_zero, List.sum_cons, Int.cast_add, add_mul]
      by_cases both : (0 < p ∧ 0 < need) ∧ 0 < round ((need : K) / k)
      · have all : takeOf k need p = round ((need : K) / k) := by
          rw [takeOf, if_pos both.1, min_eq_right (not_lt.mp less), max_eq_right both.2.le]
        rw [needAfter, all]
        exact closing positive need rest
      · have none : need ≤ 0 ∨ round ((need : K) / k) ≤ 0 := by
          by_contra neither
          push Not at neither
          exact both ⟨⟨by omega, neither.1⟩, neither.2⟩
        have noTake : takeOf k need p = 0 := takeOf_none none
        have below : (need : K) ≤ k / 2 := by
          rcases none with noNeed | rounded
          · have zero : (need : K) ≤ 0 := by exact_mod_cast noNeed
            linarith
          · have noAsk : ((round ((need : K) / k) : ℤ) : K) ≤ 0 := by exact_mod_cast rounded
            have near := (abs_le.mp (near_need positive need)).1
            linarith [mul_nonpos_of_nonpos_of_nonneg noAsk positive.le]
        have needNonneg : (0 : K) ≤ need := by exact_mod_cast nonneg
        rw [noTake, needAfter_none nonneg noTake, takes_none nonneg none, Int.cast_zero, zero_mul, add_zero, zero_sub, abs_neg,
          abs_of_nonneg needNonneg]
        linarith

end

end Liratek.Lib.Drift
