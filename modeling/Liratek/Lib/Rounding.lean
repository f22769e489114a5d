import Mathlib.Algebra.Order.Round
import Mathlib.Tactic.FieldSimp
import Mathlib.Tactic.Linarith
import Mathlib.Tactic.Ring

/-! Rounding to the nearest multiple of a unit, `scale` units to one. -/

namespace Liratek.Lib.Rounding

section
variable {K : Type*} [Field K] {scale : K}

/-- A whole number of units. -/
def Whole (scale x : K) : Prop :=
  ∃ units : ℤ, x = units / scale

theorem whole_zero (scale : K) : Whole scale 0 :=
  ⟨0, by rw [Int.cast_zero, zero_div]⟩

theorem Whole.add {x y : K} (left : Whole scale x) (right : Whole scale y) : Whole scale (x + y) := by
  obtain ⟨m, rfl⟩ := left
  obtain ⟨n, rfl⟩ := right
  exact ⟨m + n, by rw [Int.cast_add, add_div]⟩

theorem Whole.sub {x y : K} (left : Whole scale x) (right : Whole scale y) : Whole scale (x - y) := by
  obtain ⟨m, rfl⟩ := left
  obtain ⟨n, rfl⟩ := right
  exact ⟨m - n, by rw [Int.cast_sub, sub_div]⟩

theorem Whole.neg {x : K} (whole : Whole scale x) : Whole scale (-x) := by
  obtain ⟨n, rfl⟩ := whole
  exact ⟨-n, by rw [Int.cast_neg, neg_div]⟩

theorem whole_sum {l : List K} (whole : ∀ x ∈ l, Whole scale x) : Whole scale l.sum := by
  induction l with
  | nil => exact whole_zero scale
  | cons x rest ih =>
    obtain ⟨here, others⟩ := List.forall_mem_cons.mp whole
    exact here.add (ih others)

variable [LinearOrder K]

theorem Whole.min {x y : K} (left : Whole scale x) (right : Whole scale y) : Whole scale (min x y) := by
  rcases min_choice x y with isLeft | isRight
  · rwa [isLeft]
  · rwa [isRight]

theorem Whole.max {x y : K} (left : Whole scale x) (right : Whole scale y) : Whole scale (max x y) := by
  rcases max_choice x y with isLeft | isRight
  · rwa [isLeft]
  · rwa [isRight]

variable [FloorRing K]

def roundTo (scale x : K) : K :=
  round (x * scale) / scale

theorem roundTo_whole (scale x : K) : Whole scale (roundTo scale x) :=
  ⟨round (x * scale), rfl⟩

variable [IsStrictOrderedRing K] (positive : 0 < scale)
include positive

/-- Nothing is rounded away from a whole number of units. -/
theorem Whole.roundTo {x : K} (whole : Whole scale x) : roundTo scale x = x := by
  obtain ⟨units, rfl⟩ := whole
  unfold Rounding.roundTo
  rw [div_mul_cancel₀ _ positive.ne', round_intCast]

/-- Above nothing there is at least one unit. -/
theorem Whole.unit_le {x : K} (whole : Whole scale x) (some : 0 < x) : 1 / scale ≤ x := by
  obtain ⟨units, rfl⟩ := whole
  have one : (1 : ℤ) ≤ units := by
    by_contra below
    have none : (units : K) ≤ 0 := by
      have least : units ≤ 0 := by omega
      exact_mod_cast least
    exact absurd some (not_lt.mpr (div_nonpos_of_nonpos_of_nonneg none positive.le))
  exact div_le_div_of_nonneg_right (by exact_mod_cast one) positive.le

theorem abs_roundTo_sub_le (x : K) : |roundTo scale x - x| ≤ 1 / (2 * scale) := by
  have near : |x * scale - round (x * scale)| ≤ 1 / 2 := abs_sub_round (x * scale)
  have apart : roundTo scale x - x = -((x * scale - round (x * scale)) / scale) := by
    unfold roundTo
    field_simp
    ring
  rw [apart, abs_neg, abs_div, abs_of_pos positive, ← div_div]
  exact div_le_div_of_nonneg_right near positive.le

theorem roundTo_le (x : K) : roundTo scale x ≤ x + 1 / (2 * scale) := by
  have near := (abs_le.mp (abs_roundTo_sub_le positive x)).2
  linarith

theorem le_roundTo (x : K) : x - 1 / (2 * scale) ≤ roundTo scale x := by
  have near := (abs_le.mp (abs_roundTo_sub_le positive x)).1
  linarith

theorem roundTo_mono {x y : K} (le : x ≤ y) : roundTo scale x ≤ roundTo scale y := by
  unfold roundTo
  have units : round (x * scale) ≤ round (y * scale) := by
    rw [round_eq, round_eq]
    exact Int.floor_le_floor (by linarith [mul_le_mul_of_nonneg_right le positive.le])
  exact div_le_div_of_nonneg_right (by exact_mod_cast units) positive.le

/-- Rounding goes up to no bound that is whole. -/
theorem roundTo_le_of_whole {x bound : K} (whole : Whole scale bound) (le : x ≤ bound) : roundTo scale x ≤ bound := by
  have rounded := roundTo_mono positive le
  rwa [whole.roundTo positive] at rounded

theorem roundTo_nonneg {x : K} (nonneg : 0 ≤ x) : 0 ≤ roundTo scale x := by
  have rounded := roundTo_mono positive nonneg
  rwa [(whole_zero scale).roundTo positive] at rounded

end

end Liratek.Lib.Rounding
