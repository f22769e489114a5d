import Mathlib.Algebra.Order.Field.Basic
import Mathlib.Tactic.FieldSimp
import Mathlib.Tactic.Linarith

/-! A market that buys each good below what it sells it for. -/

namespace Liratek.Lib.Market

/-- What the market gives for a unit of a good, and what it takes for one. -/
structure Prices (ι K : Type*) [Field K] [LinearOrder K] where
  bid : ι → K
  ask : ι → K
  bid_pos : ∀ i, 0 < bid i
  bid_le_ask : ∀ i, bid i ≤ ask i

variable {ι K : Type*} [Field K] [LinearOrder K] (m : Prices ι K)

theorem Prices.ask_pos (i : ι) : 0 < m.ask i :=
  (m.bid_pos i).trans_le (m.bid_le_ask i)

/-- What is got of `j` for some of `i`. -/
def Prices.swap (i j : ι) (amount : K) : K :=
  amount * m.bid i / m.ask j

/-- What must be given of `i` for some of `j`. -/
def Prices.swapFor (i j : ι) (target : K) : K :=
  target * m.ask j / m.bid i

def Prices.along : ι → K → List ι → K
  | _, amount, [] => amount
  | i, amount, j :: rest => along j (m.swap i j amount) rest

theorem Prices.swap_swapFor (i j : ι) (target : K) : m.swap i j (m.swapFor i j target) = target := by
  unfold swap swapFor
  rw [div_mul_cancel₀ _ (m.bid_pos i).ne', mul_div_cancel_right₀ _ (m.ask_pos j).ne']

variable [IsStrictOrderedRing K]

theorem Prices.swap_pos (i j : ι) {amount : K} (some : 0 < amount) : 0 < m.swap i j amount :=
  div_pos (mul_pos some (m.bid_pos i)) (m.ask_pos j)

theorem Prices.swapFor_pos (i j : ι) {target : K} (some : 0 < target) : 0 < m.swapFor i j target :=
  div_pos (mul_pos some (m.ask_pos j)) (m.bid_pos i)

/-- At the prices the market asks, a swap gains nothing. -/
theorem Prices.value_swap (i j : ι) {amount : K} (some : 0 < amount) : m.swap i j amount * m.ask j ≤ amount * m.ask i := by
  unfold swap
  rw [div_mul_cancel₀ _ (m.ask_pos j).ne']
  exact mul_le_mul_of_nonneg_left (m.bid_le_ask i) some.le

theorem Prices.value_along (path : List ι) (i : ι) {amount : K} (some : 0 < amount) :
    m.along i amount path * m.ask (path.getLastD i) ≤ amount * m.ask i := by
  induction path generalizing i amount with
  | nil => exact le_rfl
  | cons j rest ih =>
    rw [List.getLastD_cons]
    exact (ih j (m.swap_pos i j some)).trans (m.value_swap i j some)

/-- Nothing is gained on the way back to the good one started with. -/
theorem Prices.along_cycle_le {path : List ι} {i : ι} (cycle : path.getLastD i = i) {amount : K} (some : 0 < amount) :
    m.along i amount path ≤ amount := by
  have value := m.value_along path i some
  rw [cycle] at value
  exact le_of_mul_le_mul_right value (m.ask_pos i)

end Liratek.Lib.Market
