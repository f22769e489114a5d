import Mathlib.Algebra.Order.BigOperators.Group.List
import Mathlib.Algebra.Order.Floor.Ring
import Mathlib.Algebra.Order.Field.Basic
import Mathlib.Tactic.FieldSimp
import Mathlib.Tactic.Linarith
import Mathlib.Tactic.Ring

/-! An amount sent in parcels: each carries at most `per` and costs a fee. -/

namespace Liratek.Lib.Parcels

section
variable {K : Type*} [Field K] [LinearOrder K] [IsStrictOrderedRing K] [FloorRing K]

/-- How many parcels carry the amount. -/
def parcels (per x : K) : ℤ :=
  ⌈x / per⌉

/-- What sending the amount takes from a budget. -/
def cost (per fee x : K) : K :=
  x + parcels per x * fee

/-- The most that so many parcels bring out of a budget. -/
def most (per fee budget n : K) : K :=
  min (per * n) (budget - fee * n)

variable {per fee : K}

theorem parcels_le_iff (positive : 0 < per) {x : K} {n : ℤ} : parcels per x ≤ n ↔ x ≤ per * n := by
  rw [parcels, Int.ceil_le, div_le_iff₀ positive, mul_comm]

theorem le_parcels (positive : 0 < per) (x : K) : x ≤ per * parcels per x :=
  (parcels_le_iff positive).mp le_rfl

theorem parcels_mono (positive : 0 < per) {x y : K} (le : x ≤ y) : parcels per x ≤ parcels per y :=
  (parcels_le_iff positive).mpr (le.trans (le_parcels positive y))

theorem parcels_pos (positive : 0 < per) {x : K} (some : 0 < x) : 0 < parcels per x :=
  Int.ceil_pos.mpr (div_pos some positive)

/-- One parcel less does not carry the amount. -/
theorem lt_of_parcels (positive : 0 < per) (x : K) : per * (parcels per x - 1) < x := by
  have short : ¬ parcels per x ≤ parcels per x - 1 := by omega
  rw [parcels_le_iff positive, not_le] at short
  exact_mod_cast short

theorem parcels_eq (positive : 0 < per) {x : K} {n : ℤ} (more : per * (n - 1) < x) (enough : x ≤ per * n) :
    parcels per x = n := by
  refine le_antisymm ((parcels_le_iff positive).mpr enough) ?_
  have short : ¬ parcels per x ≤ n - 1 := by
    rw [parcels_le_iff positive, not_le]
    exact_mod_cast more
  omega

theorem parcels_add (positive : 0 < per) (x : K) : parcels per (x + per) = parcels per x + 1 := by
  unfold parcels
  rw [add_div, div_self positive.ne', Int.ceil_add_one]

theorem cost_le_of_parcels (positive : 0 < per) (nonneg : 0 ≤ fee) {x budget : K} {n : ℤ} (carried : x ≤ most per fee budget n) :
    cost per fee x ≤ budget := by
  obtain ⟨enough, paid⟩ := le_min_iff.mp carried
  have fewer : (parcels per x : K) ≤ n := by exact_mod_cast (parcels_le_iff positive).mpr enough
  have fees := mul_le_mul_of_nonneg_right fewer nonneg
  unfold cost
  linarith

theorem le_most (positive : 0 < per) {x budget : K} (paid : cost per fee x ≤ budget) :
    x ≤ most per fee budget (parcels per x) := by
  unfold cost at paid
  exact le_min (le_parcels positive x) (by linarith)

theorem cost_mono (positive : 0 < per) (nonneg : 0 ≤ fee) {x y : K} (le : x ≤ y) : cost per fee x ≤ cost per fee y := by
  have fewer : (parcels per x : K) ≤ parcels per y := by exact_mod_cast parcels_mono positive le
  exact add_le_add le (mul_le_mul_of_nonneg_right fewer nonneg)

omit [FloorRing K] in
/-- Once the parcels could carry the whole budget, more of them only cost more. -/
theorem most_antitone (nonneg : 0 ≤ fee) {budget m n : K} (whole : budget ≤ (per + fee) * m) (more : m ≤ n) :
    most per fee budget n ≤ most per fee budget m := by
  have fees := mul_le_mul_of_nonneg_left more nonneg
  exact le_min ((min_le_right ..).trans (by linarith)) ((min_le_right ..).trans (by linarith))

/-! Lists of parcels. -/

omit [FloorRing K] in
theorem sum_le_most {parts : List K} (each : ∀ m ∈ parts, m ≤ per) {budget : K}
    (paid : (parts.map (· + fee)).sum ≤ budget) : parts.sum ≤ most per fee budget parts.length := by
  have enough : parts.sum ≤ parts.length • per := List.sum_le_card_nsmul parts per each
  rw [nsmul_eq_mul, mul_comm] at enough
  rw [List.sum_map_add, List.map_id', List.map_const', List.sum_replicate, nsmul_eq_mul, mul_comm] at paid
  exact le_min enough (by linarith)

/-- A multiple of a step goes into as many parcels of steps as its amount needs. -/
theorem exists_parts {step : K} (positive : 0 < step) {p : ℕ} (some : 0 < p) (k : ℕ) :
    ∃ parts : List K, (∀ m ∈ parts, ∃ j : ℕ, 0 < j ∧ j ≤ p ∧ m = j * step) ∧ parts.sum = k * step ∧
      (parts.length : ℤ) = parcels (p * step) (k * step) := by
  have perPositive : 0 < p * step := mul_pos (by exact_mod_cast some) positive
  induction k using Nat.strong_induction_on with
  | _ k ih =>
    rcases Nat.eq_zero_or_pos k with rfl | more
    · refine ⟨[], fun m member => absurd member List.not_mem_nil, by simp, ?_⟩
      simp [parcels]
    · rcases le_or_gt k p with last | further
      · refine ⟨[k * step], fun m member => ⟨k, more, last, List.mem_singleton.mp member⟩, by simp, ?_⟩
        refine (parcels_eq perPositive ?_ ?_).symm
        · simpa using mul_pos (by exact_mod_cast more : (0 : K) < k) positive
        · have le : (k : K) ≤ p := by exact_mod_cast last
          simpa using mul_le_mul_of_nonneg_right le positive.le
      · obtain ⟨parts, each, sum, count⟩ := ih (k - p) (by omega)
        have split : (k : K) * step = ((k - p : ℕ) : K) * step + p * step := by
          rw [Nat.cast_sub further.le]
          ring
        refine ⟨p * step :: parts, List.forall_mem_cons.mpr ⟨⟨p, some, le_rfl, rfl⟩, each⟩, ?_, ?_⟩
        · rw [List.sum_cons, sum, split, add_comm]
        · rw [List.length_cons, split, parcels_add perPositive, ← count]
          rfl

end

/-! A loop that keeps the best of what passes. -/

section
variable {α : Type*} [LinearOrder α]

def keepBest (passes : ℕ → Prop) [DecidablePred passes] (value : ℕ → α) (best : α) (n : ℕ) : α :=
  if passes n ∧ best < value n then value n else best

/-- The result is the start or a value that passes, and no value that passes is above it. -/
structure Best (passes : ℕ → Prop) (value : ℕ → α) (start : α) (count : ℕ) (best : α) : Prop where
  start_le : start ≤ best
  found : best = start ∨ ∃ n < count, passes n ∧ best = value n
  le : ∀ n < count, passes n → value n ≤ best

theorem foldl_keepBest (passes : ℕ → Prop) [DecidablePred passes] (value : ℕ → α) (start : α) (count : ℕ) :
    Best passes value start count ((List.range count).foldl (keepBest passes value) start) := by
  induction count with
  | zero => exact ⟨le_rfl, .inl rfl, nofun⟩
  | succ count ih =>
    rw [List.range_succ, List.foldl_append, List.foldl_cons, List.foldl_nil]
    generalize (List.range count).foldl (keepBest passes value) start = best at ih
    unfold keepBest
    split_ifs with better
    · refine ⟨ih.start_le.trans better.2.le, .inr ⟨count, count.lt_succ_self, better.1, rfl⟩, fun n below passed => ?_⟩
      rcases Nat.lt_succ_iff_lt_or_eq.mp below with earlier | rfl
      · exact (ih.le n earlier passed).trans better.2.le
      · exact le_rfl
    · refine ⟨ih.start_le, ?_, fun n below passed => ?_⟩
      · rcases ih.found with same | ⟨n, below, passed, same⟩
        · exact .inl same
        · exact .inr ⟨n, below.trans count.lt_succ_self, passed, same⟩
      · rcases Nat.lt_succ_iff_lt_or_eq.mp below with earlier | rfl
        · exact ih.le n earlier passed
        · exact le_of_not_gt fun above => better ⟨passed, above⟩

end

end Liratek.Lib.Parcels
