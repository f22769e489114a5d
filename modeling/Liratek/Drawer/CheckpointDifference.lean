import Mathlib.Algebra.Order.Ring.Rat
import Mathlib.Tactic.Linarith

/-! What a checkpoint corrected in a drawer, and what of it is still open. -/

namespace Liratek.Drawer.CheckpointDifference

/-- `CHECKPOINT_DIFFERENCE_EPSILON`, with the dollar's for any other currency -/
def checkpointDifferenceEpsilon (currencyCode : String) : ℚ :=
  if currencyCode = "LBP" then 1 else 1 / 100

inductive Direction where
  | «over» | short
  deriving DecidableEq, Repr

inductive DifferenceStatus where
  | opened | partlyResolved | resolved | closed
  deriving DecidableEq, Repr

structure CheckpointDifferenceInput where
  /-- the posted correction -/
  amount : ℚ
  resolved : ℚ
  closed : Bool
  currencyCode : String

structure CheckpointDifferenceSummary where
  direction : Direction
  abs : ℚ
  openAmount : ℚ
  status : DifferenceStatus
  deriving DecidableEq

def directionOf (amount : ℚ) : Direction :=
  if 0 < amount then .over else .short

def describeCheckpointDifference (input : CheckpointDifferenceInput) : CheckpointDifferenceSummary :=
  let eps := checkpointDifferenceEpsilon input.currencyCode
  let resolved := max 0 |input.resolved|
  let rawOpen := max 0 (|input.amount| - resolved)
  let openAmount := if rawOpen ≤ eps then 0 else rawOpen
  { direction := directionOf input.amount
    abs := |input.amount|
    openAmount := openAmount
    status :=
      if openAmount = 0 then .resolved
      else if input.closed then .closed
      else if eps < resolved then .partlyResolved
      else .opened }

theorem epsilon_pos (currencyCode : String) : 0 < checkpointDifferenceEpsilon currencyCode := by
  unfold checkpointDifferenceEpsilon
  split_ifs
  · decide
  · decide +kernel

theorem tolerance_le (currencyCode : String) : 1 / 10 ^ 9 ≤ checkpointDifferenceEpsilon currencyCode := by
  unfold checkpointDifferenceEpsilon
  split_ifs
  · decide +kernel
  · decide +kernel

/-- Nothing is open, or more than the tolerance is. -/
theorem openAmount_range (input : CheckpointDifferenceInput) :
    (describeCheckpointDifference input).openAmount = 0 ∨
      checkpointDifferenceEpsilon input.currencyCode < (describeCheckpointDifference input).openAmount := by
  unfold describeCheckpointDifference
  dsimp only
  split_ifs with small
  · exact Or.inl rfl
  · exact Or.inr (not_le.mp small)

section
variable {amount resolved resolved' : ℚ} {closed : Bool} {currencyCode : String}

theorem openAmount_eq (nonneg : 0 ≤ resolved) (within : resolved ≤ |amount|) :
    (describeCheckpointDifference ⟨amount, resolved, closed, currencyCode⟩).openAmount =
      if |amount| - resolved ≤ checkpointDifferenceEpsilon currencyCode then 0 else |amount| - resolved := by
  unfold describeCheckpointDifference
  dsimp only
  rw [abs_of_nonneg nonneg, max_eq_right nonneg, max_eq_right (sub_nonneg.mpr within)]

/-- No more is open than what is not resolved. -/
theorem openAmount_le (nonneg : 0 ≤ resolved) (within : resolved ≤ |amount|) :
    (describeCheckpointDifference ⟨amount, resolved, closed, currencyCode⟩).openAmount ≤ |amount| - resolved := by
  rw [openAmount_eq nonneg within]
  split_ifs
  · exact sub_nonneg.mpr within
  · exact le_rfl

/-- Resolving by more than the tolerance leaves less open, by more than the tolerance. -/
theorem openAmount_apart (nonneg : 0 ≤ resolved)
    (more : resolved + checkpointDifferenceEpsilon currencyCode < resolved') (within : resolved' ≤ |amount|) :
    (describeCheckpointDifference ⟨amount, resolved', closed, currencyCode⟩).openAmount +
        checkpointDifferenceEpsilon currencyCode <
      (describeCheckpointDifference ⟨amount, resolved, closed, currencyCode⟩).openAmount := by
  have tolerance := epsilon_pos currencyCode
  have opened : ¬|amount| - resolved ≤ checkpointDifferenceEpsilon currencyCode := by linarith
  rw [openAmount_eq (by linarith) within, openAmount_eq nonneg (by linarith), if_neg opened]
  split_ifs
  · linarith
  · linarith

end

end Liratek.Drawer.CheckpointDifference
