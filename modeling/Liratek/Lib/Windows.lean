import Mathlib.Algebra.Order.Group.Int
import Mathlib.Tactic.Linarith

/-! Rolling windows: events that are admitted by how many there were in the time before them. -/

namespace Liratek.Lib.Windows

/-- Each of `times`, the last first, was admitted with fewer than `limit` in the window before it. -/
def Admitted (limit : ℕ) (window : ℤ) : List ℤ → Prop
  | [] => True
  | time :: earlier => earlier.countP (time - window ≤ ·) < limit ∧ Admitted limit window earlier

def within (times : List ℤ) (first last : ℤ) : ℕ :=
  times.countP fun time => first ≤ time ∧ time ≤ last

/-- Then no window holds more than `limit`, whether or not the times are in order. -/
theorem Admitted.within_le {limit : ℕ} {window : ℤ} {times : List ℤ} (admitted : Admitted limit window times) (first : ℤ) :
    within times first (first + window) ≤ limit := by
  induction times with
  | nil => exact Nat.zero_le limit
  | cons time earlier ih =>
    unfold within at *
    by_cases inside : first ≤ time ∧ time ≤ first + window
    · rw [List.countP_cons, if_pos (decide_eq_true inside)]
      -- what is in this window is in the one before `time`
      have fewer : earlier.countP (fun t => first ≤ t ∧ t ≤ first + window) ≤ earlier.countP (time - window ≤ ·) := by
        apply List.countP_mono_left
        intro t _ there
        have lower := (of_decide_eq_true there).1
        apply decide_eq_true
        linarith [inside.2]
      exact Nat.succ_le_of_lt (lt_of_le_of_lt fewer admitted.1)
    · rw [List.countP_cons, if_neg (fun holds => inside (of_decide_eq_true holds))]
      exact ih admitted.2

end Liratek.Lib.Windows
