import Liratek.Tenant.TrialCalendar
import Mathlib

/-! The trial's calendar days. All that is known of the time zone is that its days follow one another. -/

namespace Liratek.Tenant.TrialDays
open TrialCalendar

section
variable (shopDayOf : ℤ → ℤ)

structure FirstInstant (day start : ℤ) : Prop where
  inside : shopDayOf start = day
  first : ∀ instant, shopDayOf instant = day → start ≤ instant

/-- The days of a time zone: in order, changing at whole minutes, none left out, and each starting less than 15 hours
before its UTC midnight and at most 15 hours after. -/
structure ZoneDays : Prop where
  monotone : Monotone shopDayOf
  wholeMinutes : ∀ instant, shopDayOf (instant / minuteMs * minuteMs) = shopDayOf instant
  every : ∀ day, ∃ instant, shopDayOf instant = day
  within : ∀ day start, FirstInstant shopDayOf day start →
    -(15 * 60 * minuteMs) < start - day * dayMs ∧ start - day * dayMs ≤ 15 * 60 * minuteMs

end

variable {shopDayOf : ℤ → ℤ}

/-- Each day has a first instant: the day before is over by then. -/
theorem ZoneDays.exists_first (zone : ZoneDays shopDayOf) (day : ℤ) : ∃ start, FirstInstant shopDayOf day start := by
  obtain ⟨before, yesterday⟩ := zone.every (day - 1)
  have later : ∀ instant, shopDayOf instant = day → before ≤ instant := by
    intro instant same
    by_contra earlier
    have order := zone.monotone (not_le.mp earlier).le
    omega
  obtain ⟨start, inside, first⟩ := Int.exists_least_of_bdd ⟨before, later⟩ (zone.every day)
  exact ⟨start, inside, first⟩

/-- The loop's invariant: the day has not come at `lo` and has come at `hi`. -/
theorem searchDay_spec {day : ℤ} {fuel : Nat} {lo hi : ℤ} (enough : hi - lo ≤ fuel)
    (notYet : shopDayOf (lo * minuteMs) < day) (come : day ≤ shopDayOf (hi * minuteMs)) (lt : lo < hi) :
    shopDayOf ((searchDay shopDayOf day fuel lo hi - 1) * minuteMs) < day ∧
      day ≤ shopDayOf (searchDay shopDayOf day fuel lo hi * minuteMs) := by
  induction fuel generalizing lo hi with
  | zero => omega
  | succ fuel ih =>
    unfold searchDay
    dsimp only
    split_ifs with close later
    · have last : hi - 1 = lo := by omega
      rw [last]
      exact ⟨notYet, come⟩
    · exact ih (by push_cast at enough; omega) notYet later (by omega)
    · exact ih (by push_cast at enough; omega) (not_le.mp later) come (by omega)

/-- Fuel that is not needed changes nothing: the loop has ended. -/
theorem searchDay_ends {day : ℤ} {fuel more : Nat} {lo hi : ℤ} (enough : hi - lo ≤ fuel) :
    searchDay shopDayOf day (fuel + more) lo hi = searchDay shopDayOf day fuel lo hi := by
  induction fuel generalizing lo hi with
  | zero =>
    cases more with
    | zero => rfl
    | succ more =>
      unfold searchDay
      exact if_pos (by push_cast at enough; omega)
  | succ fuel ih =>
    rw [Nat.succ_add]
    unfold searchDay
    dsimp only
    split_ifs with close later
    · rfl
    · exact ih (by push_cast at enough; omega)
    · exact ih (by push_cast at enough; omega)

/-- The first whole minute of a day is its first instant. -/
theorem ZoneDays.first_of_minute (zone : ZoneDays shopDayOf) {day minute : ℤ}
    (notYet : shopDayOf ((minute - 1) * minuteMs) < day) (come : day ≤ shopDayOf (minute * minuteMs)) :
    FirstInstant shopDayOf day (minute * minuteMs) := by
  have before : ∀ instant, instant < minute * minuteMs → shopDayOf instant < day := by
    intro instant earlier
    have sameMinute := zone.wholeMinutes instant
    have order : instant / minuteMs * minuteMs ≤ (minute - 1) * minuteMs := by
      unfold minuteMs at earlier ⊢
      omega
    have le := zone.monotone order
    omega
  obtain ⟨instant, inside⟩ := zone.every day
  have reached : minute * minuteMs ≤ instant := by
    by_contra earlier
    have short := before instant (not_le.mp earlier)
    omega
  have order := zone.monotone reached
  refine ⟨by omega, ?_⟩
  intro other same
  by_contra earlier
  have short := before other (not_le.mp earlier)
  omega

theorem ZoneDays.startOfShopDay (zone : ZoneDays shopDayOf) (day : ℤ) :
    FirstInstant shopDayOf day (startOfShopDay shopDayOf day) := by
  obtain ⟨start, isFirst⟩ := zone.exists_first day
  have near := zone.within day start isFirst
  have lo : (day * dayMs - 15 * 60 * minuteMs) / minuteMs * minuteMs = day * dayMs - 15 * 60 * minuteMs := by
    unfold dayMs minuteMs
    omega
  have hi : (day * dayMs + 15 * 60 * minuteMs) / minuteMs * minuteMs = day * dayMs + 15 * 60 * minuteMs := by
    unfold dayMs minuteMs
    omega
  have notYet : shopDayOf ((day * dayMs - 15 * 60 * minuteMs) / minuteMs * minuteMs) < day := by
    rw [lo]
    have order := zone.monotone (show day * dayMs - 15 * 60 * minuteMs ≤ start by omega)
    rw [isFirst.inside] at order
    refine lt_of_le_of_ne order ?_
    intro same
    have first := isFirst.first _ same
    omega
  have come : day ≤ shopDayOf ((day * dayMs + 15 * 60 * minuteMs) / minuteMs * minuteMs) := by
    rw [hi]
    have order := zone.monotone (show start ≤ day * dayMs + 15 * 60 * minuteMs by omega)
    rwa [isFirst.inside] at order
  have found := searchDay_spec (Int.self_le_toNat _) notYet come (by unfold dayMs minuteMs; omega)
  exact zone.first_of_minute found.1 found.2

/-- By its end the day has come. -/
theorem FirstInstant.come_iff {day start : ℤ} (isFirst : FirstInstant shopDayOf day start) (zone : ZoneDays shopDayOf)
    (now : ℤ) : start ≤ now ↔ day ≤ shopDayOf now := by
  constructor
  · intro reached
    have order := zone.monotone reached
    rwa [isFirst.inside] at order
  · intro come
    by_contra earlier
    have order := zone.monotone (not_le.mp earlier).le
    rw [isFirst.inside] at order
    exact earlier (isFirst.first now (le_antisymm order come))

/-- The last instant of the day before. -/
theorem FirstInstant.before {day start : ℤ} (isFirst : FirstInstant shopDayOf day start) (zone : ZoneDays shopDayOf) :
    shopDayOf (start - 1) = day - 1 := by
  have notYet : ¬ day ≤ shopDayOf (start - 1) := by
    rw [← isFirst.come_iff zone]
    omega
  obtain ⟨instant, yesterday⟩ := zone.every (day - 1)
  have earlier : instant ≤ start - 1 := by
    by_contra reached
    have come := (isFirst.come_iff zone instant).mp (by omega)
    omega
  have order := zone.monotone earlier
  omega

theorem trialView_daysLeft (zone : ZoneDays shopDayOf) (day now : ℤ) :
    (trialView shopDayOf (startOfShopDay shopDayOf day) now).daysLeft = max 0 (day - shopDayOf now) := by
  have isFirst := zone.startOfShopDay day
  have last := isFirst.before zone
  have come := isFirst.come_iff zone now
  unfold trialView
  dsimp only
  rw [last]
  by_cases ended : startOfShopDay shopDayOf day ≤ now
  · have there := come.mp ended
    simp only [ended, decide_true, if_true]
    omega
  · have notYet : ¬ day ≤ shopDayOf now := fun there => ended (come.mpr there)
    simp only [ended, decide_false, Bool.false_eq_true, if_false]
    omega

theorem trial_calendar (zone : ZoneDays shopDayOf) (day : ℤ) :
    FirstInstant shopDayOf day (startOfShopDay shopDayOf day) ∧
    (∀ lo hi : ℤ, ∀ more : Nat, searchDay shopDayOf day ((hi - lo).toNat + more) lo hi =
      searchDay shopDayOf day (hi - lo).toNat lo hi) ∧
    (day < lastDayOfAll → endOfShopDay shopDayOf (.day day) = .ok (startOfShopDay shopDayOf (day + 1))) ∧
    (∀ now, ((trialView shopDayOf (startOfShopDay shopDayOf day) now).ended = true ↔ day ≤ shopDayOf now) ∧
      (trialView shopDayOf (startOfShopDay shopDayOf day) now).daysLeft = max 0 (day - shopDayOf now) ∧
      (trialView shopDayOf (startOfShopDay shopDayOf day) now).lastDay = day - 1) ∧
    (∀ now later, now ≤ later → (trialView shopDayOf (startOfShopDay shopDayOf day) later).daysLeft ≤
      (trialView shopDayOf (startOfShopDay shopDayOf day) now).daysLeft) := by
  have isFirst := zone.startOfShopDay day
  refine ⟨isFirst, ?_, ?_, ?_, ?_⟩
  · intro lo hi more
    exact searchDay_ends (Int.self_le_toNat _)
  · intro inRange
    exact if_pos inRange
  · intro now
    refine ⟨?_, trialView_daysLeft zone day now, isFirst.before zone⟩
    rw [← isFirst.come_iff zone now]
    exact decide_eq_true_iff
  · intro now later order
    rw [trialView_daysLeft zone, trialView_daysLeft zone]
    have days := zone.monotone order
    omega

/-- The days of a zone without an offset. -/
theorem utc_zoneDays : ZoneDays fun instant => instant / dayMs where
  monotone := fun first second order => Int.ediv_le_ediv (by decide) order
  wholeMinutes := by
    intro instant
    unfold minuteMs dayMs
    omega
  every := fun day => ⟨day * dayMs, Int.mul_ediv_cancel day (by decide)⟩
  within := by
    intro day start isFirst
    have inside := isFirst.inside
    have first := isFirst.first (day * dayMs) (Int.mul_ediv_cancel day (by decide))
    unfold minuteMs
    unfold dayMs at *
    omega

theorem trial_calendar_utc :
    FirstInstant (fun instant => instant / dayMs) 20000 (startOfShopDay (fun instant => instant / dayMs) 20000) ∧
      (trialView (fun instant => instant / dayMs) (startOfShopDay (fun instant => instant / dayMs) 20000)
        (19998 * dayMs)).daysLeft = 2 := by
  have calendar := trial_calendar utc_zoneDays 20000
  refine ⟨calendar.1, ?_⟩
  rw [(calendar.2.2.2.1 _).2.1]
  decide

/-- Days that start exactly 15 hours before their UTC midnight. The search never asks at its lower bound, so it answers a
minute late. -/
theorem startOfShopDay_fifteenAhead :
    let ahead : ℤ → ℤ := fun instant => (instant + 15 * 60 * minuteMs) / dayMs
    Monotone ahead ∧ (∀ instant, ahead (instant / minuteMs * minuteMs) = ahead instant) ∧
      (∀ day, ∃ instant, ahead instant = day) ∧
      (∀ day start, FirstInstant ahead day start → |start - day * dayMs| ≤ 15 * 60 * minuteMs) ∧
      ¬ FirstInstant ahead 20000 (startOfShopDay ahead 20000) := by
  intro ahead
  have start (day : ℤ) : ahead (day * dayMs - 15 * 60 * minuteMs) = day := by
    change (day * dayMs - 15 * 60 * minuteMs + 15 * 60 * minuteMs) / dayMs = day
    rw [sub_add_cancel]
    exact Int.mul_ediv_cancel day (by decide)
  refine ⟨fun first second order => Int.ediv_le_ediv (by decide) (by omega), fun instant => ?_, fun day => ⟨_, start day⟩,
    fun day first isFirst => ?_, fun isFirst => ?_⟩
  · change (instant / minuteMs * minuteMs + 15 * 60 * minuteMs) / dayMs = (instant + 15 * 60 * minuteMs) / dayMs
    unfold minuteMs dayMs
    omega
  · have inside : (first + 15 * 60 * minuteMs) / dayMs = day := isFirst.inside
    have le := isFirst.first _ (start day)
    rw [abs_le]
    unfold minuteMs dayMs at *
    omega
  · have late : startOfShopDay ahead 20000 = 20000 * dayMs - 15 * 60 * minuteMs + minuteMs := by decide +kernel
    have le := isFirst.first _ (start 20000)
    rw [late] at le
    unfold minuteMs at le
    omega

end Liratek.Tenant.TrialDays
