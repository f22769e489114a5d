import Mathlib.Data.Int.Order.Basic

/-! The free-trial calendar. Instants are milliseconds, days are counted from 1970-01-01. -/

namespace Liratek.Tenant.TrialCalendar

def trialLengthDays : ℤ := 14

def minuteMs : ℤ := 60000

def dayMs : ℤ := 86400000

/-- 9999-12-31, the last day a `YYYY-MM-DD` can write -/
def lastDayOfAll : ℤ := 2932896

inductive CalendarDay where
  | day (day : ℤ)
  /-- not a calendar day -/
  | text (text : String)
  deriving DecidableEq, Repr

inductive CalendarError where
  | notACalendarDay (text : String)
  | dayOutOfRange (day : ℤ)
  deriving DecidableEq, Repr

section
-- the shop's calendar day at an instant, from the time zone data of Asia/Beirut
variable (shopDayOf : ℤ → ℤ)

/-- The first minute after `lo`, up to `hi`, whose shop day is `day` or later. -/
def searchDay (day : ℤ) : Nat → ℤ → ℤ → ℤ
  | 0, _, hi => hi
  | fuel + 1, lo, hi =>
    if hi - lo ≤ 1 then hi
    else
      let mid := (lo + hi) / 2
      if day ≤ shopDayOf (mid * minuteMs) then searchDay day fuel lo mid else searchDay day fuel mid hi

def startOfShopDay (day : ℤ) : ℤ :=
  let utcMidnight := day * dayMs
  let lo := (utcMidnight - 15 * 60 * minuteMs) / minuteMs
  let hi := (utcMidnight + 15 * 60 * minuteMs) / minuteMs
  searchDay shopDayOf day (hi - lo).toNat lo hi * minuteMs

/-- The first instant of the next day. -/
def endOfShopDay : CalendarDay → Except CalendarError ℤ
  | .text text => .error (.notACalendarDay text)
  | .day day => if day < lastDayOfAll then .ok (startOfShopDay shopDayOf (day + 1)) else .error (.dayOutOfRange (day + 1))

/-- A trial that starts on the day of the sign-up. -/
def trialEndFor (signup : ℤ) : ℤ :=
  startOfShopDay shopDayOf (shopDayOf signup + trialLengthDays)

structure TrialView where
  endsAt : ℤ
  lastDay : ℤ
  daysLeft : ℤ
  endsSoon : Bool
  ended : Bool

def trialView (endsAt now : ℤ) : TrialView :=
  let ended : Bool := endsAt ≤ now
  let lastDay := shopDayOf (endsAt - 1)
  let daysLeft := if ended then 0 else max 1 (lastDay - shopDayOf now + 1)
  { endsAt := endsAt
    lastDay := lastDay
    daysLeft := daysLeft
    endsSoon := !ended && daysLeft ≤ 3
    ended := ended }

end

/-! Stored times, `YYYY-MM-DD HH:MM:SS`: whole seconds. -/

def toUtcSqlTimestamp (instant : ℤ) : ℤ :=
  instant / 1000

def parseUtcInstant (stored : ℤ) : ℤ :=
  stored * 1000

theorem toUtcSqlTimestamp_range (instant : ℤ) : parseUtcInstant (toUtcSqlTimestamp instant) ≤ instant ∧
    instant < parseUtcInstant (toUtcSqlTimestamp instant) + 1000 := by
  unfold parseUtcInstant toUtcSqlTimestamp
  omega

/-- The search ends between the bounds it was given. -/
theorem searchDay_range (shopDayOf : ℤ → ℤ) (day : ℤ) (fuel : Nat) (lo hi : ℤ) (le : lo ≤ hi) :
    lo ≤ searchDay shopDayOf day fuel lo hi ∧ searchDay shopDayOf day fuel lo hi ≤ hi := by
  induction fuel generalizing lo hi with
  | zero => exact ⟨le, le_rfl⟩
  | succ fuel ih =>
    unfold searchDay
    dsimp only
    split_ifs with close later
    · exact ⟨le, le_rfl⟩
    · have bounds := ih lo ((lo + hi) / 2) (by omega)
      omega
    · have bounds := ih ((lo + hi) / 2) hi (by omega)
      omega

end Liratek.Tenant.TrialCalendar
