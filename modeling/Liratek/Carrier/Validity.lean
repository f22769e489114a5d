import Mathlib.Algebra.Order.Ring.Int
import Mathlib.Data.String.Basic
import Mathlib.Tactic.Linarith
import Mathlib.Tactic.SplitIfs

/-! The validity of a carrier line. A calendar date is the number of its day, so that dates are ordered as their
`YYYY-MM-DD` strings are. -/

namespace Liratek.Carrier.Validity

abbrev Day := ℤ

def addDaysToDateString (date : Day) (days : ℤ) : Day :=
  date + days

def daysBetweenDateStrings (fromDay toDay : Day) : ℤ :=
  toDay - fromDay

def maxLineValidityDays : ℤ := 365

def lineRevivalGraceDays : ℤ := 5

inductive LineValidityState where
  | noExpiry | valid | grace | burned
  deriving DecidableEq, Repr

structure LineValidityClassification where
  state : LineValidityState
  lapseDays : ℤ
  daysRemaining : ℤ
  deriving DecidableEq, Repr

def classifyLineValidity (expiry : Option Day) (today : Day) : LineValidityClassification :=
  match expiry with
  | none => { state := .noExpiry, lapseDays := 0, daysRemaining := 0 }
  | some expiry =>
    let daysRemaining := daysBetweenDateStrings today expiry
    if 0 ≤ daysRemaining then { state := .valid, lapseDays := 0, daysRemaining := daysRemaining }
    else
      { state := if -daysRemaining ≤ lineRevivalGraceDays then .grace else .burned
        lapseDays := -daysRemaining
        daysRemaining := daysRemaining }

structure ValidityProjection where
  expiry : Option Day
  capped : Bool := false
  burned : Bool := false
  state : LineValidityState
  lapseDays : ℤ
  daysLostToCap : ℤ := 0
  daysOwed : ℤ
  soldAhead : ℤ := 0
  owedApplied : ℤ := 0
  deriving DecidableEq, Repr

/-- Selling is never refused. A line with days left, or lapsed within the grace window, sells ahead what it lacks. -/
def sellDays (expiry : Option Day) (magnitude : ℤ) (today : Day) (unchanged : ValidityProjection)
    (available : ℤ) : ValidityProjection :=
  match unchanged.state with
  | .valid =>
    if magnitude ≤ available then
      { unchanged with expiry := expiry.map (addDaysToDateString · (-magnitude)) }
    else
      let soldAhead := magnitude - available
      { unchanged with
        expiry := some today
        state := .valid
        lapseDays := 0
        daysOwed := unchanged.daysOwed + soldAhead
        soldAhead := soldAhead }
  | .grace => { unchanged with daysOwed := unchanged.daysOwed + magnitude, soldAhead := magnitude }
  | .noExpiry | .burned => { unchanged with expiry := some (addDaysToDateString (expiry.getD today) (-magnitude)) }

/-- The owed days are paid first; what is left stacks on a live line, and starts a lapsed one from today. -/
def chargeDays (expiry : Option Day) (daysDelta : ℤ) (today : Day) (unchanged : ValidityProjection) :
    ValidityProjection :=
  let owedBefore := max unchanged.daysOwed 0
  let owedApplied := min daysDelta owedBefore
  let remainingDelta := daysDelta - owedApplied
  let owedAfter := owedBefore - owedApplied
  if remainingDelta = 0 then { unchanged with daysOwed := owedAfter, owedApplied := owedApplied }
  else if unchanged.state = .burned ∧ owedBefore = 0 then
    { unchanged with expiry := none, burned := true, daysOwed := owedBefore }
  else
    let base := if unchanged.state = .valid then expiry.getD today else today
    let extended := addDaysToDateString base remainingDelta
    let ceiling := addDaysToDateString today maxLineValidityDays
    if ceiling < extended then
      { unchanged with
        expiry := some ceiling
        capped := true
        daysLostToCap := daysBetweenDateStrings ceiling extended
        daysOwed := owedAfter
        owedApplied := owedApplied }
    else { unchanged with expiry := some extended, daysOwed := owedAfter, owedApplied := owedApplied }

def projectValidityExpiry (expiry : Option Day) (daysDelta : ℤ) (today : Day) (daysOwed : ℤ) : ValidityProjection :=
  let classification := classifyLineValidity expiry today
  let unchanged : ValidityProjection :=
    { expiry := expiry, state := classification.state, lapseDays := classification.lapseDays, daysOwed := daysOwed }
  if daysDelta = 0 then unchanged
  else if daysDelta < 0 then sellDays expiry (-daysDelta) today unchanged classification.daysRemaining
  else chargeDays expiry daysDelta today unchanged

def burnedLineMessage (number : ℤ → String) (lapseDays : ℤ) : String :=
  "This line expired " ++ number lapseDays ++ " days ago and is burned — a line can only be revived within " ++
    number lineRevivalGraceDays ++ " days of expiring. Register a new line."

/-! What a movement of days does to a line. -/

/-- A sale takes off the expiry what it does not sell ahead. -/
structure Sold (expiry : Option Day) (magnitude : ℤ) (today : Day) (daysOwed : ℤ) (p : ValidityProjection) : Prop where
  lands : p.expiry = some (expiry.getD today - (magnitude - p.soldAhead))
  owes : p.daysOwed = daysOwed + p.soldAhead
  ahead : 0 ≤ p.soldAhead
  within : p.soldAhead ≤ magnitude
  /-- a line without an expiry sells nothing ahead -/
  unlimited : expiry = none → p.soldAhead = 0
  burned : p.burned = false

theorem projectValidityExpiry_sold (expiry : Option Day) {daysDelta : ℤ} (sell : daysDelta < 0) (today : Day)
    (daysOwed : ℤ) :
    Sold expiry (-daysDelta) today daysOwed (projectValidityExpiry expiry daysDelta today daysOwed) := by
  unfold projectValidityExpiry
  rw [if_neg sell.ne, if_pos sell]
  rcases expiry with _ | expiry
  · constructor <;> simp [sellDays, classifyLineValidity, addDaysToDateString]
    exact sell.le
  · unfold classifyLineValidity
    dsimp only
    split_ifs with live grace
    · unfold sellDays
      dsimp only
      unfold daysBetweenDateStrings at *
      split_ifs with enough
      · constructor <;> simp [addDaysToDateString]
        exact sell.le
      · constructor <;> simp
        · omega
        · omega
    · constructor <;> simp [sellDays]
      exact sell.le
    · constructor <;> simp [sellDays, addDaysToDateString]
      exact sell.le

/-- A charge pays owed days, never more than there are. -/
structure Charged (daysOwed : ℤ) (p : ValidityProjection) : Prop where
  owes : p.daysOwed = daysOwed - p.owedApplied
  applied : 0 ≤ p.owedApplied
  within : p.owedApplied ≤ daysOwed

theorem projectValidityExpiry_charged (expiry : Option Day) {daysDelta : ℤ} (charge : 0 < daysDelta) (today : Day)
    {daysOwed : ℤ} (owed : 0 ≤ daysOwed) :
    Charged daysOwed (projectValidityExpiry expiry daysDelta today daysOwed) := by
  unfold projectValidityExpiry
  rw [if_neg charge.ne', if_neg charge.not_gt]
  unfold chargeDays
  dsimp only
  rw [max_eq_left owed]
  have applied : 0 ≤ min daysDelta daysOwed := le_min charge.le owed
  by_cases refused : (classifyLineValidity expiry today).state = .burned ∧ daysOwed = 0
  · rw [if_pos refused, refused.2]
    split_ifs
    · exact ⟨rfl, le_min charge.le le_rfl, min_le_right ..⟩
    · exact ⟨rfl, le_rfl, le_rfl⟩
  · rw [if_neg refused]
    split_ifs <;> exact ⟨rfl, applied, min_le_right ..⟩

/-! Where the days of a movement go. -/

/-- The day from which a charge counts. -/
def chargeBase (expiry : Option Day) (today : Day) : Day :=
  if (classifyLineValidity expiry today).state = .valid then expiry.getD today else today

/-- Every day of a charge pays an owed day, moves the expiry or is lost at the ceiling. -/
structure ChargedDays (expiry : Option Day) (days : ℤ) (today : Day) (daysOwed : ℤ) (p : ValidityProjection) :
    Prop where
  owes : p.daysOwed = daysOwed - p.owedApplied
  applied : p.owedApplied = min days daysOwed
  lost : 0 ≤ p.daysLostToCap
  still : days ≤ daysOwed → p.expiry = expiry ∧ days = p.owedApplied + p.daysLostToCap
  moves : daysOwed < days → ∃ newExpiry, p.expiry = some newExpiry ∧
    days = p.owedApplied + (newExpiry - chargeBase expiry today) + p.daysLostToCap ∧
    newExpiry ≤ today + maxLineValidityDays
  /-- an expiry stored beyond the ceiling is pulled back to it -/
  kept : ∀ current ∈ expiry, ∃ newExpiry, p.expiry = some newExpiry ∧
    (min current (today + maxLineValidityDays) ≤ newExpiry)

/-- Every day of a sale is taken off the expiry or owed. -/
structure SoldDays (expiry : Option Day) (days : ℤ) (today : Day) (daysOwed : ℤ) (p : ValidityProjection) : Prop where
  moves : ∃ current newExpiry, expiry = some current ∧ p.expiry = some newExpiry ∧
    p.daysOwed = daysOwed + (days - (current - newExpiry))
  live : (classifyLineValidity expiry today).state = .valid → ∃ newExpiry, p.expiry = some newExpiry ∧ today ≤ newExpiry

theorem classifyLineValidity_valid {current today : Day} :
    (classifyLineValidity (some current) today).state = .valid ↔ today ≤ current := by
  unfold classifyLineValidity daysBetweenDateStrings
  dsimp only
  split_ifs with live grace
  · exact iff_of_true rfl (sub_nonneg.mp live)
  · exact iff_of_false nofun fun later => live (sub_nonneg.mpr later)
  · exact iff_of_false nofun fun later => live (sub_nonneg.mpr later)

theorem chargeBase_some (current today : Day) : chargeBase (some current) today = max current today := by
  unfold chargeBase
  split_ifs with live
  · exact (max_eq_left (classifyLineValidity_valid.mp live)).symm
  · exact (max_eq_right (le_of_not_ge fun later => live (classifyLineValidity_valid.mpr later))).symm

theorem projectValidityExpiry_chargedDays (expiry : Option Day) {daysDelta : ℤ} (charge : 0 < daysDelta) (today : Day)
    {daysOwed : ℤ} (owed : 0 ≤ daysOwed) (alive : (projectValidityExpiry expiry daysDelta today daysOwed).burned = false) :
    ChargedDays expiry daysDelta today daysOwed (projectValidityExpiry expiry daysDelta today daysOwed) := by
  have owes := (projectValidityExpiry_charged expiry charge today owed).owes
  revert alive owes
  unfold projectValidityExpiry
  rw [if_neg charge.ne', if_neg charge.not_gt]
  unfold chargeDays
  dsimp only
  rw [max_eq_left owed]
  by_cases all : daysDelta ≤ daysOwed
  · rw [if_pos (by omega)]
    intro _ owes
    refine ⟨owes, rfl, le_rfl, fun _ => ⟨rfl, by simp [all]⟩, fun more => absurd more all.not_gt, fun current isCurrent => ?_⟩
    exact ⟨current, isCurrent, min_le_left ..⟩
  · have more : daysOwed < daysDelta := lt_of_not_ge all
    have base : (if (classifyLineValidity expiry today).state = .valid then expiry.getD today else today) =
        chargeBase expiry today := rfl
    rw [if_neg (by omega), min_eq_right more.le, base]
    by_cases refused : (classifyLineValidity expiry today).state = .burned ∧ daysOwed = 0
    · rw [if_pos refused]
      exact fun alive => absurd alive (by simp)
    · rw [if_neg refused]
      unfold addDaysToDateString daysBetweenDateStrings
      by_cases capped : today + maxLineValidityDays < chargeBase expiry today + (daysDelta - daysOwed)
      · rw [if_pos capped]
        intro _ owes
        refine ⟨owes, (min_eq_right more.le).symm, (sub_pos.mpr capped).le, fun few => absurd few all,
          fun _ => ⟨_, rfl, ?_, le_rfl⟩, fun current _ => ⟨_, rfl, min_le_right ..⟩⟩
        dsimp only
        omega
      · rw [if_neg capped]
        intro _ owes
        refine ⟨owes, (min_eq_right more.le).symm, le_rfl, fun few => absurd few all,
          fun _ => ⟨_, rfl, ?_, not_lt.mp capped⟩, fun current isCurrent => ⟨_, rfl, ?_⟩⟩
        · dsimp only
          omega
        · obtain rfl := Option.mem_def.mp isCurrent
          rw [chargeBase_some]
          exact (min_le_left ..).trans ((le_max_left current today).trans (le_add_of_nonneg_right (sub_pos.mpr more).le))

theorem projectValidityExpiry_soldDays {expiry : Option Day} {daysDelta : ℤ} (sell : daysDelta < 0) {today : Day}
    (daysOwed : ℤ) (held : (classifyLineValidity expiry today).state = .valid ∨ (classifyLineValidity expiry today).state = .grace) :
    SoldDays expiry (-daysDelta) today daysOwed (projectValidityExpiry expiry daysDelta today daysOwed) := by
  have sold := projectValidityExpiry_sold expiry sell today daysOwed
  rcases expiry with _ | current
  · simp [classifyLineValidity] at held
  · refine ⟨⟨current, _, rfl, sold.lands, ?_⟩, fun live => ?_⟩
    · rw [sold.owes, Option.getD_some]
      omega
    · -- what the line lacks is sold ahead
      have later := classifyLineValidity_valid.mp live
      unfold projectValidityExpiry
      rw [if_neg sell.ne, if_pos sell]
      unfold sellDays
      dsimp only
      rw [live]
      dsimp only
      split_ifs with enough
      · refine ⟨_, rfl, ?_⟩
        unfold classifyLineValidity daysBetweenDateStrings at enough
        dsimp only at enough
        rw [if_pos (sub_nonneg.mpr later)] at enough
        unfold addDaysToDateString
        dsimp only at enough
        linarith
      · exact ⟨today, rfl, le_rfl⟩

/-- The days of every movement that is not refused. -/
theorem projectValidityExpiry_days (expiry : Option Day) (daysDelta : ℤ) (today : Day) {daysOwed : ℤ} (owed : 0 ≤ daysOwed)
    (alive : (projectValidityExpiry expiry daysDelta today daysOwed).burned = false) :
    (0 < daysDelta →
      ChargedDays expiry daysDelta today daysOwed (projectValidityExpiry expiry daysDelta today daysOwed)) ∧
    (daysDelta < 0 →
      (classifyLineValidity expiry today).state = .valid ∨ (classifyLineValidity expiry today).state = .grace →
      SoldDays expiry (-daysDelta) today daysOwed (projectValidityExpiry expiry daysDelta today daysOwed)) :=
  ⟨fun charge => projectValidityExpiry_chargedDays expiry charge today owed alive,
    fun sell held => projectValidityExpiry_soldDays sell daysOwed held⟩

/-- A card of a year on a line that owes 210 days. -/
theorem projectValidityExpiry_days_owing :
    ChargedDays (some 100) 365 100 210 (projectValidityExpiry (some 100) 365 100 210) ∧
      (projectValidityExpiry (some 100) 365 100 210).expiry = some 255 :=
  ⟨(projectValidityExpiry_days (some 100) 365 100 (by decide) (by decide)).1 (by decide), by decide⟩

/-- A charge shortens a line that is stored beyond the ceiling. -/
theorem projectValidityExpiry_beyondCeiling :
    (projectValidityExpiry (some 500) 30 100 0).burned = false ∧
      ∃ newExpiry, (projectValidityExpiry (some 500) 30 100 0).expiry = some newExpiry ∧ newExpiry < 500 :=
  ⟨by decide, 465, by decide, by decide⟩

end Liratek.Carrier.Validity
