import Liratek.Lib.Calls
import Liratek.Lib.Table
import Liratek.Tenant.TrialCalendar

/-! The standing of a shop: its trial, its paid period, the grace after it, and the lapse sweep. -/

namespace Liratek.Tenant.Subscription
open Lib Lib.Calls TrialCalendar

def gracePeriodDays : ℤ := 7

inductive SubscriptionStatus where
  | active | grace | readOnly
  deriving DecidableEq, Repr

/-- A row of `tenant_subscriptions`. Its times are stored ones. -/
structure SubscriptionEntity where
  status : SubscriptionStatus := .active
  currentPeriodEnd : Option ℤ := none
  graceEndsAt : Option ℤ := none
  trialStartedAt : Option ℤ := none
  trialEndsAt : Option ℤ := none
  deriving DecidableEq, Repr

/-- Rows by tenant. -/
abbrev Subscriptions := Table SubscriptionEntity

inductive SubscriptionError where
  | notFound (tenantId : Nat)
  | noSubscription (tenantId : Nat)
  | dateInPast
  | payingShop
  | calendar (error : CalendarError)
  deriving DecidableEq, Repr

def SubscriptionError.message (number : Nat → String) (dayText : ℤ → String) : SubscriptionError → String
  | .notFound tenantId => "Subscription for tenant with id " ++ number tenantId ++ " not found"
  | .noSubscription tenantId => "No subscription for tenant " ++ number tenantId
  | .dateInPast => "Choose a date in the future"
  | .payingShop => "This shop pays; use Activate subscription"
  | .calendar (.notACalendarDay text) => "Not a calendar day: " ++ text
  | .calendar (.dayOutOfRange day) => "Not a calendar day: " ++ dayText day

section
variable (shopDayOf : ℤ → ℤ)

def payingSubscriptionSeed : SubscriptionEntity := {}

def trialSubscriptionSeed (now : ℤ) : SubscriptionEntity :=
  { payingSubscriptionSeed with
    trialStartedAt := some (toUtcSqlTimestamp now)
    trialEndsAt := some (toUtcSqlTimestamp (trialEndFor shopDayOf now)) }

/-- A row that breaks the rule of a trial is read by its paid columns. -/
def trialOf (row : SubscriptionEntity) (now : ℤ) : Option TrialView :=
  row.trialEndsAt.bind fun trialEndsAt =>
    if row.status ≠ .active || row.currentPeriodEnd.isSome || row.graceEndsAt.isSome then none
    else some (trialView shopDayOf (parseUtcInstant trialEndsAt) now)

inductive Standing where
  | trial | trialEnded
  | paid (status : SubscriptionStatus)
  deriving DecidableEq, Repr

structure SubscriptionStatusView where
  status : SubscriptionStatus
  standing : Standing
  canWrite : Bool
  currentPeriodEnd : Option ℤ
  graceEndsAt : Option ℤ
  trial : Option TrialView

def standingOf (row : SubscriptionEntity) (trial : Option TrialView) : Standing :=
  match trial with
  | none => .paid row.status
  | some trial => if trial.ended then .trialEnded else .trial

def toView (row : SubscriptionEntity) (now : ℤ) : SubscriptionStatusView :=
  let trial := trialOf shopDayOf row now
  let standing := standingOf row trial
  { status := row.status
    standing := standing
    canWrite := standing ≠ .paid .readOnly && standing ≠ .trialEnded
    currentPeriodEnd := row.currentPeriodEnd
    graceEndsAt := row.graceEndsAt
    trial := trial }

/-- A shop without a row may write. -/
def canWrite (s : Subscriptions) (tenantId : Nat) (now : ℤ) : Bool :=
  match s.get tenantId with
  | none => true
  | some row => (toView shopDayOf row now).canWrite

/-! The owner's actions. -/

def paidRow (periodEnd : Option ℤ) (row : SubscriptionEntity) : SubscriptionEntity :=
  { row with
    status := .active
    currentPeriodEnd := periodEnd
    graceEndsAt := none
    trialStartedAt := none
    trialEndsAt := none }

def markPaid (s : Subscriptions) (tenantId : Nat) (periodEnd : Option ℤ) : Except SubscriptionError Subscriptions :=
  if (s.get tenantId).isSome then .ok (s.update tenantId (paidRow periodEnd)) else .error (.noSubscription tenantId)

/-- The end of a day that is still to come. -/
def futureEnd (now : ℤ) (day : CalendarDay) : Except SubscriptionError ℤ :=
  match endOfShopDay shopDayOf day with
  | .error error => .error (.calendar error)
  | .ok instant => if instant ≤ now then .error .dateInPast else .ok instant

def activate (s : Subscriptions) (now : ℤ) (tenantId : Nat) (lastPaid : Option CalendarDay) :
    Except SubscriptionError Subscriptions :=
  match s.get tenantId with
  | none => .error (.notFound tenantId)
  | some _ =>
    match lastPaid with
    | none => .ok (s.update tenantId (paidRow none))
    | some day => (futureEnd shopDayOf now day).map fun instant =>
        s.update tenantId (paidRow (some (toUtcSqlTimestamp instant)))

def trialRow (now instant : ℤ) (row : SubscriptionEntity) : SubscriptionEntity :=
  { row with
    trialEndsAt := some (toUtcSqlTimestamp instant)
    trialStartedAt := row.trialStartedAt.getD (toUtcSqlTimestamp now) }

def onTrial (row : SubscriptionEntity) (now : ℤ) : Bool :=
  let standing := (toView shopDayOf row now).standing
  standing = .trial || standing = .trialEnded

def freeNoPeriod (row : SubscriptionEntity) : Bool :=
  row.status = .active && row.currentPeriodEnd.isNone && row.graceEndsAt.isNone

def extendTrial (s : Subscriptions) (now : ℤ) (tenantId : Nat) (lastDay : CalendarDay) :
    Except SubscriptionError Subscriptions :=
  match s.get tenantId with
  | none => .error (.notFound tenantId)
  | some row =>
    if !onTrial shopDayOf row now && !freeNoPeriod row then .error .payingShop
    else (futureEnd shopDayOf now lastDay).map fun instant => s.update tenantId (trialRow now instant)

/-! The lapse sweep. -/

def periodOver (nowIso : ℤ) (row : SubscriptionEntity) : Bool :=
  row.status = .active && row.currentPeriodEnd.any fun periodEnd => periodEnd ≤ nowIso

def graceOver (nowIso : ℤ) (row : SubscriptionEntity) : Bool :=
  row.status = .grace && row.graceEndsAt.any fun graceEnd => graceEnd ≤ nowIso

structure Lapsed where
  toGrace : List Nat
  toReadOnly : List Nat

def findLapsed (s : Subscriptions) (nowIso : ℤ) : Lapsed where
  toGrace := (s.select (periodOver nowIso)).map (·.1)
  toReadOnly := (s.select (graceOver nowIso)).map (·.1)

def addDays (instant days : ℤ) : ℤ :=
  instant + days * dayMs

def graceRow (graceEnds : ℤ) (row : SubscriptionEntity) : SubscriptionEntity :=
  { row with status := .grace, graceEndsAt := some graceEnds }

def readOnlyRow (row : SubscriptionEntity) : SubscriptionEntity :=
  { row with status := .readOnly }

def updateAll (s : Subscriptions) (tenantIds : List Nat) (change : SubscriptionEntity → SubscriptionEntity) :
    Subscriptions :=
  tenantIds.foldl (fun s tenantId => s.update tenantId change) s

def runLapseSweep (s : Subscriptions) (now : ℤ) : Subscriptions :=
  let lapsed := findLapsed s (toUtcSqlTimestamp now)
  let graceEnds := toUtcSqlTimestamp (addDays now gracePeriodDays)
  updateAll (updateAll s lapsed.toGrace (graceRow graceEnds)) lapsed.toReadOnly readOnlyRow

inductive Action where
  /-- with a trial or without -/
  | create (withTrial : Bool)
  | markPaid (tenantId : Nat) (periodEnd : Option ℤ)
  | activate (tenantId : Nat) (lastPaid : Option CalendarDay)
  | extendTrial (tenantId : Nat) (lastDay : CalendarDay)
  | runLapseSweep
  deriving DecidableEq, Repr

def call (s : Subscriptions) (input : ℤ × Action) : Except SubscriptionError Subscriptions :=
  match input.2 with
  | .create withTrial => .ok (s.insert (if withTrial then trialSubscriptionSeed shopDayOf input.1 else payingSubscriptionSeed))
  | .markPaid tenantId periodEnd => markPaid s tenantId periodEnd
  | .activate tenantId lastPaid => activate shopDayOf s input.1 tenantId lastPaid
  | .extendTrial tenantId lastDay => extendTrial shopDayOf s input.1 tenantId lastDay
  | .runLapseSweep => .ok (runLapseSweep s input.1)

/-- A call that throws changes nothing. -/
def exec (s : Subscriptions) (input : ℤ × Action) : Subscriptions :=
  leaves s (call shopDayOf s input)

end

end Liratek.Tenant.Subscription
