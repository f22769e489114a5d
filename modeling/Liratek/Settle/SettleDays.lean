import Liratek.Money.LargestRemainder
import Mathlib.Data.List.Dedup
import Mathlib.Data.String.Basic

/-! Calendar days from settlement rows. Days are never stored; they are worked out from the rows. -/

namespace Liratek.Settle.SettleDays
open Money.LargestRemainder (mathRound)

inductive SettleDayState where
  | none | settled | unpaid | partly
  deriving DecidableEq, Repr

inductive SettleCurrencyState where
  | owed | part | paid
  deriving DecidableEq, Repr

inductive Currency where
  | usd | lbp
  deriving DecidableEq, Repr

inductive RowScope where
  | day | account
  deriving DecidableEq, Repr

inductive ReliefOrigin where
  | undo | void
  deriving DecidableEq, Repr

structure SettleDayRow where
  shopDay : String
  /-- any text: only `FINANCIAL_SERVICE` means something here -/
  kind : String
  /-- + the shop owes, − the shop is owed -/
  amount : Currency → ℚ
  /-- magnitude paid so far -/
  covered : Currency → ℚ
  /-- signed like `amount` -/
  remaining : Currency → ℚ
  rowScope : RowScope
  omtServiceType : Option String := none
  commissionModel : Option Nat := none
  sourceProvider : Option String := none
  reliefOrigin : Option ReliefOrigin := none
  reliefRef : Option String := none

structure SettleAccountMark where
  origin : ReliefOrigin
  ref : String
  currency : Currency
  amount : ℚ
  deriving DecidableEq, Repr

structure SettleDay where
  day : String
  state : SettleDayState
  left : Currency → ℚ
  owed : Currency → ℚ
  /-- `none`: the day has no amount in that currency -/
  paidPct : Currency → Option ℚ
  currencyState : Currency → Option SettleCurrencyState
  selectable : Bool
  waitingCount : Nat
  accountMarks : List SettleAccountMark

structure BuildSettleDaysOptions where
  today : String
  month : String
  /-- `none`: every type is covered -/
  coveredTypes : Option (List String) := none

/-! Minor units: cents and whole lira. -/

def minorFactor : Currency → ℚ
  | .usd => 100
  | .lbp => 1

def toMinor (c : Currency) (x : ℚ) : ℤ :=
  mathRound (x * minorFactor c)

def fromMinor (c : Currency) (m : ℤ) : ℚ :=
  m / minorFactor c

def isSettleRowOpen (row : SettleDayRow) : Bool :=
  toMinor .usd (row.remaining .usd) ≠ 0 || toMinor .lbp (row.remaining .lbp) ≠ 0

def omtRowCoveredType (row : SettleDayRow) : String :=
  row.omtServiceType.getD "UNSPECIFIED"

def isOmtRowCovered (row : SettleDayRow) (covered : List String) : Bool :=
  if row.sourceProvider ≠ some "OMT" then true else covered.contains (omtRowCoveredType row)

def isSettleRowWaiting (row : SettleDayRow) (coveredTypes : Option (List String)) : Bool :=
  match coveredTypes with
  | none => false
  | some covered =>
    if row.kind ≠ "FINANCIAL_SERVICE" || row.commissionModel ≠ some 1 then false else !isOmtRowCovered row covered

/-! The days of a month. -/

def digit (c : Char) : Option Nat :=
  if '0' ≤ c && c ≤ '9' then some (c.toNat - '0'.toNat) else none

/-- `YYYY-MM` with a month from 01 to 12. -/
def parseMonth (month : String) : Option (Nat × Nat) :=
  match month.toList.map digit, month.toList[4]? with
  | [some a, some b, some c, some d, none, some x, some y], some '-' =>
    let mon := 10 * x + y
    if 1 ≤ mon && mon ≤ 12 then some (1000 * a + 100 * b + 10 * c + d, mon) else none
  | _, _ => none

def isLeapYear (year : Nat) : Bool :=
  year % 4 = 0 && (year % 100 ≠ 0 || year % 400 = 0)

/-- `new Date(Date.UTC(year, mon, 0)).getUTCDate()`: a year below 100 is taken as 19YY. -/
def daysInMonth (year mon : Nat) : Nat :=
  let utcYear := if year < 100 then 1900 + year else year
  if mon = 2 then if isLeapYear utcYear then 29 else 28
  else if mon = 4 || mon = 6 || mon = 9 || mon = 11 then 30
  else 31

/-- `String(d).padStart(2, "0")` -/
def padded (d : Nat) : String :=
  String.ofList (List.leftpad 2 '0' (Nat.toDigits 10 d))

def daysOfMonth (month : String) : Except String (List String) :=
  match parseMonth month with
  | none => .error s!"Invalid month \"{month}\" (expected YYYY-MM)"
  | some (year, mon) => .ok ((List.range (daysInMonth year mon)).map fun d => month ++ "-" ++ padded (d + 1))

/-! One day. -/

/-- Badge and share of one currency, in the direction that the day's money goes. -/
def currencyState (debt credit net left : ℤ) : Option ℚ × Option SettleCurrencyState :=
  if debt = 0 && credit = 0 then (none, none)
  else
    let sign := if net ≠ 0 then net.sign else if credit ≤ debt then 1 else -1
    let total := if net ≠ 0 then |net| else max debt credit
    let leftThisWay := max (sign * left) 0
    let paid := min (max (total - leftThisWay) 0) total
    (some ((paid : ℚ) / total), some (if left = 0 then .paid else if paid = 0 then .owed else .part))

structure MarkSum where
  origin : ReliefOrigin
  ref : String
  currency : Currency
  minor : ℤ
  deriving DecidableEq, Repr

def addMark (sums : List MarkSum) (mark : MarkSum) : List MarkSum :=
  let same (m : MarkSum) : Bool := m.origin = mark.origin && m.ref = mark.ref && m.currency = mark.currency
  if sums.any same then sums.map fun m => if same m then { m with minor := m.minor + mark.minor } else m
  else sums ++ [mark]

/-- Marks from the open account rows that an undo or a void wrote. -/
def marksOf (rows : List SettleDayRow) : List SettleAccountMark :=
  let sums := rows.foldl (fun sums row =>
    match row.rowScope, row.reliefOrigin with
    | .account, some origin =>
      [Currency.usd, Currency.lbp].foldl (fun sums c =>
        let minor := toMinor c (row.remaining c)
        if minor = 0 then sums
        else addMark sums { origin := origin, ref := row.reliefRef.getD "", currency := c, minor := |minor| }) sums
    | _, _ => sums) []
  sums.map fun m => { origin := m.origin, ref := m.ref, currency := m.currency, amount := fromMinor m.currency m.minor }

structure DayTotals where
  left : Currency → ℤ := fun _ => 0
  owed : Currency → ℤ := fun _ => 0
  credit : Currency → ℤ := fun _ => 0
  anyOpen : Bool := false
  anyCovered : Bool := false
  waiting : Nat := 0

/-- One turn of the loop over a day's rows. -/
def addRow (coveredTypes : Option (List String)) (t : DayTotals) (row : SettleDayRow) : DayTotals :=
  let amt c := toMinor c (row.amount c)
  let summed := { t with
    owed := fun c => if 0 < amt c then t.owed c + amt c else t.owed c
    credit := fun c => if 0 < amt c then t.credit c else t.credit c - amt c
    anyCovered := t.anyCovered || toMinor .usd (row.covered .usd) ≠ 0 || toMinor .lbp (row.covered .lbp) ≠ 0 }
  if isSettleRowOpen row then
    { summed with
      anyOpen := true
      left := fun c => t.left c + toMinor c (row.remaining c)
      waiting := if isSettleRowWaiting row coveredTypes then t.waiting + 1 else t.waiting }
  -- a closed row that owed something was settled; one born with nothing owed was never paid
  else if amt .usd ≠ 0 || amt .lbp ≠ 0 then { summed with anyCovered := true }
  else summed

def dayTotals (coveredTypes : Option (List String)) (rows : List SettleDayRow) : DayTotals :=
  rows.foldl (addRow coveredTypes) {}

def dayState (rows : List SettleDayRow) (t : DayTotals) : SettleDayState :=
  if rows.isEmpty then .none else if !t.anyOpen then .settled else if t.anyCovered then .partly else .unpaid

def buildDay (day : String) (rows : List SettleDayRow) (today : String) (coveredTypes : Option (List String))
    (marks : List SettleAccountMark) : SettleDay :=
  let t := dayTotals coveredTypes rows
  let state := dayState rows t
  let badge c := SettleDays.currencyState (t.owed c) (t.credit c) (t.owed c - t.credit c) (t.left c)
  { day := day
    state := state
    left := fun c => fromMinor c (t.left c)
    owed := fun c => fromMinor c (t.owed c)
    paidPct := fun c => (badge c).1
    currencyState := fun c => (badge c).2
    selectable := (state = .unpaid || state = .partly) && day ≤ today
    waitingCount := t.waiting
    accountMarks := marks }

/-! The calendar. -/

def rowsOf (rows : List SettleDayRow) (scope : RowScope) (day : String) : List SettleDayRow :=
  rows.filter fun row => row.rowScope = scope && row.shopDay = day

def buildSettleDays (rows : List SettleDayRow) (opts : BuildSettleDaysOptions) : Except String (List SettleDay) :=
  (daysOfMonth opts.month).map fun days => days.map fun day =>
    buildDay day (rowsOf rows .day day) opts.today opts.coveredTypes (marksOf (rowsOf rows .account day))

/-- The days of any month before `today` with an open row, in order. -/
def openDaysBefore (rows : List SettleDayRow) (today : String) : List String :=
  ((rows.filter fun row => row.rowScope = .day && row.shopDay < today && isSettleRowOpen row).map (·.shopDay)).dedup.insertionSort
    (· ≤ ·)

/-- Left this month. -/
def monthLeft (days : List SettleDay) (c : Currency) : ℚ :=
  fromMinor c (days.map fun d => toMinor c (d.left c)).sum

end Liratek.Settle.SettleDays
