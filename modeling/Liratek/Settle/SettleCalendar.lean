import Liratek.Lib.Coverage
import Liratek.Settle.SettleDays
import Mathlib.Algebra.BigOperators.Ring.Finset

/-! The calendar agrees with its rows. -/

namespace Liratek.Settle.SettleCalendar
open SettleDays
open Money.LargestRemainder (mathRound)

/-! What the loop over a day's rows adds up. -/

theorem remaining_closed {row : SettleDayRow} (closed : isSettleRowOpen row = false) (c : Currency) :
    toMinor c (row.remaining c) = 0 := by
  simp only [isSettleRowOpen, Bool.or_eq_false_iff, decide_eq_false_iff_not, not_not] at closed
  cases c
  · exact closed.1
  · exact closed.2

/-- A row that shows that something on the day was settled. -/
def showsCover (row : SettleDayRow) : Bool :=
  toMinor .usd (row.covered .usd) ≠ 0 || toMinor .lbp (row.covered .lbp) ≠ 0 ||
    (!isSettleRowOpen row && (toMinor .usd (row.amount .usd) ≠ 0 || toMinor .lbp (row.amount .lbp) ≠ 0))

section
variable (coveredTypes : Option (List String)) (t : DayTotals) (row : SettleDayRow) (c : Currency)

theorem addRow_left : (addRow coveredTypes t row).left c = t.left c + toMinor c (row.remaining c) := by
  unfold addRow
  dsimp only
  cases isOpen : isSettleRowOpen row with
  | true => rfl
  | false =>
    rw [if_neg Bool.false_ne_true, remaining_closed isOpen, add_zero]
    split_ifs <;> rfl

theorem addRow_owed : (addRow coveredTypes t row).owed c = t.owed c + max 0 (toMinor c (row.amount c)) := by
  have owed : (addRow coveredTypes t row).owed c =
      if 0 < toMinor c (row.amount c) then t.owed c + toMinor c (row.amount c) else t.owed c := by
    unfold addRow
    dsimp only
    cases isSettleRowOpen row with
    | true => rfl
    | false =>
      rw [if_neg Bool.false_ne_true]
      split <;> rfl
  rw [owed]
  split_ifs <;> omega

theorem addRow_credit : (addRow coveredTypes t row).credit c = t.credit c + max 0 (-toMinor c (row.amount c)) := by
  have credit : (addRow coveredTypes t row).credit c =
      if 0 < toMinor c (row.amount c) then t.credit c else t.credit c - toMinor c (row.amount c) := by
    unfold addRow
    dsimp only
    cases isSettleRowOpen row with
    | true => rfl
    | false =>
      rw [if_neg Bool.false_ne_true]
      split <;> rfl
  rw [credit]
  split_ifs <;> omega

theorem addRow_anyOpen : (addRow coveredTypes t row).anyOpen = (t.anyOpen || isSettleRowOpen row) := by
  unfold addRow
  dsimp only
  cases isSettleRowOpen row with
  | true => rw [if_pos rfl, Bool.or_true]
  | false =>
    rw [if_neg Bool.false_ne_true, Bool.or_false]
    split_ifs <;> rfl

theorem addRow_anyCovered : (addRow coveredTypes t row).anyCovered = (t.anyCovered || showsCover row) := by
  unfold addRow showsCover
  dsimp only
  cases isSettleRowOpen row with
  | true =>
    rw [if_pos rfl]
    simp [Bool.or_assoc]
  | false =>
    rw [if_neg Bool.false_ne_true]
    split_ifs with some'
    · rw [some']
      simp
    · rw [Bool.not_eq_true] at some'
      rw [some']
      simp [Bool.or_assoc]

theorem addRow_waiting : (addRow coveredTypes t row).waiting =
    t.waiting + if isSettleRowOpen row && isSettleRowWaiting row coveredTypes then 1 else 0 := by
  unfold addRow
  dsimp only
  cases isSettleRowOpen row with
  | true =>
    rw [if_pos rfl, Bool.true_and]
    dsimp only
    split_ifs <;> rfl
  | false =>
    rw [if_neg Bool.false_ne_true, Bool.false_and, if_neg Bool.false_ne_true, add_zero]
    split_ifs <;> rfl

end

/-- What a day's loop ends with. -/
def totalsOf (coveredTypes : Option (List String)) (rows : List SettleDayRow) : DayTotals where
  left c := (rows.map fun row => toMinor c (row.remaining c)).sum
  owed c := (rows.map fun row => max 0 (toMinor c (row.amount c))).sum
  credit c := (rows.map fun row => max 0 (-toMinor c (row.amount c))).sum
  anyOpen := rows.any isSettleRowOpen
  anyCovered := rows.any showsCover
  waiting := (rows.map fun row => if isSettleRowOpen row && isSettleRowWaiting row coveredTypes then 1 else 0).sum

theorem dayTotals_append (coveredTypes : Option (List String)) (rows : List SettleDayRow) (row : SettleDayRow) :
    dayTotals coveredTypes (rows ++ [row]) = addRow coveredTypes (dayTotals coveredTypes rows) row := by
  rw [dayTotals, List.foldl_append]
  rfl

theorem dayTotals_eq (coveredTypes : Option (List String)) (rows : List SettleDayRow) :
    dayTotals coveredTypes rows = totalsOf coveredTypes rows := by
  induction rows using List.reverseRecOn with
  | nil => rfl
  | append_singleton rows row ih =>
    rw [dayTotals_append, ih]
    have left c := addRow_left coveredTypes (totalsOf coveredTypes rows) row c
    have owed c := addRow_owed coveredTypes (totalsOf coveredTypes rows) row c
    have credit c := addRow_credit coveredTypes (totalsOf coveredTypes rows) row c
    have anyOpen := addRow_anyOpen coveredTypes (totalsOf coveredTypes rows) row
    have anyCovered := addRow_anyCovered coveredTypes (totalsOf coveredTypes rows) row
    have waiting := addRow_waiting coveredTypes (totalsOf coveredTypes rows) row
    generalize addRow coveredTypes (totalsOf coveredTypes rows) row = next at *
    obtain ⟨nextLeft, nextOwed, nextCredit, nextOpen, nextCovered, nextWaiting⟩ := next
    obtain rfl : nextLeft = _ := funext left
    obtain rfl : nextOwed = _ := funext owed
    obtain rfl : nextCredit = _ := funext credit
    dsimp only at anyOpen anyCovered waiting
    subst anyOpen anyCovered waiting
    simp [totalsOf]

/-- The order of a day's rows says nothing. -/
theorem totalsOf_perm (coveredTypes : Option (List String)) {rows rows' : List SettleDayRow} (perm : rows.Perm rows') :
    totalsOf coveredTypes rows = totalsOf coveredTypes rows' := by
  unfold totalsOf
  congr 1
  · funext c
    exact (perm.map _).sum_eq
  · funext c
    exact (perm.map _).sum_eq
  · funext c
    exact (perm.map _).sum_eq
  · exact perm.any_eq
  · exact perm.any_eq
  · exact (perm.map _).sum_eq

/-! Badge and share of a currency. -/

section
variable {debt credit net left : ℤ}

theorem currencyState_none : (currencyState debt credit net left).1 = none ↔ debt = 0 ∧ credit = 0 := by
  unfold currencyState
  split_ifs with none
  · simpa using none
  · simpa using none

theorem currencyState_same : (currencyState debt credit net left).2 = none ↔ (currencyState debt credit net left).1 = none := by
  unfold currencyState
  split_ifs
  · exact iff_of_true rfl rfl
  · exact iff_of_false (by simp) (by simp)

/-- What the share is measured by: positive when there is an amount. -/
theorem dayTotal_pos (debts : 0 ≤ debt) (credits : 0 ≤ credit) (some' : ¬(debt = 0 ∧ credit = 0)) :
    0 < if net ≠ 0 then |net| else max debt credit := by
  split_ifs with way
  · exact abs_pos.mpr way
  · omega

theorem share_range (debts : 0 ≤ debt) (credits : 0 ≤ credit) {p : ℚ}
    (share : (currencyState debt credit net left).1 = some p) : 0 ≤ p ∧ p ≤ 1 := by
  have some' : ¬(debt = 0 ∧ credit = 0) := fun none => by simp [currencyState_none.mpr none] at share
  have total : 0 < if net ≠ 0 then |net| else max debt credit := dayTotal_pos debts credits some'
  unfold currencyState at share
  rw [if_neg (by simpa using some')] at share
  dsimp only at share
  generalize (if net ≠ 0 then |net| else max debt credit) = total' at *
  generalize max ((if net ≠ 0 then net.sign else if credit ≤ debt then 1 else -1) * left) 0 = leftThisWay at *
  obtain rfl := Option.some.inj share
  have positive : (0 : ℚ) < total' := Int.cast_pos.mpr total
  have low : 0 ≤ min (max (total' - leftThisWay) 0) total' := le_min (le_max_right _ _) total.le
  exact ⟨div_nonneg (Int.cast_nonneg low) positive.le,
    (div_le_one positive).mpr (Int.cast_le.mpr (min_le_right _ _))⟩

theorem share_whole (debts : 0 ≤ debt) (credits : 0 ≤ credit) {p : ℚ}
    (share : (currencyState debt credit net 0).1 = some p) : p = 1 := by
  have some' : ¬(debt = 0 ∧ credit = 0) := fun none => by simp [currencyState_none.mpr none] at share
  have total : 0 < if net ≠ 0 then |net| else max debt credit := dayTotal_pos debts credits some'
  unfold currencyState at share
  rw [if_neg (by simpa using some')] at share
  dsimp only at share
  rw [mul_zero, max_self, sub_zero, max_eq_left total.le, min_self] at share
  obtain rfl := Option.some.inj share
  exact div_self (Int.cast_ne_zero.mpr total.ne')

theorem unpaid_badge {p : Prop} [Decidable p] :
    (if p then SettleCurrencyState.owed else SettleCurrencyState.part) ≠ .paid := by
  split <;> nofun

theorem badge_paid {badge : SettleCurrencyState} (state : (currencyState debt credit net left).2 = some badge) :
    badge = .paid ↔ left = 0 := by
  unfold currencyState at state
  split at state
  · simp at state
  · obtain rfl := Option.some.inj state
    by_cases none : left = 0
    · rw [if_pos none]
      exact iff_of_true rfl none
    · rw [if_neg none]
      exact iff_of_false unpaid_badge none

end

/-! The state of a day. -/

section
variable (day today : String) (rows : List SettleDayRow) (coveredTypes : Option (List String)) (marks : List SettleAccountMark)

theorem buildDay_none : (buildDay day rows today coveredTypes marks).state = .none ↔ rows = [] := by
  change dayState _ _ = _ ↔ _
  unfold dayState
  rw [← List.isEmpty_iff]
  split_ifs with empty isOpen covered
  · exact iff_of_true rfl empty
  · exact iff_of_false nofun empty
  · exact iff_of_false nofun empty
  · exact iff_of_false nofun empty

theorem buildDay_settled : (buildDay day rows today coveredTypes marks).state = .settled ↔
    rows ≠ [] ∧ ∀ row ∈ rows, isSettleRowOpen row = false := by
  change dayState _ _ = _ ↔ _
  unfold dayState
  rw [dayTotals_eq, ne_eq, ← List.isEmpty_iff]
  change (if rows.isEmpty then _ else if !rows.any isSettleRowOpen then _ else _) = _ ↔ _
  split_ifs with empty isOpen covered
  · exact iff_of_false nofun fun h => h.1 empty
  · rw [Bool.not_eq_true', List.any_eq_false] at isOpen
    exact iff_of_true rfl ⟨empty, fun row member => Bool.eq_false_of_not_eq_true (isOpen row member)⟩
  all_goals
    refine iff_of_false nofun fun h => isOpen ?_
    rw [Bool.not_eq_true', List.any_eq_false]
    exact fun row member => by rw [h.2 row member]; exact Bool.false_ne_true

/-- Something on the day is left to pay, in either currency. -/
theorem buildDay_open : (buildDay day rows today coveredTypes marks).state = .unpaid ∨
    (buildDay day rows today coveredTypes marks).state = .partly ↔ ∃ row ∈ rows, isSettleRowOpen row = true := by
  have none := buildDay_none day today rows coveredTypes marks
  have settled := buildDay_settled day today rows coveredTypes marks
  constructor
  · intro states
    by_contra nothing
    push Not at nothing
    by_cases empty : rows = []
    · rw [none.mpr empty] at states
      simp at states
    · rw [settled.mpr ⟨empty, fun row member => Bool.eq_false_of_not_eq_true (nothing row member)⟩] at states
      simp at states
  · rintro ⟨row, member, isOpen⟩
    cases state : (buildDay day rows today coveredTypes marks).state with
    | none =>
      rw [none.mp state] at member
      cases member
    | settled =>
      have closed := (settled.mp state).2 row member
      rw [isOpen] at closed
      cases closed
    | unpaid => exact .inl rfl
    | partly => exact .inr rfl

end

/-! The days of a month. -/

theorem twoDigits_distinct : ∀ d < 31, ∀ e < 31,
    List.leftpad 2 '0' (Nat.toDigits 10 (d + 1)) = List.leftpad 2 '0' (Nat.toDigits 10 (e + 1)) → d = e := by
  decide

theorem daysInMonth_le (year mon : Nat) : daysInMonth year mon ≤ 31 := by
  unfold daysInMonth
  dsimp only
  split_ifs <;> omega

theorem daysOfMonth_distinct {month : String} {days : List String} (valid : daysOfMonth month = .ok days) : days.Nodup := by
  unfold daysOfMonth at valid
  cases parsed : parseMonth month with
  | none => simp [parsed] at valid
  | some date =>
    obtain ⟨year, mon⟩ := date
    rw [parsed] at valid
    obtain rfl := Except.ok.inj valid
    apply List.Nodup.map_on _ List.nodup_range
    intro d inside e inside' same
    have bound := daysInMonth_le year mon
    rw [List.mem_range] at inside inside'
    apply twoDigits_distinct d (inside.trans_le bound) e (inside'.trans_le bound)
    have chars := congrArg String.toList same
    simp only [String.toList_append, padded, String.toList_ofList] at chars
    exact List.append_cancel_left chars

/-! The rows of a day. -/

theorem mem_rowsOf {rows : List SettleDayRow} {scope : RowScope} {day : String} {row : SettleDayRow} :
    row ∈ rowsOf rows scope day ↔ row ∈ rows ∧ row.rowScope = scope ∧ row.shopDay = day := by
  rw [rowsOf, List.mem_filter, Bool.and_eq_true, decide_eq_true_iff, decide_eq_true_iff]

/-- The rows that count for the days of a month. -/
def monthRows (rows : List SettleDayRow) (days : List String) : List SettleDayRow :=
  rows.filter fun row => row.rowScope = .day && days.contains row.shopDay

theorem mem_openDaysBefore {rows : List SettleDayRow} {today day : String} :
    day ∈ openDaysBefore rows today ↔ day < today ∧ ∃ row ∈ rowsOf rows .day day, isSettleRowOpen row = true := by
  unfold openDaysBefore
  rw [List.mem_insertionSort, List.mem_dedup, List.mem_map]
  simp only [List.mem_filter, Bool.and_eq_true, decide_eq_true_eq, mem_rowsOf]
  constructor
  · rintro ⟨row, ⟨member, ⟨scope, before⟩, isOpen⟩, rfl⟩
    exact ⟨before, row, ⟨member, scope, rfl⟩, isOpen⟩
  · rintro ⟨before, row, ⟨member, scope, rfl⟩, isOpen⟩
    exact ⟨row, ⟨member, ⟨scope, before⟩, isOpen⟩, rfl⟩

/-- Day by day or in one go. -/
theorem sum_rowsOf {days : List String} (distinct : days.Nodup) (rows : List SettleDayRow) (f : SettleDayRow → ℚ) :
    (days.map fun day => ((rowsOf rows .day day).map f).sum).sum = ((monthRows rows days).map f).sum := by
  induction rows with
  | nil => exact List.sum_map_zero
  | cons row rest ih =>
    have head (day : String) : ((rowsOf (row :: rest) .day day).map f).sum =
        (if row.rowScope = .day ∧ row.shopDay = day then f row else 0) + ((rowsOf rest .day day).map f).sum := by
      simp only [rowsOf, List.filter_cons, Bool.and_eq_true, decide_eq_true_eq]
      split_ifs
      · rw [List.map_cons, List.sum_cons]
      · rw [zero_add]
    simp only [head]
    rw [List.sum_map_add, ih]
    simp only [monthRows, List.filter_cons, Bool.and_eq_true, decide_eq_true_eq, List.contains_iff_mem]
    by_cases counts : row.rowScope = .day ∧ row.shopDay ∈ days
    · rw [if_pos counts, List.map_cons, List.sum_cons]
      simp only [counts.1, true_and]
      rw [Lib.Coverage.sum_single distinct counts.2]
    · rw [if_neg counts]
      have none : (days.map fun day => if row.rowScope = .day ∧ row.shopDay = day then f row else 0) = days.map fun _ => 0 := by
        apply List.map_congr_left
        intro day inside
        refine if_neg ?_
        rintro ⟨scope, rfl⟩
        exact counts ⟨scope, inside⟩
      rw [none, List.sum_map_zero, zero_add]

/-! Rows in whole minor units. -/

/-- A row in whole cents and lira that is covered up to what remains. -/
structure Whole (row : SettleDayRow) : Prop where
  amount : ∀ c, ∃ m : ℤ, row.amount c = fromMinor c m
  covered : ∀ c, ∃ m : ℤ, row.covered c = fromMinor c m
  remaining : ∀ c, ∃ m : ℤ, row.remaining c = fromMinor c m
  whole : ∀ c, |row.covered c| + |row.remaining c| = |row.amount c|
  sign : ∀ c, row.remaining c = 0 ∨ 0 < row.remaining c * row.amount c

theorem minorFactor_pos (c : Currency) : 0 < minorFactor c := by
  cases c <;> decide

@[simp] theorem toMinor_fromMinor (c : Currency) (m : ℤ) : toMinor c (fromMinor c m) = m := by
  unfold toMinor fromMinor mathRound
  rw [div_mul_cancel₀ _ (minorFactor_pos c).ne', Int.floor_intCast_add]
  norm_num

theorem fromMinor_sum (c : Currency) {α : Type*} (l : List α) (f : α → ℤ) :
    fromMinor c (l.map f).sum = (l.map fun x => fromMinor c (f x)).sum := by
  induction l with
  | nil => simp [fromMinor]
  | cons x rest ih =>
    rw [List.map_cons, List.map_cons, List.sum_cons, List.sum_cons, ← ih]
    simp [fromMinor, add_div]

variable {row : SettleDayRow} {c : Currency}

theorem Whole.back (whole : Whole row) : fromMinor c (toMinor c (row.remaining c)) = row.remaining c := by
  obtain ⟨m, is⟩ := whole.remaining c
  rw [is, toMinor_fromMinor]

/-- Nothing remains of no amount. -/
theorem Whole.remaining_zero (whole : Whole row) (none : toMinor c (row.amount c) = 0) : row.remaining c = 0 := by
  obtain ⟨m, is⟩ := whole.amount c
  rw [is, toMinor_fromMinor] at none
  have nothing : |row.covered c| + |row.remaining c| = 0 := by
    rw [whole.whole c, is, none]
    simp [fromMinor]
  exact abs_eq_zero.mp (by linarith [abs_nonneg (row.covered c), abs_nonneg (row.remaining c)])

/-! The calendar. -/

def unmarked (d : SettleDay) : SettleDay :=
  { d with accountMarks := [] }

/-- What the calendar of a month says about its rows. -/
structure Agrees (rows : List SettleDayRow) (today : String) (month : List String) (days : List SettleDay) : Prop where
  inOrder : days.map (·.day) = month
  left : ∀ c, (days.map (·.left c)).sum = ((monthRows rows month).map (·.remaining c)).sum
  none : ∀ d ∈ days, d.state = .none ↔ rowsOf rows .day d.day = []
  settled : ∀ d ∈ days, d.state = .settled ↔
    rowsOf rows .day d.day ≠ [] ∧ ∀ row ∈ rowsOf rows .day d.day, isSettleRowOpen row = false
  unsettled : ∀ day, (∃ d ∈ days, d.day = day ∧ (d.state = .unpaid ∨ d.state = .partly) ∧ day < today) ↔
    day ∈ openDaysBefore rows today ∧ day ∈ month
  share : ∀ d ∈ days, ∀ c p, d.paidPct c = some p → 0 ≤ p ∧ p ≤ 1 ∧ (d.state = .settled → p = 1)
  badge : ∀ d ∈ days, ∀ c badge, d.currencyState c = some badge → (badge = .paid ↔ d.left c = 0)
  -- a currency without an amount has neither share nor badge, and nothing left
  noAmount : ∀ d ∈ days, ∀ c, (d.paidPct c = Option.none ↔ ∀ row ∈ rowsOf rows .day d.day, row.amount c = 0) ∧
    (d.currencyState c = Option.none ↔ d.paidPct c = Option.none) ∧ (d.paidPct c = Option.none → d.left c = 0)

section
variable {rows : List SettleDayRow} {opts : BuildSettleDaysOptions} {month : List String}

def dayOf (rows : List SettleDayRow) (opts : BuildSettleDaysOptions) (day : String) : SettleDay :=
  buildDay day (rowsOf rows .day day) opts.today opts.coveredTypes (marksOf (rowsOf rows .account day))

theorem buildSettleDays_eq (valid : daysOfMonth opts.month = .ok month) :
    buildSettleDays rows opts = .ok (month.map (dayOf rows opts)) := by
  rw [buildSettleDays, valid]
  rfl

/-- What is left of a day is what remains of its rows. -/
theorem dayOf_left (whole : ∀ row ∈ rows, Whole row) (day : String) (c : Currency) :
    (dayOf rows opts day).left c = ((rowsOf rows .day day).map (·.remaining c)).sum := by
  change fromMinor c ((dayTotals _ _).left c) = _
  rw [dayTotals_eq]
  refine (fromMinor_sum c _ _).trans (congrArg List.sum (List.map_congr_left fun row member => ?_))
  exact (whole row (mem_rowsOf.mp member).1).back

theorem left_zero_iff {d : SettleDay} {m : ℤ} (is : d.left c = fromMinor c m) : d.left c = 0 ↔ m = 0 := by
  rw [is, fromMinor, div_eq_zero_iff, Int.cast_eq_zero]
  exact or_iff_left (minorFactor_pos c).ne'

theorem positives {rows : List SettleDayRow} (f : SettleDayRow → ℤ) : ∀ m ∈ rows.map fun row => max 0 (f row), 0 ≤ m := by
  intro m member
  obtain ⟨row, -, rfl⟩ := List.mem_map.mp member
  exact le_max_left _ _

theorem totals_nonneg (coveredTypes : Option (List String)) (rows : List SettleDayRow) (c : Currency) :
    0 ≤ (dayTotals coveredTypes rows).owed c ∧ 0 ≤ (dayTotals coveredTypes rows).credit c := by
  rw [dayTotals_eq]
  exact ⟨List.sum_nonneg (positives _), List.sum_nonneg (positives _)⟩

/-- No debt and no credit: no row has an amount. -/
theorem dayOf_noAmount (whole : ∀ row ∈ rows, Whole row) (day : String) :
    (dayOf rows opts day).paidPct c = none ↔ ∀ row ∈ rowsOf rows .day day, row.amount c = 0 := by
  refine currencyState_none.trans ?_
  rw [dayTotals_eq]
  change ((rowsOf rows .day day).map fun row => max 0 (toMinor c (row.amount c))).sum = 0 ∧
    ((rowsOf rows .day day).map fun row => max 0 (-toMinor c (row.amount c))).sum = 0 ↔ _
  constructor
  · rintro ⟨noDebt, noCredit⟩ row member
    have debt := List.all_zero_of_le_zero_le_of_sum_eq_zero (positives _) noDebt (List.mem_map_of_mem member)
    have credit := List.all_zero_of_le_zero_le_of_sum_eq_zero (positives _) noCredit (List.mem_map_of_mem member)
    obtain ⟨m, is⟩ := (whole row (mem_rowsOf.mp member).1).amount c
    rw [is, toMinor_fromMinor] at debt credit
    rw [is, show m = 0 by omega]
    simp [fromMinor]
  · intro none
    have zero : ∀ row ∈ rowsOf rows .day day, toMinor c (row.amount c) = 0 := fun row member => by
      rw [none row member]
      simpa [fromMinor] using toMinor_fromMinor c 0
    constructor
    · exact List.sum_eq_zero fun m member => by
        obtain ⟨row, inside, rfl⟩ := List.mem_map.mp member
        rw [zero row inside, max_self]
    · exact List.sum_eq_zero fun m member => by
        obtain ⟨row, inside, rfl⟩ := List.mem_map.mp member
        rw [zero row inside, neg_zero, max_self]

/-- The calendar of a month agrees with its rows. -/
theorem dayOf_agrees (whole : ∀ row ∈ rows, Whole row) (distinct : month.Nodup) :
    Agrees rows opts.today month (month.map (dayOf rows opts)) where
  inOrder := by
    rw [List.map_map]
    exact List.map_id month
  left c := by
    rw [List.map_map, ← sum_rowsOf distinct]
    exact congrArg List.sum (List.map_congr_left fun day _ => dayOf_left whole day c)
  none d member := by
    obtain ⟨day, -, rfl⟩ := List.mem_map.mp member
    exact buildDay_none ..
  settled d member := by
    obtain ⟨day, -, rfl⟩ := List.mem_map.mp member
    exact buildDay_settled ..
  unsettled day := by
    rw [mem_openDaysBefore]
    constructor
    · rintro ⟨d, member, rfl, state, before⟩
      obtain ⟨day, inside, rfl⟩ := List.mem_map.mp member
      exact ⟨⟨before, (buildDay_open ..).mp state⟩, inside⟩
    · rintro ⟨⟨before, isOpen⟩, inside⟩
      exact ⟨dayOf rows opts day, List.mem_map_of_mem inside, rfl, (buildDay_open ..).mpr isOpen, before⟩
  share d member c p share := by
    obtain ⟨day, -, rfl⟩ := List.mem_map.mp member
    obtain ⟨debts, credits⟩ := totals_nonneg opts.coveredTypes (rowsOf rows .day day) c
    obtain ⟨low, high⟩ := share_range debts credits share
    refine ⟨low, high, fun settled => ?_⟩
    have closed := ((buildDay_settled ..).mp settled).2
    have left : (dayTotals opts.coveredTypes (rowsOf rows .day day)).left c = 0 := by
      rw [dayTotals_eq]
      exact List.sum_eq_zero fun m inside => by
        obtain ⟨row, here, rfl⟩ := List.mem_map.mp inside
        exact remaining_closed (closed row here) c
    change (currencyState _ _ _ ((dayTotals opts.coveredTypes (rowsOf rows .day day)).left c)).1 = some p at share
    rw [left] at share
    exact share_whole debts credits share
  badge d member c badge state := by
    obtain ⟨day, -, rfl⟩ := List.mem_map.mp member
    exact (badge_paid state).trans (left_zero_iff rfl).symm
  noAmount d member c := by
    obtain ⟨day, -, rfl⟩ := List.mem_map.mp member
    refine ⟨dayOf_noAmount whole day, currencyState_same, fun none => ?_⟩
    rw [dayOf_left whole]
    have nothing := (dayOf_noAmount whole day).mp none
    exact List.sum_eq_zero fun x inside => by
      obtain ⟨row, here, rfl⟩ := List.mem_map.mp inside
      have zero : toMinor c (row.amount c) = 0 := by
        rw [nothing row here]
        simpa [fromMinor] using toMinor_fromMinor c 0
      exact (whole row (mem_rowsOf.mp here).1).remaining_zero zero

theorem monthLeft_eq (whole : ∀ row ∈ rows, Whole row) (distinct : month.Nodup) :
    monthLeft (month.map (dayOf rows opts)) c = ((monthRows rows month).map (·.remaining c)).sum := by
  have agrees : Agrees rows opts.today month (month.map (dayOf rows opts)) := dayOf_agrees whole distinct
  rw [← agrees.left c, monthLeft, fromMinor_sum]
  refine congrArg List.sum (List.map_congr_left fun d member => ?_)
  obtain ⟨day, -, rfl⟩ := List.mem_map.mp member
  change fromMinor c (toMinor c (fromMinor c _)) = fromMinor c _
  rw [toMinor_fromMinor]

/-! Account rows and order. -/

def dayRows (rows : List SettleDayRow) : List SettleDayRow :=
  rows.filter fun row => row.rowScope = .day

theorem rowsOf_day (rows : List SettleDayRow) (day : String) :
    rowsOf rows .day day = (dayRows rows).filter fun row => row.shopDay = day := by
  rw [dayRows, List.filter_filter]
  exact List.filter_congr fun row _ => Bool.and_comm _ _

theorem buildDay_perm (day today : String) (coveredTypes : Option (List String)) (marks marks' : List SettleAccountMark)
    {rows rows' : List SettleDayRow} (perm : rows.Perm rows') :
    unmarked (buildDay day rows today coveredTypes marks) = unmarked (buildDay day rows' today coveredTypes marks') := by
  have totals : dayTotals coveredTypes rows = dayTotals coveredTypes rows' := by
    rw [dayTotals_eq, dayTotals_eq, totalsOf_perm coveredTypes perm]
  have state : dayState rows (dayTotals coveredTypes rows) = dayState rows' (dayTotals coveredTypes rows') := by
    rw [totals]
    unfold dayState
    rw [perm.isEmpty_eq]
  unfold unmarked buildDay
  dsimp only
  rw [state, totals]

theorem dayOf_perm {rows' : List SettleDayRow} (perm : (dayRows rows).Perm (dayRows rows')) (day : String) :
    unmarked (dayOf rows opts day) = unmarked (dayOf rows' opts day) := by
  apply buildDay_perm
  rw [rowsOf_day, rowsOf_day]
  exact perm.filter _

/-- The calendar of any month agrees with its rows, and neither the account rows nor the order change more than marks. -/
theorem settle_calendar (whole : ∀ row ∈ rows, Whole row) (valid : daysOfMonth opts.month = .ok month) :
    ∃ days, buildSettleDays rows opts = .ok days ∧ Agrees rows opts.today month days ∧
      (∀ c, monthLeft days c = ((monthRows rows month).map (·.remaining c)).sum) ∧
      ∀ rows', (dayRows rows).Perm (dayRows rows') →
        ∃ days', buildSettleDays rows' opts = .ok days' ∧ days.map unmarked = days'.map unmarked := by
  have distinct := daysOfMonth_distinct valid
  refine ⟨_, buildSettleDays_eq valid, dayOf_agrees whole distinct, fun c => monthLeft_eq whole distinct, ?_⟩
  intro rows' perm
  refine ⟨_, buildSettleDays_eq valid, ?_⟩
  rw [List.map_map, List.map_map]
  exact List.map_congr_left fun day _ => dayOf_perm perm day

end

/-- A $10 send, settled. -/
def paidSend : SettleDayRow where
  shopDay := "2026-10-05"
  kind := "FINANCIAL_SERVICE"
  amount | .usd => 10 | .lbp => 0
  covered | .usd => 10 | .lbp => 0
  remaining _ := 0
  rowScope := .day

def october : BuildSettleDaysOptions where
  today := "2026-10-20"
  month := "2026-10"

/-- A row in whole dollars. -/
def dollarRow (shopDay : String) (rowScope : RowScope) (amount covered remaining : ℤ) : SettleDayRow where
  shopDay := shopDay
  kind := "FINANCIAL_SERVICE"
  amount | .usd => amount | .lbp => 0
  covered | .usd => covered | .lbp => 0
  remaining | .usd => remaining | .lbp => 0
  rowScope := rowScope

theorem dollarRow_whole (shopDay : String) (rowScope : RowScope) {amount covered remaining : ℤ}
    (split : |covered| + |remaining| = |amount|) (sign : remaining = 0 ∨ 0 < remaining * amount) :
    Whole (dollarRow shopDay rowScope amount covered remaining) := by
  have units (m : ℤ) : (m : ℚ) = fromMinor .usd (100 * m) := by
    rw [fromMinor, minorFactor, Int.cast_mul, Int.cast_ofNat, mul_div_cancel_left₀ _ (by norm_num)]
  have none : (0 : ℚ) = fromMinor .lbp 0 := by rw [fromMinor, Int.cast_zero, zero_div]
  refine ⟨?_, ?_, ?_, ?_, ?_⟩
  · rintro (_ | _)
    · exact ⟨_, units amount⟩
    · exact ⟨0, none⟩
  · rintro (_ | _)
    · exact ⟨_, units covered⟩
    · exact ⟨0, none⟩
  · rintro (_ | _)
    · exact ⟨_, units remaining⟩
    · exact ⟨0, none⟩
  · rintro (_ | _)
    · change |(covered : ℚ)| + |(remaining : ℚ)| = |(amount : ℚ)|
      exact_mod_cast split
    · change |(0 : ℚ)| + |(0 : ℚ)| = |(0 : ℚ)|
      rw [abs_zero, add_zero]
  · rintro (_ | _)
    · exact sign.imp (fun paid => by change (remaining : ℚ) = 0; exact_mod_cast paid) fun same => by
        change 0 < (remaining : ℚ) * (amount : ℚ)
        exact_mod_cast same
    · exact .inl rfl

/-- A settled send, a send of $40 of which $15 are paid, a receive of $10 on the same day, and a relief after an undo. -/
def octoberRows : List SettleDayRow :=
  [dollarRow "2026-10-05" .day 10 10 0, dollarRow "2026-10-07" .day 40 15 25, dollarRow "2026-10-07" .day (-10) 0 (-10),
    { dollarRow "2026-10-07" .account (-4) 0 (-4) with reliefOrigin := some .undo, reliefRef := some "R1" }]

theorem octoberRows_whole : ∀ row ∈ octoberRows, Whole row := by
  have relief : Whole (dollarRow "2026-10-07" .account (-4) 0 (-4)) := dollarRow_whole _ _ (by decide) (by decide)
  intro row member
  simp only [octoberRows, List.mem_cons, List.not_mem_nil, or_false] at member
  rcases member with rfl | rfl | rfl | rfl
  · exact dollarRow_whole _ _ (by decide) (by decide)
  · exact dollarRow_whole _ _ (by decide) (by decide)
  · exact dollarRow_whole _ _ (by decide) (by decide)
  · exact ⟨relief.amount, relief.covered, relief.remaining, relief.whole, relief.sign⟩

theorem october_valid : daysOfMonth october.month = .ok ((List.range 31).map fun d => "2026-10" ++ "-" ++ padded (d + 1)) :=
  rfl

theorem settle_calendar_october : ∃ days, buildSettleDays octoberRows october = .ok days ∧
    (days.map fun d => (d.state, d.left .usd)).take 8 =
      [(.none, 0), (.none, 0), (.none, 0), (.none, 0), (.settled, 0), (.none, 0), (.partly, 15), (.none, 0)] ∧
    Agrees octoberRows october.today ((List.range 31).map fun d => "2026-10" ++ "-" ++ padded (d + 1)) days ∧
    (∀ c, monthLeft days c =
      ((monthRows octoberRows ((List.range 31).map fun d => "2026-10" ++ "-" ++ padded (d + 1))).map (·.remaining c)).sum) ∧
    ∀ rows', (dayRows octoberRows).Perm (dayRows rows') →
      ∃ days', buildSettleDays rows' october = .ok days' ∧ days.map unmarked = days'.map unmarked := by
  obtain ⟨days, built, agrees⟩ := settle_calendar octoberRows_whole october_valid
  obtain rfl := Except.ok.inj (built.symm.trans (buildSettleDays_eq october_valid))
  exact ⟨_, built, by decide +kernel, agrees⟩

/-- A settled day in dollars has no share and no badge in lira, though nothing is left in lira. -/
theorem settled_without_badge : ∃ days, buildSettleDays [paidSend] october = .ok days ∧ ∃ d ∈ days,
    d.state = .settled ∧ d.left .lbp = 0 ∧ d.paidPct .lbp = none ∧ d.currencyState .lbp = none := by
  refine ⟨_, buildSettleDays_eq october_valid, _, List.mem_map_of_mem (a := "2026-10-05") ?_, ?_⟩
  · decide +kernel
  · decide +kernel

end Liratek.Settle.SettleCalendar
