import Liratek.Drawer.CheckpointResolution
import Mathlib.Tactic.Linarith
import Mathlib.Tactic.Ring

/-! What booked payment rows do to the books. -/

namespace Liratek.Drawer.Postings
open Lib Lib.Calls CheckpointDifference CheckpointResolution

def bookRows (s : Books) (rows : List Payment) : Books :=
  rows.foldl bookRow s

def sumOf (s : Books) (p : Payment → Bool) : ℚ :=
  s.payments.total fun row => if p row then row.amount else 0

def onDrawer (drawerName currencyCode : String) (row : Payment) : Bool :=
  row.drawerName = drawerName && row.currencyCode = currencyCode

/-- The row moved the drawer. -/
def moves (drawerName currencyCode : String) (row : Payment) : Bool :=
  !isAuditOnlyPaymentMethod row.method && onDrawer drawerName currencyCode row

def listed (p : Payment → Bool) (rows : List Payment) : ℚ :=
  (rows.map fun row => if p row then row.amount else 0).sum

theorem listed_zero {p : Payment → Bool} {rows : List Payment} (none : ∀ row ∈ rows, p row = false) : listed p rows = 0 := by
  unfold listed
  rw [List.map_congr_left fun row member => if_neg (Bool.eq_false_iff.mp (none row member))]
  simp

theorem sumOf_zero {s : Books} {p : Payment → Bool} (none : ∀ i row, s.payments.get i = some row → p row = false) :
    sumOf s p = 0 :=
  Table.total_eq_zero fun i row found => if_neg (Bool.eq_false_iff.mp (none i row found))

section
variable (s : Books) (row : Payment) (rows : List Payment)

theorem bookRow_eq : bookRow s row = { s with balance := (bookRow s row).balance, payments := s.payments.insert row } := by
  unfold bookRow
  split_ifs <;> rfl

theorem bookRows_eq :
    bookRows s rows = { s with balance := (bookRows s rows).balance, payments := (bookRows s rows).payments } := by
  induction rows generalizing s with
  | nil => rfl
  | cons row rest ih =>
    have one : bookRow s row = insertPaymentRow s row ∨ bookRow s row = movePayment s row := by
      unfold bookRow
      split_ifs
      · exact Or.inl rfl
      · exact Or.inr rfl
    change bookRows (bookRow s row) rest =
      { s with balance := (bookRows (bookRow s row) rest).balance, payments := (bookRows (bookRow s row) rest).payments }
    rcases one with same | same
    · rw [same]
      exact ih (insertPaymentRow s row)
    · rw [same]
      exact ih (movePayment s row)

@[simp] theorem bookRows_transactions : (bookRows s rows).transactions = s.transactions := by
  rw [bookRows_eq]

@[simp] theorem bookRows_closings : (bookRows s rows).closings = s.closings := by
  rw [bookRows_eq]

@[simp] theorem bookRows_differences : (bookRows s rows).differences = s.differences := by
  rw [bookRows_eq]

@[simp] theorem bookRows_resolutions : (bookRows s rows).resolutions = s.resolutions := by
  rw [bookRows_eq]

@[simp] theorem bookRows_expenses : (bookRows s rows).expenses = s.expenses := by
  rw [bookRows_eq]

@[simp] theorem bookRows_pickups : (bookRows s rows).pickups = s.pickups := by
  rw [bookRows_eq]

theorem bookRows_setPickups (pickups : Table HoldMoneyPickup) :
    { bookRows s rows with pickups := pickups } = bookRows { s with pickups := pickups } rows := by
  induction rows generalizing s with
  | nil => rfl
  | cons row rest ih =>
    have one : bookRow { s with pickups := pickups } row = { bookRow s row with pickups := pickups } := by
      unfold bookRow
      split_ifs <;> rfl
    change { bookRows (bookRow s row) rest with pickups := pickups } = bookRows (bookRow { s with pickups := pickups } row) rest
    rw [one]
    exact ih (bookRow s row)

theorem sumOf_bookRows (p : Payment → Bool) : sumOf (bookRows s rows) p = sumOf s p + listed p rows := by
  induction rows generalizing s with
  | nil => exact (add_zero _).symm
  | cons row rest ih =>
    change sumOf (bookRows (bookRow s row) rest) p = _
    have one : sumOf (bookRow s row) p = sumOf s p + if p row then row.amount else 0 := by
      rw [bookRow_eq]
      exact Table.total_insert _ _ _
    rw [ih, one, add_assoc]
    rfl

theorem balance_bookRows (drawerName currencyCode : String) : (bookRows s rows).balance drawerName currencyCode =
    s.balance drawerName currencyCode + listed (moves drawerName currencyCode) rows := by
  induction rows generalizing s with
  | nil => exact (add_zero _).symm
  | cons row rest ih =>
    have one : (bookRow s row).balance drawerName currencyCode =
        s.balance drawerName currencyCode + if moves drawerName currencyCode row then row.amount else 0 := by
      unfold bookRow moves onDrawer
      split_ifs with auditOnly moving moving
      · rw [auditOnly] at moving
        cases moving
      · exact (add_zero _).symm
      · simp only [Bool.and_eq_true, decide_eq_true_eq] at moving
        exact if_pos ⟨moving.2.1.symm, moving.2.2.symm⟩
      · rw [add_zero]
        apply if_neg
        rintro ⟨rfl, rfl⟩
        simp [auditOnly] at moving
    change (bookRows (bookRow s row) rest).balance drawerName currencyCode = _
    rw [ih, one, add_assoc]
    rfl

variable {s row rows}

theorem get_bookRows {i : Nat} {row : Payment} (found : (bookRows s rows).payments.get i = some row) :
    s.payments.get i = some row ∨ row ∈ rows := by
  induction rows generalizing s with
  | nil => exact Or.inl found
  | cons first rest ih =>
    rcases ih found with old | later
    · rw [bookRow_eq] at old
      rcases Table.get_insert old with older | ⟨-, rfl⟩
      · exact Or.inl older
      · exact Or.inr List.mem_cons_self
    · exact Or.inr (List.mem_cons_of_mem _ later)

theorem posting_again {drawerName currencyCode posted : String} (ok : postingCurrency drawerName currencyCode = .ok posted) :
    postingCurrency drawerName posted = .ok posted := by
  unfold postingCurrency at ok ⊢
  split_ifs at ok with elsewhere dollars
  · rw [if_pos elsewhere]
  · cases ok
    rw [if_neg elsewhere]
    rfl
  · cases ok
    rw [if_neg elsewhere, if_neg dollars, if_neg ‹_›]

/-- A row the books hold: its currency is the one its drawer is kept in. -/
structure GoodRow (row : Payment) : Prop where
  posting : postingCurrency row.drawerName row.currencyCode = .ok row.currencyCode
  onDrawer : row.method ≠ "CUSTOMER_ACCOUNT"

/-- The currency a leg is booked in. -/
def bookedCurrency (leg : Leg) : String :=
  (postingCurrency leg.drawerName leg.currencyCode).toOption.getD leg.currencyCode

/-- The rows a flow's legs are booked as. -/
def legRows (transactionId : Nat) (legs : List Leg) : List Payment :=
  legs.map fun leg => legRow transactionId leg (bookedCurrency leg)

theorem postLegs_rows {legs : List Leg} {transactionId : Nat} {s' : Books}
    (done : each (postLeg transactionId) s legs = .ok s') :
    s' = bookRows s (legRows transactionId legs) ∧ ∀ row ∈ legRows transactionId legs, GoodRow row := by
  induction legs generalizing s with
  | nil =>
    cases done
    exact ⟨rfl, fun row member => absurd member List.not_mem_nil⟩
  | cons leg rest ih =>
    obtain ⟨next, first, others⟩ := each_cons done
    obtain ⟨currencyCode, ok, rfl⟩ := map_ok first
    have booked : bookedCurrency leg = currencyCode := by
      rw [bookedCurrency, ok]
      rfl
    obtain ⟨same, good⟩ := ih others
    constructor
    · rw [same, ← booked]
      rfl
    · have goodFirst : GoodRow (legRow transactionId leg (bookedCurrency leg)) := by
        refine ⟨?_, leg.onDrawer⟩
        rw [booked]
        exact posting_again ok
      exact List.forall_mem_cons.mpr ⟨goodFirst, good⟩

/-- The mirror of a row. -/
def mirrored (reversalId : Nat) (row : Payment) : Payment :=
  mirrorRow reversalId row row.currencyCode

theorem reversePayments_rows {entries : List (Nat × Payment)} {reversalId : Nat} {s' : Books}
    (good : ∀ entry ∈ entries, GoodRow entry.2) (done : each (reversePayment reversalId) s entries = .ok s') :
    s' = bookRows s (entries.map fun entry => mirrored reversalId entry.2) := by
  induction entries generalizing s with
  | nil =>
    cases done
    rfl
  | cons entry rest ih =>
    obtain ⟨next, first, others⟩ := each_cons done
    obtain ⟨goodFirst, goodRest⟩ := List.forall_mem_cons.mp good
    obtain ⟨currencyCode, ok, rfl⟩ := map_ok first
    have same : currencyCode = entry.2.currencyCode := by
      unfold mirrorCurrency at ok
      split_ifs at ok
      · cases ok
        rfl
      · rw [goodFirst.posting] at ok
        cases ok
        rfl
    rw [same] at others
    exact ih goodRest others

theorem reversePickup_rows {entries : List (Nat × Payment)} {reversalId : Nat} {s' : Books}
    (good : ∀ entry ∈ entries, GoodRow entry.2 ∧ isAuditOnlyPaymentMethod entry.2.method = false)
    (done : each (reversePickupLeg reversalId) s entries = .ok s') :
    s' = bookRows s (entries.map fun entry => mirrored reversalId entry.2) := by
  induction entries generalizing s with
  | nil =>
    cases done
    rfl
  | cons entry rest ih =>
    obtain ⟨next, first, others⟩ := each_cons done
    obtain ⟨⟨goodFirst, counted⟩, goodRest⟩ := List.forall_mem_cons.mp good
    obtain ⟨currencyCode, ok, rfl⟩ := map_ok first
    rw [goodFirst.posting] at ok
    cases ok
    have moved : bookRow s (mirrored reversalId entry.2) = movePayment s (mirrored reversalId entry.2) := by
      unfold bookRow
      rw [if_neg]
      exact Bool.eq_false_iff.mp counted
    rw [List.map_cons]
    change s' = bookRows (bookRow s (mirrored reversalId entry.2)) _
    rw [moved]
    exact ih goodRest others

end

end Liratek.Drawer.Postings
