import Liratek.Drawer.Postings
import Liratek.Drawer.ShortageExpense

/-! What a drawer holds beside the unexplained parts of its checkpoint differences. -/

namespace Liratek.Drawer.Standing
open Lib CheckpointDifference CheckpointResolution Postings

/-- The part of a difference that no transaction explains, signed like the difference. -/
def unresolved (s : Books) (id : Nat) (d : Difference) : ℚ :=
  signOf d.amount * (|d.amount| - resolvedOf s id)

def standing (s : Books) (drawerName currencyCode : String) : ℚ :=
  s.balance drawerName currencyCode -
    ((s.differences.select (isOn drawerName currencyCode)).map fun entry => unresolved s entry.1 entry.2).sum

/-- A transaction's own net drawer movement. -/
def movement (s : Books) (transactionId : Nat) (drawerName currencyCode : String) : ℚ :=
  sumOf s fun row => isMovement [transactionId] row && onDrawer drawerName currencyCode row

def isOffset (transactionId : Nat) (row : Payment) : Bool :=
  isLegOf transactionId row && row.method == checkpointResolutionMethod

/-- The offset legs of a transaction. -/
def offsetOf (s : Books) (transactionId : Nat) (drawerName currencyCode : String) : ℚ :=
  sumOf s fun row => isOffset transactionId row && onDrawer drawerName currencyCode row

def standsOn (s : Books) (drawerName currencyCode : String) (differenceId : Nat) : Bool :=
  (s.differences.get differenceId).any (isOn drawerName currencyCode)

/-- What a transaction resolved on a drawer, counted or not. -/
def resolvedBy (s : Books) (transactionId : Nat) (drawerName currencyCode : String) : ℚ :=
  s.resolutions.total fun r =>
    if r.transactionId = transactionId && standsOn s drawerName currencyCode r.differenceId then r.amount else 0

def counted (s : Books) (drawerName currencyCode : String) (r : Resolution) : Bool :=
  stillCounts s r.transactionId && standsOn s drawerName currencyCode r.differenceId

/-- What the resolutions that count explain on a drawer. -/
def explained (s : Books) (drawerName currencyCode : String) : ℚ :=
  s.resolutions.total fun r => if counted s drawerName currencyCode r then r.amount else 0

def corrected (s : Books) (drawerName currencyCode : String) : ℚ :=
  s.differences.total fun d => if isOn drawerName currencyCode d then d.amount else 0

/-- The resolution is of a recorded difference, has its sign and is above the tolerance. -/
structure Explains (s : Books) (r : Resolution) (d : Difference) : Prop where
  found : s.differences.get r.differenceId = some d
  signed : signOf d.amount * |r.amount| = r.amount
  above : checkpointDifferenceEpsilon d.currencyCode < |r.amount|

theorem signOf_mul_abs (x : ℚ) : signOf x * |x| = x := by
  unfold signOf
  split_ifs with positive
  · rw [one_mul, abs_of_pos positive]
  · rw [abs_of_nonpos (not_lt.mp positive), neg_mul_neg, one_mul]

theorem signOf_of_direction {x y : ℚ} (same : directionOf x = directionOf y) : signOf x = signOf y := by
  unfold directionOf at same
  unfold signOf
  split_ifs at same ⊢
  · rfl
  · rfl

theorem abs_signOf_mul (x : ℚ) {y : ℚ} (nonneg : 0 ≤ y) : |signOf x * y| = y := by
  unfold signOf
  split_ifs
  · rw [one_mul, abs_of_nonneg nonneg]
  · rw [neg_mul, one_mul, abs_neg, abs_of_nonneg nonneg]

theorem resolvedOf_nonneg (s : Books) (id : Nat) : 0 ≤ resolvedOf s id := by
  apply Table.total_nonneg
  intro i r _
  split_ifs
  · exact abs_nonneg _
  · exact le_rfl

section
variable {s : Books}

/-- The counted resolutions of the differences on a drawer, taken together. -/
theorem sum_resolved (explains : ∀ i r, s.resolutions.get i = some r → ∃ d, Explains s r d) (drawerName currencyCode : String) :
    ((s.differences.select (isOn drawerName currencyCode)).map fun entry =>
      signOf entry.2.amount * resolvedOf s entry.1).sum = explained s drawerName currencyCode := by
  let key : Resolution → Option Nat := fun r => if counted s drawerName currencyCode r then some r.differenceId else none
  have keyed : ∀ r id, key r = some id ↔ counted s drawerName currencyCode r = true ∧ r.differenceId = id := by
    intro r id
    simp only [key]
    split_ifs with this <;> simp [this]
  have fibers := Table.total_fibers s.differences s.resolutions (isOn drawerName currencyCode) key (·.amount) (by
    intro i r id _ owned
    obtain ⟨counts, rfl⟩ := (keyed r id).mp owned
    rw [counted, Bool.and_eq_true] at counts
    exact Option.any_eq_true _ _ |>.mp counts.2)
  have whole : explained s drawerName currencyCode = s.resolutions.total fun r => if (key r).isSome then r.amount else 0 := by
    apply Table.total_congr
    intro i r _
    simp only [key]
    by_cases counts : counted s drawerName currencyCode r = true <;> simp [counts]
  rw [whole, ← fibers, Table.select, ← Table.sum_filter_ite]
  congr 1
  apply List.map_congr_left
  intro entry member
  have found := Table.mem_rows.mp member
  split_ifs with on
  · rw [resolvedOf, Table.mul_total]
    apply Table.total_congr
    intro i r stands
    obtain ⟨d, own, signed, -⟩ := explains i r stands
    by_cases this : r.differenceId = entry.1
    · rw [this, found] at own
      cases own
      have onIt : standsOn s drawerName currencyCode r.differenceId = true := by
        rw [standsOn, this, found]
        exact on
      by_cases counts : stillCounts s r.transactionId = true
      · have chosen : key r = some entry.1 := (keyed r entry.1).mpr ⟨by rw [counted, counts, onIt]; rfl, this⟩
        rw [if_pos chosen, if_pos (by simp [this, counts]), signed]
      · have left : key r ≠ some entry.1 := fun chosen =>
          counts ((Bool.and_eq_true _ _).mp ((keyed r entry.1).mp chosen).1).1
        rw [if_neg left, if_neg (by simp [counts]), mul_zero]
    · have left : key r ≠ some entry.1 := fun chosen => this ((keyed r entry.1).mp chosen).2
      rw [if_neg left, if_neg (by simp [this]), mul_zero]
  · rfl

theorem standing_eq (explains : ∀ i r, s.resolutions.get i = some r → ∃ d, Explains s r d) (drawerName currencyCode : String) :
    standing s drawerName currencyCode =
      s.balance drawerName currencyCode - corrected s drawerName currencyCode + explained s drawerName currencyCode := by
  have parts : ((s.differences.select (isOn drawerName currencyCode)).map fun entry => unresolved s entry.1 entry.2) =
      (s.differences.select (isOn drawerName currencyCode)).map fun entry =>
        entry.2.amount - signOf entry.2.amount * resolvedOf s entry.1 := by
    apply List.map_congr_left
    intro entry _
    rw [unresolved, mul_sub, signOf_mul_abs]
  have apart := Multiset.sum_map_sub (m := (s.differences.select (isOn drawerName currencyCode) : Multiset (Nat × Difference)))
    (f := fun entry => entry.2.amount) (g := fun entry => signOf entry.2.amount * resolvedOf s entry.1)
  simp only [Multiset.map_coe, Multiset.sum_coe] at apart
  have amounts : ((s.differences.select (isOn drawerName currencyCode)).map fun entry => entry.2.amount).sum =
      corrected s drawerName currencyCode :=
    Table.sum_select _ _ Difference.amount
  rw [standing, parts, apart, sum_resolved explains, amounts]
  ring

end

theorem Explains.of_differences {s s' : Books} {r : Resolution} {d : Difference} (explains : Explains s r d)
    (same : s'.differences = s.differences) : Explains s' r d :=
  ⟨by rw [same, explains.found], explains.signed, explains.above⟩

theorem resolvedBy_congr {s s' : Books} (resolutions : s'.resolutions = s.resolutions)
    (differences : s'.differences = s.differences) (id : Nat) (drawerName currencyCode : String) :
    resolvedBy s' id drawerName currencyCode = resolvedBy s id drawerName currencyCode := by
  unfold resolvedBy standsOn
  rw [resolutions, differences]

/-! What every call keeps. -/

/-- A collected pickup's transaction. -/
structure Collected (s : Books) (transactionId : Nat) : Prop where
  saved : ∃ t, s.transactions.get transactionId = some t ∧ t.kind = .holdMoneyCollect ∧ t.status = .active ∧ t.reversesId = none
  counted : ∀ i row, s.payments.get i = some row → row.transactionId = transactionId →
    isAuditOnlyPaymentMethod row.method = false

structure Sound (s : Books) : Prop where
  rows : ∀ i row, s.payments.get i = some row → GoodRow row ∧ row.transactionId < s.transactions.nextId
  recorded : ∀ i d, s.differences.get i = some d → checkpointDifferenceEpsilon d.currencyCode < |d.amount|
  resolutions : ∀ i r, s.resolutions.get i = some r → r.transactionId < s.transactions.nextId ∧ ∃ d, Explains s r d
  within : ∀ i d, s.differences.get i = some d → resolvedOf s i ≤ |d.amount|
  expenses : ∀ i e, s.expenses.get i = some e → e.differenceId < s.differences.nextId
  offset : ∀ id t, s.transactions.get id = some t → t.reversesId = none → ∀ drawerName currencyCode,
    offsetOf s id drawerName currencyCode + resolvedBy s id drawerName currencyCode = 0
  sources : ∀ id t source, s.transactions.get id = some t → t.sourceRef = some source → source < id ∧ t.kind = .flow
  pickups : ∀ i p, s.pickups.get i = some p → Collected s p.transactionId
  apart : ∀ i j p q, s.pickups.get i = some p → s.pickups.get j = some q → p.transactionId = q.transactionId → i = j
  pickupVoids : ∀ id t, s.transactions.get id = some t → t.kind = .holdMoneyCollectVoid →
    ∃ i p, s.pickups.get i = some p ∧ p.isVoided = true ∧ t.reversesId = some p.transactionId

section
variable {s : Books} (sound : Sound s) (drawerName currencyCode : String)
include sound

theorem Sound.standing_eq : standing s drawerName currencyCode =
    s.balance drawerName currencyCode - corrected s drawerName currencyCode + explained s drawerName currencyCode :=
  Standing.standing_eq (fun i r stands => (sound.resolutions i r stands).2) drawerName currencyCode

/-- Every leg of a transaction that moves a drawer is its own or an offset. -/
theorem Sound.moved (id : Nat) : sumOf s (fun row => isLegOf id row && moves drawerName currencyCode row) =
    movement s id drawerName currencyCode + offsetOf s id drawerName currencyCode := by
  rw [movement, offsetOf, sumOf, sumOf, sumOf, ← Table.total_add]
  apply Table.total_congr
  intro i row found
  have onDrawer := (sound.rows i row found).1.onDrawer
  by_cases own : row.transactionId = id
  · by_cases offset : row.method = checkpointResolutionMethod
    · simp [isLegOf, isMovement, isOffset, moves, own, offset, isAuditOnlyPaymentMethod, checkpointResolutionMethod]
    · simp [isLegOf, isMovement, isOffset, moves, drawerAffecting, own, offset, onDrawer]
  · simp [isLegOf, isMovement, isOffset, own]

theorem Sound.offsetOf_new {id : Nat} (new : s.transactions.nextId ≤ id) : offsetOf s id drawerName currencyCode = 0 := by
  apply sumOf_zero
  intro i row found
  have old := (sound.rows i row found).2
  simp [isOffset, isLegOf, (old.trans_le new).ne]

theorem Sound.resolvedBy_new {id : Nat} (new : s.transactions.nextId ≤ id) : resolvedBy s id drawerName currencyCode = 0 := by
  apply Table.total_eq_zero
  intro i r found
  have old := (sound.resolutions i r found).1
  rw [if_neg]
  simp [(old.trans_le new).ne]

end

end Liratek.Drawer.Standing
