import Liratek.Money.AccountSettle

/-! What one pass of the account settlement does to the rows: it covers one side of one pool, oldest first. -/

namespace Liratek.Money.AccountSettle
open FifoCoverage Lib.Coverage

/-- Half a minor unit: `eps` of the currency. -/
def StandardEps (input : AllocInput) : Prop :=
  input.eps = match input.currency with
    | .usd => 5 / 1000
    | .lbp => 1 / 2

instance (input : AllocInput) : Decidable (StandardEps input) :=
  inferInstanceAs (Decidable (_ = _))

variable {input : AllocInput}

theorem epsMinor_standard (standard : StandardEps input) : epsMinor input = 1 / 2 := by
  unfold StandardEps at standard
  unfold epsMinor minorFactor
  rw [standard]
  cases input.currency <;> norm_num

theorem half_lt_iff {m : ℤ} : (1 / 2 : ℚ) < m ↔ 0 < m := by
  constructor
  · intro big
    have positive : (0 : ℚ) < m := lt_trans (by norm_num) big
    exact_mod_cast positive
  · intro positive
    have whole : (1 : ℚ) ≤ m := by exact_mod_cast positive
    linarith

theorem within_iff {m : ℤ} : within m = true ↔ m ≤ 0 := by
  unfold within
  rw [decide_eq_true_iff, ← not_lt, half_lt_iff, not_lt]

theorem within_min (x y : ℤ) (low : within y = true) : within (min x y) = true :=
  within_iff.mpr ((min_le_right x y).trans (within_iff.mp low))

theorem isZero_iff (standard : StandardEps input) {m : ℤ} : isZero input m = true ↔ m = 0 := by
  unfold isZero
  rw [epsMinor_standard standard, decide_eq_true_iff, ← not_lt, ← Int.cast_abs, half_lt_iff, abs_pos, not_not]

/-! Every row is covered on its own side, up to its amount. -/

variable (input) in
def cap (i : Nat) : ℤ :=
  |orig input i|

variable (input) in
def side (i : Nat) : ℤ :=
  if 0 < orig input i then 1 else -1

def IsSide (s : ℤ) : Prop :=
  s = 1 ∨ s = -1

theorem isSide_one : IsSide 1 := Or.inl rfl

theorem isSide_neg : IsSide (-1) := Or.inr rfl

theorem isSide_side (i : Nat) : IsSide (side input i) := by
  unfold side
  split_ifs
  · exact isSide_one
  · exact isSide_neg

theorem IsSide.mul_self {s : ℤ} (isSide : IsSide s) : s * s = 1 := by
  rcases isSide with rfl | rfl <;> rfl

theorem side_mul_cap (i : Nat) : side input i * cap input i = orig input i := by
  unfold side cap
  split_ifs with positive
  · rw [one_mul, abs_of_pos positive]
  · rw [abs_of_nonpos (not_lt.mp positive), neg_mul_neg, one_mul]

def place (t : Take) : Nat × ℤ :=
  (t.i, t.m)

def placed (takes : List Take) (i : Nat) : ℤ :=
  amountAt (takes.map place) i

theorem placed_append (xs ys : List Take) (i : Nat) : placed (xs ++ ys) i = placed xs i + placed ys i := by
  unfold placed
  rw [List.map_append, amountAt_append]

theorem placed_single (t : Take) (i : Nat) : placed [t] i = if t.i = i then t.m else 0 := by
  unfold placed
  rw [List.map_singleton, amountAt_cons, amountAt_nil, add_zero]
  rfl

/-- What a ledger keeps to. -/
structure Sane (input : AllocInput) (l : Ledger) : Prop where
  rem : ∀ i, l.rem i = side input i * (cap input i - l.taken i)
  nonneg : ∀ i, 0 ≤ l.taken i
  bounded : ∀ i, l.taken i ≤ cap input i
  positive : ∀ t ∈ l.takes, 0 < t.m
  amounts : ∀ i, placed l.takes i = l.taken i

theorem sane_opening : Sane input (opening input) where
  rem i := by
    change orig input i = side input i * (cap input i - 0)
    rw [sub_zero, side_mul_cap]
  nonneg _ := le_rfl
  bounded i := abs_nonneg _
  positive _ member := absurd member List.not_mem_nil
  amounts _ := rfl

theorem Sane.abs_rem {l : Ledger} (sane : Sane input l) (i : Nat) : |l.rem i| = cap input i - l.taken i := by
  have room : 0 ≤ cap input i - l.taken i := sub_nonneg.mpr (sane.bounded i)
  rw [sane.rem, abs_mul, abs_of_nonneg room]
  rcases @isSide_side input i with same | same
  · rw [same, abs_one, one_mul]
  · rw [same, abs_neg, abs_one, one_mul]

/-- What is open on a side is what its rows still hold. -/
theorem Sane.open_of_side {l : Ledger} (sane : Sane input l) {i : Nat} {s : ℤ} (same : side input i = s) :
    max 0 (s * l.rem i) = cap input i - l.taken i := by
  have isSide : IsSide s := same ▸ isSide_side i
  have room : 0 ≤ cap input i - l.taken i := sub_nonneg.mpr (sane.bounded i)
  rw [sane.rem, same, ← mul_assoc, isSide.mul_self, one_mul, max_eq_right room]

theorem Sane.side_of_open {l : Ledger} (sane : Sane input l) {i : Nat} {s : ℤ} (isSide : IsSide s)
    (isOpen : 0 < s * l.rem i) : side input i = s := by
  have room : 0 ≤ cap input i - l.taken i := sub_nonneg.mpr (sane.bounded i)
  rw [sane.rem] at isOpen
  rcases isSide with rfl | rfl <;> rcases @isSide_side input i with same | same <;> rw [same] at isOpen ⊢ <;>
    omega

theorem Sane.open_le {l : Ledger} (sane : Sane input l) (i : Nat) {s : ℤ} (isSide : IsSide s) :
    max 0 (s * l.rem i) ≤ cap input i - l.taken i := by
  rcases le_or_gt (s * l.rem i) 0 with closed | isOpen
  · rw [max_eq_left closed]
    exact sub_nonneg.mpr (sane.bounded i)
  · exact (sane.open_of_side (sane.side_of_open isSide isOpen)).le

/-- `l'` is `l` with `added` recorded. -/
structure Adds (input : AllocInput) (l l' : Ledger) (added : List Take) : Prop where
  takes : l'.takes = l.takes ++ added
  taken : ∀ i, l'.taken i = l.taken i + placed added i
  rem : ∀ i, l'.rem i = l.rem i - side input i * placed added i
  positive : ∀ t ∈ added, 0 < t.m

theorem Adds.refl (l : Ledger) : Adds input l l [] where
  takes := (List.append_nil _).symm
  taken i := (add_zero _).symm
  rem i := by
    change l.rem i = l.rem i - side input i * 0
    rw [mul_zero, sub_zero]
  positive _ member := absurd member List.not_mem_nil

theorem Adds.trans {a b c : Ledger} {xs ys : List Take} (first : Adds input a b xs) (second : Adds input b c ys) :
    Adds input a c (xs ++ ys) where
  takes := by rw [second.takes, first.takes, List.append_assoc]
  taken i := by rw [second.taken, first.taken, placed_append, add_assoc]
  rem i := by rw [second.rem, first.rem, placed_append, mul_add, sub_sub]
  positive t member := (List.mem_append.mp member).elim (first.positive t) (second.positive t)

/-- Netting pairs are no concern of the rows. -/
theorem Adds.of_pairs {l l' : Ledger} {added : List Take} {debits credits : List (FifoTake Nat ℤ)}
    (adds : Adds input (withPairs input l debits credits) l' added) : Adds input l l' added :=
  ⟨adds.takes, adds.taken, adds.rem, adds.positive⟩

def piece (i : Nat) (source : CoverageSource) (m : ℤ) : List Take :=
  if m ≤ 0 then [] else [{ i := i, source := source, m := m }]

theorem record_adds (l : Ledger) (i : Nat) (source : CoverageSource) (m : ℤ) :
    Adds input l (record input l i source m) (piece i source m) := by
  have signed : (if 0 < orig input i then -m else m) = -(side input i * m) := by
    unfold side
    split_ifs
    · rw [one_mul]
    · rw [neg_one_mul, neg_neg]
  unfold record piece
  rcases le_or_gt m 0 with low | high
  · rw [if_pos low, if_pos low]
    exact Adds.refl l
  · rw [if_neg (not_le.mpr high), if_neg (not_le.mpr high), signed]
    refine ⟨rfl, fun j => ?_, fun j => ?_, fun t member => ?_⟩
    · rw [placed_single]
      by_cases here : i = j
      · rw [← here, if_pos rfl]
        exact Function.update_self ..
      · rw [if_neg here, add_zero]
        exact Function.update_of_ne (Ne.symm here) ..
    · rw [placed_single]
      by_cases here : i = j
      · rw [← here, if_pos rfl, sub_eq_add_neg]
        exact Function.update_self ..
      · rw [if_neg here, mul_zero, sub_zero]
        exact Function.update_of_ne (Ne.symm here) ..
    · rw [List.mem_singleton.mp member]
      exact high

def sourced (source : CoverageSource) (t : FifoTake Nat ℤ) : Take :=
  { i := t.id, source := source, m := t.take }

theorem recordAll_adds {takes : List (FifoTake Nat ℤ)} (positive : ∀ t ∈ takes, 0 < t.take) (l : Ledger)
    (source : CoverageSource) : Adds input l (recordAll input l source takes) (takes.map (sourced source)) := by
  induction takes generalizing l with
  | nil => exact Adds.refl l
  | cons t rest ih =>
    have first := @record_adds input l t.id source t.take
    rw [piece, if_neg (not_le.mpr (positive t List.mem_cons_self))] at first
    exact first.trans (ih (fun t' member => positive t' (List.mem_cons_of_mem t member)) _)

theorem placed_sourced (source : CoverageSource) (takes : List (FifoTake Nat ℤ)) (i : Nat) :
    placed (takes.map (sourced source)) i = takeOf takes i := by
  unfold placed takeOf
  rw [List.map_map]
  rfl

/-- A pass over a pool: `takes` cover one side of it, and `added` records them in order. -/
structure Round (input : AllocInput) (l l' : Ledger) (pool : List Nat) (s budget : ℤ)
    (takes : List (FifoTake Nat ℤ)) (added : List Take) : Prop where
  isSide : IsSide s
  covers : Covers pool (fun i => s * l.rem i) budget takes
  adds : Adds input l l' added
  amounts : ∀ i, placed added i = takeOf takes i
  sorted : (added.map place).Pairwise fun a b => a.1 ≤ b.1

section
variable {l l' : Ledger} {pool : List Nat} {s budget : ℤ} {takes : List (FifoTake Nat ℤ)} {added : List Take}

theorem Round.none (l : Ledger) (pool : List Nat) {s : ℤ} (isSide : IsSide s) :
    Round input l l pool s 0 [] [] where
  isSide := isSide
  covers := covers_nil (min_eq_left (openTotal_nonneg _ _))
  adds := Adds.refl l
  amounts _ := rfl
  sorted := List.Pairwise.nil

theorem Round.outside (round : Round input l l' pool s budget takes added) {i : Nat} (elsewhere : i ∉ pool) :
    takeOf takes i = 0 :=
  takeOf_eq_zero fun member => elsewhere (round.covers.ids.subset member)

theorem Round.taken (round : Round input l l' pool s budget takes added) (i : Nat) :
    l'.taken i = l.taken i + takeOf takes i := by
  rw [round.adds.taken, round.amounts]

theorem Round.rem (round : Round input l l' pool s budget takes added) (i : Nat) :
    l'.rem i = l.rem i - side input i * takeOf takes i := by
  rw [round.adds.rem, round.amounts]

/-- Only open rows of the side are covered. -/
theorem Round.open_of_covered (round : Round input l l' pool s budget takes added) {i : Nat}
    (covered : takeOf takes i ≠ 0) : i ∈ pool ∧ 0 < s * l.rem i := by
  have inside : i ∈ pool := by
    by_contra elsewhere
    exact covered (round.outside elsewhere)
  have positive : 0 < takeOf takes i := lt_of_le_of_ne (round.covers.takeOf_nonneg i) covered.symm
  have isOpen : 0 < max 0 (s * l.rem i) := positive.trans_le (round.covers.bounded i inside)
  exact ⟨inside, (lt_max_iff.mp isOpen).resolve_left (lt_irrefl 0)⟩

theorem Round.side_of_covered (sane : Sane input l) (round : Round input l l' pool s budget takes added) {i : Nat}
    (covered : takeOf takes i ≠ 0) : side input i = s :=
  sane.side_of_open round.isSide (round.open_of_covered covered).2

theorem Round.amount_le (sane : Sane input l) (round : Round input l l' pool s budget takes added) (i : Nat) :
    takeOf takes i ≤ cap input i - l.taken i := by
  by_cases inside : i ∈ pool
  · exact (round.covers.bounded i inside).trans (sane.open_le i round.isSide)
  · rw [round.outside inside]
    exact sub_nonneg.mpr (sane.bounded i)

theorem Round.sane (sane : Sane input l) (round : Round input l l' pool s budget takes added) : Sane input l' where
  rem i := by
    rw [round.rem, round.taken, sane.rem]
    ring
  nonneg i := by
    rw [round.taken]
    exact add_nonneg (sane.nonneg i) (round.covers.takeOf_nonneg i)
  bounded i := by
    rw [round.taken]
    have room := round.amount_le sane i
    omega
  positive t member := by
    rw [round.adds.takes] at member
    exact (List.mem_append.mp member).elim (sane.positive t) (round.adds.positive t)
  amounts i := by
    rw [round.adds.takes, placed_append, sane.amounts, round.adds.taken]

/-- What is open on a side never grows. -/
theorem Round.open_anti (sane : Sane input l) (round : Round input l l' pool s budget takes added) {s' : ℤ}
    (isSide : IsSide s') (i : Nat) (closed : s' * l.rem i ≤ 0) : s' * l'.rem i ≤ 0 := by
  by_contra again
  have isOpen := not_le.mp again
  have after := round.sane sane
  have here := after.open_of_side (after.side_of_open isSide isOpen)
  rw [max_eq_right isOpen.le] at here
  have before := sane.open_of_side (after.side_of_open isSide isOpen)
  rw [max_eq_left closed] at before
  have more := round.taken i
  have grows := round.covers.takeOf_nonneg i
  omega

/-- A row of the other side is left as it is. -/
theorem Round.rem_of_other (sane : Sane input l) (round : Round input l l' pool s budget takes added) {i : Nat}
    (other : side input i ≠ s) : l'.rem i = l.rem i := by
  have none : takeOf takes i = 0 := by
    by_contra covered
    exact other (round.side_of_covered sane covered)
  rw [round.rem, none, mul_zero, sub_zero]

/-- A budget for all that is open closes the side of the pool. -/
theorem Round.closes (sane : Sane input l) (round : Round input l l' pool s budget takes added)
    (distinct : pool.Nodup) (enough : openTotal pool (fun i => s * l.rem i) ≤ budget) :
    ∀ i ∈ pool, s * l'.rem i ≤ 0 := by
  intro i inside
  have filled := round.covers.full distinct enough i inside
  rcases le_or_gt (s * l.rem i) 0 with closed | isOpen
  · exact round.open_anti sane round.isSide i closed
  · have same := sane.side_of_open round.isSide isOpen
    rw [max_eq_right isOpen.le] at filled
    rw [round.rem, filled, same, mul_sub, ← mul_assoc, round.isSide.mul_self, one_mul, sub_self]

end

end Liratek.Money.AccountSettle
