import Liratek.Settle.SettleLegConversion
import Mathlib.Algebra.Order.BigOperators.Group.List

/-! One payment box over two currencies: no line is lost, and each section covers what it owes but for rounding. -/

namespace Liratek.Settle.BoxSplit
open SettleDays (Currency minorFactor)
open SettleLegConversion Lib.Rounding

theorem factor_pos (c : Currency) : 0 < minorFactor c := by
  cases c <;> decide

/-- Half a minor unit, the most that one rounding takes away or adds. -/
def half (c : Currency) : ℚ :=
  1 / (2 * minorFactor c)

theorem half_nonneg (c : Currency) : 0 ≤ half c :=
  div_nonneg zero_le_one (mul_pos two_pos (factor_pos c)).le

/-- An amount of the other currency, in `c`. -/
def conv (c : Currency) (rate x : ℚ) : ℚ :=
  match c with
  | .usd => x / rate
  | .lbp => x * rate

section
variable {rate : ℚ} (positive : 0 < rate) (c : Currency)
include positive

theorem conv_mono {x y : ℚ} (le : x ≤ y) : conv c rate x ≤ conv c rate y := by
  cases c
  · exact div_le_div_of_nonneg_right le positive.le
  · exact mul_le_mul_of_nonneg_right le positive.le

theorem conv_nonneg {x : ℚ} (nonneg : 0 ≤ x) : 0 ≤ conv c rate x := by
  cases c
  · exact div_nonneg nonneg positive.le
  · exact mul_nonneg nonneg positive.le

theorem conv_conv (x : ℚ) : conv c rate (conv (other c) rate x) = x := by
  cases c
  · exact mul_div_cancel_right₀ x positive.ne'
  · exact div_mul_cancel₀ x positive.ne'

end

theorem conv_add (c : Currency) (rate x y : ℚ) : conv c rate (x + y) = conv c rate x + conv c rate y := by
  cases c
  · exact add_div x y rate
  · exact add_mul x y rate

theorem conv_sub (c : Currency) (rate x y : ℚ) : conv c rate (x - y) = conv c rate x - conv c rate y := by
  cases c
  · exact sub_div x y rate
  · exact sub_mul x y rate

theorem other_other (c : Currency) : other (other c) = c := by
  cases c <;> rfl

theorem other_ne (c : Currency) : other c ≠ c := by
  cases c <;> decide

section
variable {α : Type*}

/-- What is taken off a line for the other currency. -/
structure Cut (α : Type*) where
  line : Line α
  take : ℚ

def Cut.moved (cut : Cut α) : List (Line α) :=
  if 0 < cut.take then [{ cut.line with amount := cut.take }] else []

def Cut.kept (cut : Cut α) : List (Line α) :=
  if 0 < cut.line.amount - cut.take then [{ cut.line with amount := cut.line.amount - cut.take }] else []

/-- The lines from the last one, each giving what it can of the amount to move. -/
def cutsFrom : ℚ → List (Line α) → List (Cut α)
  | _, [] => []
  | move, line :: rest => { line := line, take := min line.amount move } :: cutsFrom (move - min line.amount move) rest

theorem cutsFrom_lines (move : ℚ) (lines : List (Line α)) : (cutsFrom move lines).map (·.line) = lines := by
  induction lines generalizing move with
  | nil => rfl
  | cons line rest ih => rw [cutsFrom, List.map_cons, ih]

variable {c : Currency}

/-- Cuts of whole amounts within their lines. -/
structure Fair (c : Currency) (cut : Cut α) : Prop where
  nonneg : 0 ≤ cut.take
  within : cut.take ≤ cut.line.amount
  whole : Whole (minorFactor c) cut.take
  line : Whole (minorFactor c) cut.line.amount

theorem cutsFrom_fair {move : ℚ} {lines : List (Line α)} (nonneg : 0 ≤ move) (whole : Whole (minorFactor c) move)
    (amounts : ∀ l ∈ lines, 0 ≤ l.amount ∧ Whole (minorFactor c) l.amount) : ∀ cut ∈ cutsFrom move lines, Fair c cut := by
  induction lines generalizing move with
  | nil =>
    intro cut member
    cases member
  | cons line rest ih =>
    obtain ⟨⟨lineNonneg, lineWhole⟩, others⟩ := List.forall_mem_cons.mp amounts
    intro cut member
    rcases List.mem_cons.mp member with rfl | later
    · exact ⟨le_min lineNonneg nonneg, min_le_left _ _, lineWhole.min whole, lineWhole⟩
    · exact ih (sub_nonneg.mpr (min_le_right _ _)) (whole.sub (lineWhole.min whole)) others cut later

theorem cutsFrom_sum {move : ℚ} {lines : List (Line α)} (nonneg : 0 ≤ move) (amounts : ∀ l ∈ lines, 0 ≤ l.amount) :
    ((cutsFrom move lines).map (·.take)).sum = min move (lineSum lines) := by
  induction lines generalizing move with
  | nil => exact (min_eq_right nonneg).symm
  | cons line rest ih =>
    obtain ⟨lineNonneg, others⟩ := List.forall_mem_cons.mp amounts
    have restNonneg : 0 ≤ lineSum rest := List.sum_nonneg fun x member => by
      obtain ⟨l, inside, rfl⟩ := List.mem_map.mp member
      exact others l inside
    rw [cutsFrom, List.map_cons, List.sum_cons, ih (sub_nonneg.mpr (min_le_right _ _)) others]
    change _ = min move (line.amount + lineSum rest)
    rcases le_total line.amount move with small | large
    · rw [min_eq_left small, ← min_add_add_left, add_sub_cancel]
    · rw [min_eq_right large, sub_self, min_eq_left restNonneg, add_zero, min_eq_left (by linarith)]

/-- The loop does these cuts. -/
theorem foldl_cutLine {move : ℚ} {lines : List (Line α)} (whole : Whole (minorFactor c) move)
    (amounts : ∀ l ∈ lines, Whole (minorFactor c) l.amount) (keep moved : List (Line α)) :
    lines.foldl (cutLine c) { move := move, keep := keep, moved := moved } =
      { move := move - ((cutsFrom move lines).map (·.take)).sum
        keep := (cutsFrom move lines).reverse.flatMap Cut.kept ++ keep
        moved := (cutsFrom move lines).reverse.flatMap Cut.moved ++ moved } := by
  induction lines generalizing move keep moved with
  | nil => simp [cutsFrom]
  | cons line rest ih =>
    obtain ⟨lineWhole, others⟩ := List.forall_mem_cons.mp amounts
    have takeWhole : Whole (minorFactor c) (min line.amount move) := lineWhole.min whole
    have taken : roundSettleAmount (min line.amount move) c = min line.amount move := takeWhole.roundTo (factor_pos c)
    have left : roundSettleAmount (line.amount - min line.amount move) c = line.amount - min line.amount move :=
      (lineWhole.sub takeWhole).roundTo (factor_pos c)
    have next : roundSettleAmount (move - min line.amount move) c = move - min line.amount move :=
      (whole.sub takeWhole).roundTo (factor_pos c)
    rw [List.foldl_cons, cutLine, taken, left, next, ih (whole.sub takeWhole) others, cutsFrom, List.map_cons, List.sum_cons,
      List.reverse_cons, List.flatMap_append, List.flatMap_append, List.append_assoc, List.append_assoc, sub_add_eq_sub_sub]
    congr 1
    · congr 1
      simp only [Cut.kept, List.flatMap_cons, List.flatMap_nil, List.append_nil]
      split_ifs <;> rfl
    · congr 1
      simp only [Cut.moved, List.flatMap_cons, List.flatMap_nil, List.append_nil]
      split_ifs <;> rfl

/-! What the pieces add up to. -/

theorem lineSum_append (xs ys : List (Line α)) : lineSum (xs ++ ys) = lineSum xs + lineSum ys := by
  rw [lineSum, List.map_append, List.sum_append]
  rfl

def takeSum (cuts : List (Cut α)) : ℚ :=
  (cuts.map (·.take)).sum

theorem lineSum_moved {cuts : List (Cut α)} (fair : ∀ cut ∈ cuts, Fair c cut) : lineSum (cuts.flatMap Cut.moved) = takeSum cuts := by
  induction cuts with
  | nil => rfl
  | cons cut rest ih =>
    obtain ⟨here, others⟩ := List.forall_mem_cons.mp fair
    have own' : lineSum cut.moved = cut.take := by
      unfold Cut.moved
      split_ifs with some'
      · exact add_zero _
      · exact le_antisymm here.nonneg (not_lt.mp some')
    rw [List.flatMap_cons, lineSum_append, ih others, own']
    rfl

theorem lineSum_kept {cuts : List (Cut α)} (fair : ∀ cut ∈ cuts, Fair c cut) :
    lineSum (cuts.flatMap Cut.kept) = lineSum (cuts.map (·.line)) - takeSum cuts := by
  induction cuts with
  | nil => exact (sub_zero _).symm
  | cons cut rest ih =>
    obtain ⟨here, others⟩ := List.forall_mem_cons.mp fair
    have own' : lineSum cut.kept = cut.line.amount - cut.take := by
      unfold Cut.kept
      split_ifs with some'
      · exact add_zero _
      · exact le_antisymm (sub_nonneg.mpr here.within) (not_lt.mp some')
    rw [List.flatMap_cons, lineSum_append, ih others, own']
    change _ = cut.line.amount + lineSum (rest.map (·.line)) - (cut.take + takeSum rest)
    ring

theorem mem_moved {cuts : List (Cut α)} {piece : Line α} (member : piece ∈ cuts.flatMap Cut.moved) :
    ∃ cut ∈ cuts, 0 < cut.take ∧ piece = { cut.line with amount := cut.take } := by
  obtain ⟨cut, inside, here⟩ := List.mem_flatMap.mp member
  unfold Cut.moved at here
  split_ifs at here with some'
  · exact ⟨cut, inside, some', List.mem_singleton.mp here⟩
  · cases here

theorem mem_kept {cuts : List (Cut α)} {piece : Line α} (member : piece ∈ cuts.flatMap Cut.kept) :
    ∃ cut ∈ cuts, 0 < cut.line.amount - cut.take ∧ piece = { cut.line with amount := cut.line.amount - cut.take } := by
  obtain ⟨cut, inside, here⟩ := List.mem_flatMap.mp member
  unfold Cut.kept at here
  split_ifs at here with some'
  · exact ⟨cut, inside, some', List.mem_singleton.mp here⟩
  · cases here

/-! What a section pays, as the server counts it. -/

/-- One line in the section's currency, rounded on its own. -/
def paysIn (c : Currency) (rate : ℚ) (l : Line α) : ℚ :=
  roundSettleAmount (settleLegAmountIn { currencyCode := l.currencyCode, amount := l.amount } c rate) c

theorem settleLegsNetIn_eq {lines : List (Line α)} (positive : ∀ l ∈ lines, 0 < l.amount) (c : Currency) (rate : ℚ) :
    settleLegsNetIn (toLegs lines) c rate = (lines.map (paysIn c rate)).sum := by
  have all : lines.filter (fun l => 0 < l.amount) = lines :=
    List.filter_eq_self.mpr fun l member => decide_eq_true (positive l member)
  have amounts : (settleLegsInBoxCurrency (toLegs lines) c rate).map (fun leg =>
      (if leg.direction = some .moneyOut then -1 else 1) * leg.amount) = lines.map (paysIn c rate) := by
    rw [settleLegsInBoxCurrency, toLegs, all, List.map_map, List.map_map]
    exact List.map_congr_left fun l _ => one_mul _
  have whole : Whole (minorFactor c) (lines.map (paysIn c rate)).sum := whole_sum fun x member => by
    obtain ⟨l, -, rfl⟩ := List.mem_map.mp member
    exact roundTo_whole _ _
  rw [settleLegsNetIn, amounts]
  exact whole.roundTo (factor_pos c)

theorem paysIn_own {l : Line α} {rate : ℚ} (isOwn : l.currencyCode = c) (positive : 0 < l.amount)
    (whole : Whole (minorFactor c) l.amount) : paysIn c rate l = l.amount := by
  unfold paysIn settleLegAmountIn
  rw [if_pos isOwn, abs_of_pos positive]
  exact whole.roundTo (factor_pos c)

theorem paysIn_other {l : Line α} {rate : ℚ} (ratePos : 0 < rate) (isOther : l.currencyCode = other c) (positive : 0 < l.amount) :
    conv c rate l.amount - half c ≤ paysIn c rate l := by
  have value : settleLegAmountIn { currencyCode := l.currencyCode, amount := l.amount } c rate = conv c rate l.amount := by
    unfold settleLegAmountIn
    rw [if_neg (by rw [isOther]; exact other_ne c), if_neg (not_le.mpr ratePos), abs_of_pos positive]
    cases c <;> rfl
  unfold paysIn
  rw [value]
  exact le_roundTo (factor_pos c) _

theorem sum_paysIn_own {lines : List (Line α)} {rate : ℚ}
    (own' : ∀ l ∈ lines, l.currencyCode = c ∧ 0 < l.amount ∧ Whole (minorFactor c) l.amount) :
    (lines.map (paysIn c rate)).sum = lineSum lines :=
  congrArg List.sum (List.map_congr_left fun l member => paysIn_own (own' l member).1 (own' l member).2.1 (own' l member).2.2)

theorem sum_paysIn_other {lines : List (Line α)} {rate : ℚ} (ratePos : 0 < rate)
    (others : ∀ l ∈ lines, l.currencyCode = other c ∧ 0 < l.amount) :
    conv c rate (lineSum lines) - lines.length * half c ≤ (lines.map (paysIn c rate)).sum := by
  induction lines with
  | nil =>
    have none : conv c rate (lineSum ([] : List (Line α))) = 0 := by cases c <;> simp [conv, lineSum]
    rw [none]
    simp
  | cons l rest ih =>
    obtain ⟨⟨isOther, positive⟩, restOther⟩ := List.forall_mem_cons.mp others
    have here := paysIn_other ratePos isOther positive
    have there := ih restOther
    have split : conv c rate (lineSum (l :: rest)) = conv c rate l.amount + conv c rate (lineSum rest) := conv_add ..
    rw [List.map_cons, List.sum_cons, split, List.length_cons, Nat.cast_succ]
    linarith

end

/-! The split of a box. -/

section
variable {α : Type*}

def paidLines (lines : List (Line α)) : List (Line α) :=
  lines.filter fun l => 0 < l.amount

/-- What an amount may lose when a part of it is rounded: nothing if it is in whole minor units. -/
def slack (c : Currency) (x : ℚ) : ℚ :=
  if (x * minorFactor c).den = 1 then 0 else half c

theorem slack_nonneg (c : Currency) (x : ℚ) : 0 ≤ slack c x := by
  unfold slack
  split_ifs
  · exact le_rfl
  · exact half_nonneg c

/-- A sum of whole amounts less an owed amount rounds up by no more than the slack of what is owed. -/
theorem roundSettleAmount_surplus {c : Currency} {paid owed : ℚ} (whole : Whole (minorFactor c) paid) :
    roundSettleAmount (max 0 (paid - owed)) c ≤ max 0 (paid - owed) + slack c owed := by
  unfold slack
  split_ifs with isWhole
  · have owedWhole : Whole (minorFactor c) owed :=
      ⟨(owed * minorFactor c).num, by
        rw [Rat.coe_int_num_of_den_eq_one isWhole, mul_div_cancel_right₀ _ (factor_pos c).ne']⟩
    have surplus : Whole (minorFactor c) (max 0 (paid - owed)) := by
      rcases max_choice 0 (paid - owed) with none | some'
      · rw [none]
        exact whole_zero _
      · rw [some']
        exact whole.sub owedWhole
    rw [roundSettleAmount, surplus.roundTo (factor_pos c), add_zero]
  · exact roundTo_le (factor_pos c) _

variable {lines : List (Line α)} {owed : Currency → ℚ} {rate : ℚ}

/-- What is cut off each line of a currency. -/
def cuts (paid : List (Line α)) (owed : Currency → ℚ) (rate : ℚ) (c : Currency) : List (Cut α) :=
  (cutsFrom (moveAmount paid owed rate c) (own paid c).reverse).reverse

/-- Lines in whole minor units, all paid. -/
def WholeLines (paid : List (Line α)) : Prop :=
  ∀ l ∈ paid, 0 < l.amount ∧ Whole (minorFactor l.currencyCode) l.amount

theorem own_amounts {paid : List (Line α)} (whole : WholeLines paid) (c : Currency) :
    ∀ l ∈ own paid c, l.currencyCode = c ∧ 0 < l.amount ∧ Whole (minorFactor c) l.amount := by
  intro l member
  obtain ⟨inside, isOwn⟩ := List.mem_filter.mp member
  rw [decide_eq_true_iff] at isOwn
  exact ⟨isOwn, (whole l inside).1, isOwn ▸ (whole l inside).2⟩

theorem move_whole (paid : List (Line α)) (owed : Currency → ℚ) (rate : ℚ) (c : Currency) :
    Whole (minorFactor c) (moveAmount paid owed rate c) :=
  roundTo_whole _ _

theorem move_nonneg (paid : List (Line α)) (owed : Currency → ℚ) (rate : ℚ) (c : Currency) : 0 ≤ moveAmount paid owed rate c :=
  roundTo_nonneg (factor_pos c) (le_max_left _ _)

variable {paid : List (Line α)} (whole : WholeLines paid) (c : Currency)
include whole

theorem cuts_fair : ∀ cut ∈ cuts paid owed rate c, Fair c cut := by
  intro cut member
  refine cutsFrom_fair (move_nonneg paid owed rate c) (move_whole paid owed rate c) ?_ cut (List.mem_reverse.mp member)
  intro l inside
  obtain ⟨-, positive, wholeHere⟩ := own_amounts whole c l (List.mem_reverse.mp inside)
  exact ⟨positive.le, wholeHere⟩

omit whole in
theorem cuts_lines : (cuts paid owed rate c).map (·.line) = own paid c := by
  rw [cuts, List.map_reverse, cutsFrom_lines, List.reverse_reverse]

theorem cutting_eq : (cutting paid owed rate c).keep = (cuts paid owed rate c).flatMap Cut.kept ∧
    (cutting paid owed rate c).moved = (cuts paid owed rate c).flatMap Cut.moved := by
  have amounts : ∀ l ∈ (own paid c).reverse, Whole (minorFactor c) l.amount := fun l member =>
    (own_amounts whole c l (List.mem_reverse.mp member)).2.2
  unfold cutting
  rw [foldl_cutLine (move_whole paid owed rate c) amounts]
  exact ⟨List.append_nil _, List.append_nil _⟩

theorem paid_nonneg : 0 ≤ lineSum (own paid c) :=
  List.sum_nonneg fun x member => by
    obtain ⟨l, inside, rfl⟩ := List.mem_map.mp member
    exact (own_amounts whole c l inside).2.1.le

theorem paid_whole : Whole (minorFactor c) (lineSum (own paid c)) :=
  whole_sum fun x member => by
    obtain ⟨l, inside, rfl⟩ := List.mem_map.mp member
    exact (own_amounts whole c l inside).2.2

theorem cuts_sum : takeSum (cuts paid owed rate c) = min (moveAmount paid owed rate c) (lineSum (own paid c)) := by
  have amounts : ∀ l ∈ (own paid c).reverse, 0 ≤ l.amount := fun l member =>
    (own_amounts whole c l (List.mem_reverse.mp member)).2.1.le
  rw [takeSum, cuts, List.map_reverse, List.sum_reverse, cutsFrom_sum (move_nonneg paid owed rate c) amounts, lineSum, lineSum,
    List.map_reverse, List.sum_reverse]

/-- Only money that the own currency does not need goes to the other one. -/
theorem cuts_spare : takeSum (cuts paid owed rate c) ≤ max 0 (lineSum (own paid c) - owed c) + slack c (owed c) := by
  rw [cuts_sum whole]
  refine (min_le_left _ _).trans ?_
  have upTo : moveAmount paid owed rate c ≤ roundSettleAmount (max 0 (lineSum (own paid c) - owed c)) c :=
    roundTo_mono (factor_pos c) (max_le_max le_rfl (min_le_left _ _))
  exact upTo.trans (roundSettleAmount_surplus (paid_whole whole c))

variable (ratePos : 0 < rate) (magnitudes : ∀ c, 0 ≤ owed c)
include ratePos magnitudes

omit ratePos magnitudes in
/-- A currency short of what it owes gives nothing away. -/
theorem cuts_short (short : lineSum (own paid c) < owed c) : takeSum (cuts paid owed rate c) = 0 := by
  have none : moveAmount paid owed rate c = 0 := by
    unfold moveAmount
    dsimp only
    rw [max_eq_left ((min_le_left _ _).trans (by linarith))]
    exact (whole_zero _).roundTo (factor_pos c)
  rw [cuts_sum whole, none, min_eq_left (paid_nonneg whole c)]

/-- When everything paid is worth everything owed, a short currency gets its shortfall from the other one, rounded. -/
theorem cuts_cover (short : lineSum (own paid c) < owed c)
    (enough : conv c rate (owed (other c)) + owed c ≤ conv c rate (lineSum (own paid (other c))) + lineSum (own paid c)) :
    conv (other c) rate (owed c - lineSum (own paid c)) - half (other c) ≤ takeSum (cuts paid owed rate (other c)) := by
  generalize isD : other c = d at *
  have back : other d = c := isD ▸ other_other c
  have surplus : conv d rate (owed c - lineSum (own paid c)) ≤ lineSum (own paid d) - owed d := by
    have value : owed c - lineSum (own paid c) ≤ conv c rate (lineSum (own paid d) - owed d) := by
      rw [conv_sub]
      linarith
    have converted := conv_mono ratePos d value
    have inverse := conv_conv ratePos d (lineSum (own paid d) - owed d)
    rw [back] at inverse
    rwa [inverse] at converted
  have positive : 0 ≤ conv d rate (owed c - lineSum (own paid c)) := conv_nonneg ratePos d (by linarith)
  have isMove : moveAmount paid owed rate d = roundSettleAmount (conv d rate (owed c - lineSum (own paid c))) d := by
    unfold moveAmount
    dsimp only
    rw [back, if_pos (by simp [short, ratePos])]
    change roundSettleAmount (max 0 (min _ (conv d rate (owed c - lineSum (own paid c))))) d = _
    rw [min_eq_right surplus, max_eq_right positive]
  have within : moveAmount paid owed rate d ≤ lineSum (own paid d) := by
    rw [isMove]
    apply roundTo_le_of_whole (factor_pos d) (paid_whole whole d)
    linarith [magnitudes d]
  rw [cuts_sum whole, min_eq_left within, isMove]
  exact le_roundTo (factor_pos d) _

end

/-! The sections. -/

section
variable {α : Type*}

/-- What `splitBoxLinesAcrossCurrencies` makes of the lines of a box that settles both currencies. -/
structure Splits (lines : List (Line α)) (owed : Currency → ℚ) (rate : ℚ) (sections : Currency → List (Line α))
    (cut : Currency → List (Cut α)) : Prop where
  -- every paid line is cut once, into a part that stays and a part that moves
  cutOnce : ∀ c, (cut c).map (·.line) = own (paidLines lines) c
  fair : ∀ c, ∀ piece ∈ cut c, Fair c piece
  usd : sections .usd = (cut .usd).flatMap Cut.kept ++ (cut .lbp).flatMap Cut.moved
  lbp : sections .lbp = (cut .usd).flatMap Cut.moved ++ (cut .lbp).flatMap Cut.kept
  -- nothing is lost in the currency it was paid in
  paid : ∀ c, lineSum (own (sections .usd ++ sections .lbp) c) = lineSum (own (paidLines lines) c)
  spare : ∀ c, takeSum (cut c) ≤ max 0 (lineSum (own (paidLines lines) c) - owed c) + slack c (owed c)
  covers : owed .usd + owed .lbp / rate ≤ lineSum (own (paidLines lines) .usd) + lineSum (own (paidLines lines) .lbp) / rate →
    ∀ c, owed c ≤ settleLegsNetIn (toLegs (sections c)) c rate + conv c rate (half (other c)) +
      ((cut (other c)).flatMap Cut.moved).length * half c + slack c (owed c)

variable {paid : List (Line α)} {owed : Currency → ℚ} {rate : ℚ}

theorem kept_own (whole : WholeLines paid) (c : Currency) : ∀ l ∈ (cuts paid owed rate c).flatMap Cut.kept,
    l.currencyCode = c ∧ 0 < l.amount ∧ Whole (minorFactor c) l.amount := by
  intro l member
  obtain ⟨cut, inside, positive, rfl⟩ := mem_kept member
  have line : cut.line ∈ own paid c := by
    have lines : (cuts paid owed rate c).map (·.line) = own paid c := cuts_lines c
    exact lines ▸ List.mem_map_of_mem inside
  have fair := cuts_fair whole c cut inside
  exact ⟨(own_amounts whole c cut.line line).1, positive, fair.line.sub fair.whole⟩

theorem moved_own (whole : WholeLines paid) (c : Currency) : ∀ l ∈ (cuts paid owed rate c).flatMap Cut.moved,
    l.currencyCode = c ∧ 0 < l.amount ∧ Whole (minorFactor c) l.amount := by
  intro l member
  obtain ⟨cut, inside, positive, rfl⟩ := mem_moved member
  have line : cut.line ∈ own paid c := by
    have lines : (cuts paid owed rate c).map (·.line) = own paid c := cuts_lines c
    exact lines ▸ List.mem_map_of_mem inside
  exact ⟨(own_amounts whole c cut.line line).1, positive, (cuts_fair whole c cut inside).whole⟩

/-- What a section pays is what its own lines keep, and what comes from the other currency's lines. -/
theorem section_pays (whole : WholeLines paid) (ratePos : 0 < rate) (c : Currency) {sent : List (Line α)}
    (parts : sent.Perm ((cuts paid owed rate c).flatMap Cut.kept ++ (cuts paid owed rate (other c)).flatMap Cut.moved)) :
    lineSum (own paid c) - takeSum (cuts paid owed rate c) + (conv c rate (takeSum (cuts paid owed rate (other c))) -
        ((cuts paid owed rate (other c)).flatMap Cut.moved).length * half c) ≤ settleLegsNetIn (toLegs sent) c rate := by
  have positive : ∀ l ∈ sent, 0 < l.amount := by
    intro l member
    rcases List.mem_append.mp (parts.subset member) with kept | moved
    · exact (kept_own whole c l kept).2.1
    · exact (moved_own whole (other c) l moved).2.1
  rw [settleLegsNetIn_eq positive, (parts.map _).sum_eq, List.map_append, List.sum_append, sum_paysIn_own (kept_own whole c),
    lineSum_kept (cuts_fair whole c), cuts_lines]
  have others := sum_paysIn_other ratePos fun l (member : l ∈ (cuts paid owed rate (other c)).flatMap Cut.moved) =>
    ⟨(moved_own whole (other c) l member).1, (moved_own whole (other c) l member).2.1⟩
  rw [lineSum_moved (cuts_fair whole (other c))] at others
  linarith

theorem enough_in (ratePos : 0 < rate)
    (enough : owed .usd + owed .lbp / rate ≤ lineSum (own paid .usd) + lineSum (own paid .lbp) / rate) (c : Currency) :
    conv c rate (owed (other c)) + owed c ≤ conv c rate (lineSum (own paid (other c))) + lineSum (own paid c) := by
  cases c with
  | usd =>
    change owed .lbp / rate + owed .usd ≤ lineSum (own paid .lbp) / rate + lineSum (own paid .usd)
    linarith
  | lbp =>
    change owed .usd * rate + owed .lbp ≤ lineSum (own paid .usd) * rate + lineSum (own paid .lbp)
    have scaled := mul_le_mul_of_nonneg_right enough ratePos.le
    rw [add_mul, add_mul, div_mul_cancel₀ _ ratePos.ne', div_mul_cancel₀ _ ratePos.ne'] at scaled
    exact scaled

theorem section_covers (whole : WholeLines paid) (ratePos : 0 < rate) (magnitudes : ∀ c, 0 ≤ owed c)
    (enough : owed .usd + owed .lbp / rate ≤ lineSum (own paid .usd) + lineSum (own paid .lbp) / rate) (c : Currency)
    {sent : List (Line α)}
    (parts : sent.Perm ((cuts paid owed rate c).flatMap Cut.kept ++ (cuts paid owed rate (other c)).flatMap Cut.moved)) :
    owed c ≤ settleLegsNetIn (toLegs sent) c rate + conv c rate (half (other c)) +
      ((cuts paid owed rate (other c)).flatMap Cut.moved).length * half c + slack c (owed c) := by
  have pays := section_pays whole ratePos c parts
  have halfOther : 0 ≤ conv c rate (half (other c)) := conv_nonneg ratePos c (half_nonneg (other c))
  have slackHere := slack_nonneg c (owed c)
  by_cases short : lineSum (own paid c) < owed c
  · have cover := conv_mono ratePos c (cuts_cover whole c ratePos magnitudes short (enough_in ratePos enough c))
    rw [conv_sub, conv_conv ratePos] at cover
    rw [cuts_short whole c short] at pays
    linarith
  · have spare : takeSum (cuts paid owed rate c) ≤ max 0 (lineSum (own paid c) - owed c) + slack c (owed c) := cuts_spare whole c
    rw [max_eq_right (by linarith)] at spare
    have moved : 0 ≤ conv c rate (takeSum (cuts paid owed rate (other c))) := by
      refine conv_nonneg ratePos c (List.sum_nonneg fun x member => ?_)
      obtain ⟨cut, inside, rfl⟩ := List.mem_map.mp member
      exact (cuts_fair whole (other c) cut inside).nonneg
    linarith

theorem own_append (xs ys : List (Line α)) (c : Currency) : own (xs ++ ys) c = own xs c ++ own ys c :=
  List.filter_append ..

theorem own_all {xs : List (Line α)} {c : Currency} (all : ∀ l ∈ xs, l.currencyCode = c) : own xs c = xs :=
  List.filter_eq_self.mpr fun l member => decide_eq_true (all l member)

theorem own_none {xs : List (Line α)} {c : Currency} (none : ∀ l ∈ xs, l.currencyCode ≠ c) : own xs c = [] :=
  List.filter_eq_nil_iff.mpr fun l member => by simpa using none l member

theorem pieces_paid (whole : WholeLines paid) {c : Currency} {sent : List (Line α)}
    (parts : sent.Perm (((cuts paid owed rate c).flatMap Cut.kept ++ (cuts paid owed rate c).flatMap Cut.moved) ++
      ((cuts paid owed rate (other c)).flatMap Cut.kept ++ (cuts paid owed rate (other c)).flatMap Cut.moved))) :
    lineSum (own sent c) = lineSum (own paid c) := by
  have same : lineSum (own sent c) = lineSum (own (((cuts paid owed rate c).flatMap Cut.kept ++
      (cuts paid owed rate c).flatMap Cut.moved) ++ ((cuts paid owed rate (other c)).flatMap Cut.kept ++
      (cuts paid owed rate (other c)).flatMap Cut.moved)) c) := ((parts.filter _).map _).sum_eq
  have foreign {xs : List (Line α)} (isOther : ∀ l ∈ xs, l.currencyCode = other c) : own xs c = [] :=
    own_none fun l member => by rw [isOther l member]; exact other_ne c
  rw [same, own_append, own_append, own_append, own_all fun l member => (kept_own whole c l member).1,
    own_all fun l member => (moved_own whole c l member).1, foreign fun l member => (kept_own whole (other c) l member).1,
    foreign fun l member => (moved_own whole (other c) l member).1, List.append_nil, List.append_nil, lineSum_append,
    lineSum_kept (cuts_fair whole c), lineSum_moved (cuts_fair whole c), cuts_lines, sub_add_cancel]

theorem crossed {β : Type*} (keptHere movedThere movedHere keptThere : List β) :
    ((keptHere ++ movedThere) ++ (movedHere ++ keptThere)).Perm ((keptHere ++ movedHere) ++ (keptThere ++ movedThere)) := by
  simp only [List.append_assoc]
  refine List.Perm.append_left keptHere ?_
  rw [← List.append_assoc, ← List.append_assoc]
  exact (List.perm_append_comm.append_right keptThere).trans
    (by simpa using List.perm_append_comm.append_left (movedHere : List β))

theorem crossedBack {β : Type*} (keptThere movedHere movedThere keptHere : List β) :
    ((keptThere ++ movedHere) ++ (movedThere ++ keptHere)).Perm ((keptHere ++ movedHere) ++ (keptThere ++ movedThere)) :=
  (crossed ..).trans List.perm_append_comm

/-- Lines in whole minor units are split without loss, and if they are worth what is owed then each section covers its
own, up to half a minor unit of the currency that helps out and half a minor unit of its own for each line moved in. -/
theorem splitBoxLines_splits {lines : List (Line α)} (whole : ∀ l ∈ lines, Whole (minorFactor l.currencyCode) l.amount)
    (magnitudes : ∀ c, 0 ≤ owed c) (ratePos : 0 < rate) :
    ∃ cut, Splits lines owed rate (splitBoxLinesAcrossCurrencies lines (fun c => some (owed c)) rate) cut := by
  have wholePaid : WholeLines (paidLines lines) := fun l member =>
    ⟨of_decide_eq_true (List.mem_filter.mp member).2, whole l (List.mem_filter.mp member).1⟩
  have usd : splitBoxLinesAcrossCurrencies lines (fun c => some (owed c)) rate .usd =
      (cuts (paidLines lines) owed rate .usd).flatMap Cut.kept ++ (cuts (paidLines lines) owed rate .lbp).flatMap Cut.moved := by
    rw [← (cutting_eq wholePaid .usd).1, ← (cutting_eq wholePaid .lbp).2]
    rfl
  have lbp : splitBoxLinesAcrossCurrencies lines (fun c => some (owed c)) rate .lbp =
      (cuts (paidLines lines) owed rate .usd).flatMap Cut.moved ++ (cuts (paidLines lines) owed rate .lbp).flatMap Cut.kept := by
    rw [← (cutting_eq wholePaid .usd).2, ← (cutting_eq wholePaid .lbp).1]
    rfl
  refine ⟨cuts (paidLines lines) owed rate, fun c => cuts_lines c, fun c => cuts_fair wholePaid c, usd, lbp, fun c => ?_,
    fun c => cuts_spare wholePaid c, fun enough c => ?_⟩
  · rw [usd, lbp]
    cases c with
    | usd => exact pieces_paid wholePaid (crossed ..)
    | lbp => exact pieces_paid wholePaid (crossedBack ..)
  · cases c with
    | usd => exact section_covers wholePaid ratePos magnitudes enough .usd (List.Perm.of_eq usd)
    | lbp => exact section_covers wholePaid ratePos magnitudes enough .lbp ((List.Perm.of_eq lbp).trans List.perm_append_comm)

/-- Two lines of dollars and one of lira, for $200 and 812,000 lira. -/
def boxLines : List (Line Unit) :=
  [{ currencyCode := .usd, amount := 150, data := () }, { currencyCode := .usd, amount := 58, data := () },
    { currencyCode := .lbp, amount := 100000, data := () }]

def boxOwed : Currency → ℚ
  | .usd => 200
  | .lbp => 812000

/-- The second line is cut: $8 of it cover the lira shortfall. -/
theorem splitBoxLines_liraShortfall :
    ((splitBoxLinesAcrossCurrencies boxLines (fun c => some (boxOwed c)) 89000 .usd).map fun l => (l.currencyCode, l.amount)) =
      [(.usd, 150), (.usd, 50)] ∧
    ((splitBoxLinesAcrossCurrencies boxLines (fun c => some (boxOwed c)) 89000 .lbp).map fun l => (l.currencyCode, l.amount)) =
      [(.usd, 8), (.lbp, 100000)] ∧
    ∃ cut, Splits boxLines boxOwed 89000 (splitBoxLinesAcrossCurrencies boxLines (fun c => some (boxOwed c)) 89000) cut := by
  refine ⟨by decide +kernel, by decide +kernel, splitBoxLines_splits (fun l member => ?_) (fun c => ?_) (by norm_num)⟩
  · simp only [boxLines, List.mem_cons, List.not_mem_nil, or_false] at member
    rcases member with rfl | rfl | rfl
    · exact ⟨15000, by norm_num [minorFactor]⟩
    · exact ⟨5800, by norm_num [minorFactor]⟩
    · exact ⟨100000, by norm_num [minorFactor]⟩
  · cases c <;> norm_num [boxOwed]

/-- A lira shortfall worth less than half a cent stays unpaid, however many dollars are left, and no line is moved. -/
theorem splitBoxLines_dropsFraction :
    let sections := splitBoxLinesAcrossCurrencies [{ currencyCode := .usd, amount := 10, data := () }]
      (fun c => some (match c with | .usd => 9 | .lbp => 400)) 89500
    (9 + 400 / 89500 : ℚ) ≤ 10 ∧ sections .lbp = [] ∧
      settleLegsNetIn (toLegs (sections .lbp)) .lbp 89500 + (own (sections .lbp) .usd).length * 1 < (400 : ℚ) := by
  decide +kernel

end

end Liratek.Settle.BoxSplit
