import Liratek.Basket.Members
import Liratek.Lib.Rounding
import Liratek.Money.LargestRemainder

/-! Which items of a basket its debt belongs to: the primary system's transfers come last. -/

namespace Liratek.Basket.MemberOwed
open Lib Lib.Rounding Members Money.LargestRemainder

structure BasketMemberShareInput where
  id : Nat
  /-- the member's own charge -/
  amount : Amounts
  /-- a transfer on the shop's primary system -/
  isPrimary : Bool

structure BasketMemberOwed where
  id : Nat
  owed : Amounts

/-- A member with what it owes so far. -/
structure MemberShare where
  member : BasketMemberShareInput
  owed : Amounts

def roundUsd (n : ℚ) : ℚ := mathRound (n * 100) / 100

def roundLbp (n : ℚ) : ℚ := mathRound n

def roundAmount : CoverageCurrency → ℚ → ℚ
  | .usd => roundUsd
  | .lbp => roundLbp

/-- In dollars at the rate. -/
def valueAt (rate : ℚ) (amounts : Amounts) : ℚ :=
  amounts .usd + amounts .lbp / rate

/-- What a member takes of each currency it is charged in. -/
def sameCurrency (left : Amounts) (member : BasketMemberShareInput) : Amounts :=
  fun currency => roundAmount currency (min (left currency) (max 0 (member.amount currency)))

def fillSame : List BasketMemberShareInput → Amounts → List MemberShare × Amounts
  | [], left => ([], left)
  | member :: rest, left =>
    let taken := sameCurrency left member
    let filled := fillSame rest fun currency => roundAmount currency (left currency - taken currency)
    ({ member := member, owed := fun currency => roundAmount currency (0 + taken currency) } :: filled.1, filled.2)

def remainingValue (rate : ℚ) (share : MemberShare) : ℚ :=
  max 0 (valueAt rate share.member.amount - valueAt rate share.owed)

/-- How much of a currency a dollar is. -/
def price (rate : ℚ) : CoverageCurrency → ℚ
  | .usd => 1
  | .lbp => rate

def raise (currency : CoverageCurrency) (taken : ℚ) (share : MemberShare) : MemberShare :=
  { share with owed := fun c => if c = currency then roundAmount c (share.owed c + taken) else share.owed c }

def crossTake (rate : ℚ) (currency : CoverageCurrency) (left : ℚ) (share : MemberShare) : ℚ :=
  roundAmount currency (min left (remainingValue rate share * price rate currency))

def fillCross (rate : ℚ) (currency : CoverageCurrency) : List MemberShare → ℚ → List MemberShare × ℚ
  | [], left => ([], left)
  | share :: rest, left =>
    if left ≤ 0 then (share :: rest, left)
    else
      let taken := crossTake rate currency left share
      if taken ≤ 0 then
        let filled := fillCross rate currency rest left
        (share :: filled.1, filled.2)
      else
        let filled := fillCross rate currency rest (roundAmount currency (left - taken))
        (raise currency taken share :: filled.1, filled.2)

/-- What is still left goes to the last member. -/
def raiseLast (left : Amounts) : List MemberShare → List MemberShare
  | [] => []
  | [share] =>
    [{ share with owed := fun c => if 0 < left c then roundAmount c (share.owed c + left c) else share.owed c }]
  | share :: next :: rest => share :: raiseLast left (next :: rest)

def byId (members : List BasketMemberShareInput) : List BasketMemberShareInput :=
  members.insertionSort fun a b => a.id ≤ b.id

def fillOrder (members : List BasketMemberShareInput) : List BasketMemberShareInput :=
  byId (members.filter fun m => !m.isPrimary) ++ byId (members.filter (·.isPrimary))

/-- An unusable rate counts as one. -/
def usableRate (rate : ℚ) : ℚ :=
  if 0 < rate then rate else 1

def allocateBasketMemberOwed (outstanding : Amounts) (members : List BasketMemberShareInput) (exchangeRate : ℚ) :
    List BasketMemberOwed :=
  let rate := usableRate exchangeRate
  let same := fillSame (fillOrder members) fun currency => roundAmount currency (max 0 (outstanding currency))
  let usd := fillCross rate .usd same.1 (same.2 .usd)
  let lbp := fillCross rate .lbp usd.1 (same.2 .lbp)
  let left : Amounts
    | .usd => usd.2
    | .lbp => lbp.2
  (raiseLast left lbp.1).map fun share => { id := share.member.id, owed := share.owed }

/-! Rounding to cents and to whole pounds. -/

def scale : CoverageCurrency → ℚ
  | .usd => 100
  | .lbp => 1

theorem scale_pos (currency : CoverageCurrency) : 0 < scale currency := by
  cases currency <;> norm_num [scale]

theorem roundAmount_eq (currency : CoverageCurrency) (x : ℚ) : roundAmount currency x = roundTo (scale currency) x := by
  cases currency with
  | usd =>
    change roundUsd x = _
    rw [roundUsd, mathRound, roundTo, round_eq]
    rfl
  | lbp =>
    change roundLbp x = _
    rw [roundLbp, mathRound, roundTo, round_eq, scale, mul_one, div_one]

abbrev WholeIn (currency : CoverageCurrency) (x : ℚ) : Prop :=
  Whole (scale currency) x

theorem roundAmount_whole (currency : CoverageCurrency) (x : ℚ) : WholeIn currency (roundAmount currency x) := by
  rw [roundAmount_eq]
  exact roundTo_whole _ _

theorem roundAmount_of_whole {currency : CoverageCurrency} {x : ℚ} (whole : WholeIn currency x) :
    roundAmount currency x = x := by
  rw [roundAmount_eq]
  exact whole.roundTo (scale_pos currency)

/-- The smallest amount of a currency. -/
def unit (currency : CoverageCurrency) : ℚ :=
  1 / scale currency

theorem unit_pos (currency : CoverageCurrency) : 0 < unit currency :=
  one_div_pos.mpr (scale_pos currency)

theorem half_unit (currency : CoverageCurrency) : 1 / (2 * scale currency) = unit currency / 2 := by
  rw [unit, div_div, mul_comm]

theorem roundAmount_le (currency : CoverageCurrency) (x : ℚ) : roundAmount currency x ≤ x + unit currency / 2 := by
  rw [roundAmount_eq, ← half_unit]
  exact roundTo_le (scale_pos currency) x

theorem le_roundAmount (currency : CoverageCurrency) (x : ℚ) : x - unit currency / 2 ≤ roundAmount currency x := by
  rw [roundAmount_eq, ← half_unit]
  exact le_roundTo (scale_pos currency) x

theorem roundAmount_le_of_whole {currency : CoverageCurrency} {x bound : ℚ} (whole : WholeIn currency bound)
    (le : x ≤ bound) : roundAmount currency x ≤ bound := by
  rw [roundAmount_eq]
  exact roundTo_le_of_whole (scale_pos currency) whole le

theorem roundAmount_nonneg {currency : CoverageCurrency} {x : ℚ} (nonneg : 0 ≤ x) : 0 ≤ roundAmount currency x := by
  rw [roundAmount_eq]
  exact roundTo_nonneg (scale_pos currency) nonneg

/-! The value of amounts. -/

theorem valueAt_add (rate : ℚ) (a b : Amounts) : valueAt rate (a + b) = valueAt rate a + valueAt rate b := by
  unfold valueAt
  rw [Pi.add_apply, Pi.add_apply]
  ring

section
variable {rate : ℚ} (positive : 0 < rate)
include positive

theorem valueAt_mono {a b : Amounts} (le : ∀ currency, a currency ≤ b currency) : valueAt rate a ≤ valueAt rate b :=
  add_le_add (le .usd) (div_le_div_of_nonneg_right (le .lbp) positive.le)

theorem price_pos (currency : CoverageCurrency) : 0 < price rate currency := by
  cases currency with
  | usd => exact one_pos
  | lbp => exact positive

theorem usableRate_eq : usableRate rate = rate :=
  if_pos positive

/-- One unit of a currency is worth at most one unit of each. -/
theorem unit_le_value (currency : CoverageCurrency) : unit currency / price rate currency ≤ valueAt rate unit := by
  have usd := unit_pos .usd
  have lbp := div_pos (unit_pos .lbp) positive
  unfold valueAt
  cases currency with
  | usd =>
    change unit .usd / 1 ≤ _
    linarith [div_one (unit .usd)]
  | lbp =>
    change unit .lbp / rate ≤ _
    linarith

end

/-- Only the positive amounts are charged. -/
def charge (rate : ℚ) (member : BasketMemberShareInput) : ℚ :=
  valueAt rate fun currency => max 0 (member.amount currency)

/-- What the members owe in a currency. -/
def owedSum (shares : List MemberShare) (currency : CoverageCurrency) : ℚ :=
  (shares.map fun share => share.owed currency).sum

@[simp] theorem owedSum_cons (share : MemberShare) (rest : List MemberShare) (currency : CoverageCurrency) :
    owedSum (share :: rest) currency = share.owed currency + owedSum rest currency := rfl

/-- A share is whole, and above the charge of its member by rounding only. -/
structure Fair (rate : ℚ) (share : MemberShare) : Prop where
  whole : ∀ currency, WholeIn currency (share.owed currency)
  bound : valueAt rate share.owed ≤ charge rate share.member + valueAt rate unit / 2

/-- Nothing of the charge is free, but for rounding. -/
def Filled (rate : ℚ) (share : MemberShare) : Prop :=
  valueAt rate share.member.amount - valueAt rate share.owed ≤ valueAt rate unit / 2

/-! Filling a currency from the members charged in it. -/

theorem taken_range {currency : CoverageCurrency} {left bound : ℚ} (whole : WholeIn currency left) (nonneg : 0 ≤ left)
    (room : 0 ≤ bound) : 0 ≤ roundAmount currency (min left bound) ∧ roundAmount currency (min left bound) ≤ left :=
  ⟨roundAmount_nonneg (le_min nonneg room), roundAmount_le_of_whole whole (min_le_left left bound)⟩

theorem fillSame_members (order : List BasketMemberShareInput) (left : Amounts) :
    (fillSame order left).1.map (·.member) = order := by
  induction order generalizing left with
  | nil => rfl
  | cons member rest ih => exact congrArg (member :: ·) (ih _)

theorem fillSame_fair {rate : ℚ} (positive : 0 < rate) (order : List BasketMemberShareInput) (left : Amounts) :
    ∀ share ∈ (fillSame order left).1, Fair rate share := by
  induction order generalizing left with
  | nil => exact fun _ none => nomatch none
  | cons member rest ih =>
    intro share here
    rcases List.mem_cons.mp here with rfl | later
    · have same : ∀ currency, roundAmount currency (0 + sameCurrency left member currency) =
          sameCurrency left member currency := by
        intro currency
        rw [zero_add]
        exact roundAmount_of_whole (roundAmount_whole currency _)
      have bound : ∀ currency, roundAmount currency (0 + sameCurrency left member currency) ≤
          max 0 (member.amount currency) + unit currency / 2 := by
        intro currency
        rw [same currency]
        have near := roundAmount_le currency (min (left currency) (max 0 (member.amount currency)))
        have least := min_le_right (left currency) (max 0 (member.amount currency))
        unfold sameCurrency
        linarith
      refine ⟨fun currency => roundAmount_whole currency _, ?_⟩
      calc valueAt rate (fun currency => roundAmount currency (0 + sameCurrency left member currency))
          ≤ valueAt rate ((fun currency => max 0 (member.amount currency)) + fun currency => unit currency / 2) :=
            valueAt_mono positive bound
        _ = charge rate member + valueAt rate unit / 2 := by
            rw [valueAt_add, charge]
            unfold valueAt
            ring
    · exact ih _ share later

theorem fillSame_left (order : List BasketMemberShareInput) {left : Amounts}
    (whole : ∀ currency, WholeIn currency (left currency)) (nonneg : ∀ currency, 0 ≤ left currency)
    (currency : CoverageCurrency) :
    owedSum (fillSame order left).1 currency + (fillSame order left).2 currency = left currency ∧
      WholeIn currency ((fillSame order left).2 currency) ∧ 0 ≤ (fillSame order left).2 currency := by
  induction order generalizing left with
  | nil => exact ⟨zero_add _, whole currency, nonneg currency⟩
  | cons member rest ih =>
    have range : ∀ c, 0 ≤ sameCurrency left member c ∧ sameCurrency left member c ≤ left c :=
      fun c => taken_range (whole c) (nonneg c) (le_max_left 0 _)
    have wholeTaken : ∀ c, WholeIn c (sameCurrency left member c) := fun c => roundAmount_whole c _
    have next : ∀ c, roundAmount c (left c - sameCurrency left member c) = left c - sameCurrency left member c :=
      fun c => roundAmount_of_whole ((whole c).sub (wholeTaken c))
    have first : roundAmount currency (0 + sameCurrency left member currency) = sameCurrency left member currency := by
      rw [zero_add]
      exact roundAmount_of_whole (wholeTaken currency)
    have filled := @ih (fun c => roundAmount c (left c - sameCurrency left member c))
      (fun c => roundAmount_whole c _)
      (fun c => by rw [next c]; linarith [(range c).2])
    rw [next currency] at filled
    refine ⟨?_, filled.2.1, filled.2.2⟩
    simp only [fillSame, owedSum_cons]
    rw [first, add_assoc, filled.1]
    ring

/-! Filling the value that is left of each member. -/

theorem raise_owed {share : MemberShare} {currency : CoverageCurrency} {taken : ℚ}
    (whole : WholeIn currency (share.owed currency)) (wholeTaken : WholeIn currency taken) (c : CoverageCurrency) :
    (raise currency taken share).owed c = share.owed c + if c = currency then taken else 0 := by
  change (if c = currency then roundAmount c (share.owed c + taken) else share.owed c) = _
  split_ifs with this
  · subst this
    exact roundAmount_of_whole (whole.add wholeTaken)
  · exact (add_zero _).symm

theorem crossTake_whole (rate : ℚ) (currency : CoverageCurrency) (left : ℚ) (share : MemberShare) :
    WholeIn currency (crossTake rate currency left share) :=
  roundAmount_whole _ _

theorem valueAt_raise {rate : ℚ} {share : MemberShare} {currency : CoverageCurrency} {taken : ℚ}
    (whole : WholeIn currency (share.owed currency)) (wholeTaken : WholeIn currency taken) :
    valueAt rate (raise currency taken share).owed = valueAt rate share.owed + taken / price rate currency := by
  unfold valueAt
  rw [raise_owed whole wholeTaken, raise_owed whole wholeTaken]
  cases currency with
  | usd =>
    simp only [price, if_pos, reduceCtorEq, if_false, div_one]
    ring
  | lbp =>
    simp only [price, if_pos, reduceCtorEq, if_false]
    ring

section
variable {rate : ℚ} (positive : 0 < rate)
include positive

theorem amount_le_charge (member : BasketMemberShareInput) : valueAt rate member.amount ≤ charge rate member :=
  valueAt_mono positive fun _ => le_max_right _ _

/-- Half a unit of a currency in dollars. -/
theorem half_unit_value (currency : CoverageCurrency) :
    unit currency / 2 / price rate currency ≤ valueAt rate unit / 2 := by
  have worth := unit_le_value positive currency
  have split : unit currency / 2 / price rate currency = unit currency / price rate currency / 2 := by ring
  linarith

theorem crossTake_le (currency : CoverageCurrency) (left : ℚ) (share : MemberShare) :
    crossTake rate currency left share / price rate currency ≤ remainingValue rate share + valueAt rate unit / 2 := by
  have worth := price_pos positive currency
  have near := roundAmount_le currency (min left (remainingValue rate share * price rate currency))
  have least := min_le_right left (remainingValue rate share * price rate currency)
  have taken : crossTake rate currency left share ≤ remainingValue rate share * price rate currency + unit currency / 2 := by
    unfold crossTake
    linarith
  calc crossTake rate currency left share / price rate currency
      ≤ (remainingValue rate share * price rate currency + unit currency / 2) / price rate currency :=
        div_le_div_of_nonneg_right taken worth.le
    _ = remainingValue rate share + unit currency / 2 / price rate currency := by
        rw [add_div, mul_div_cancel_right₀ _ worth.ne']
    _ ≤ remainingValue rate share + valueAt rate unit / 2 := by linarith [half_unit_value positive currency]

theorem Fair.raise {share : MemberShare} (fair : Fair rate share) {currency : CoverageCurrency} {left : ℚ}
    (some : 0 < crossTake rate currency left share) :
    Fair rate (MemberOwed.raise currency (crossTake rate currency left share) share) := by
  have wholeTaken := crossTake_whole rate currency left share
  constructor
  · intro c
    rw [raise_owed (fair.whole currency) wholeTaken]
    split_ifs with this
    · subst this
      exact (fair.whole c).add wholeTaken
    · rw [add_zero]
      exact fair.whole c
  · rw [valueAt_raise (fair.whole currency) wholeTaken]
    change _ ≤ charge rate share.member + _
    have taken := crossTake_le positive currency left share
    rcases le_total (valueAt rate share.member.amount) (valueAt rate share.owed) with full | room
    · -- of a full member nothing is taken
      have none : remainingValue rate share = 0 := max_eq_left (by linarith)
      have least : crossTake rate currency left share ≤ 0 := by
        unfold crossTake
        rw [none, zero_mul]
        exact roundAmount_le_of_whole (whole_zero _) (min_le_right left 0)
      linarith
    · have remains : remainingValue rate share = valueAt rate share.member.amount - valueAt rate share.owed :=
        max_eq_right (by linarith)
      have charged := amount_le_charge positive share.member
      linarith

/-- Value that is still left was left by every member it passed. -/
theorem Filled.skip {share : MemberShare} {currency : CoverageCurrency} {left : ℚ} (whole : WholeIn currency left)
    (some : 0 < left) (nothing : crossTake rate currency left share ≤ 0) : Filled rate share := by
  have worth := price_pos positive currency
  have near := le_roundAmount currency (min left (remainingValue rate share * price rate currency))
  have least : min left (remainingValue rate share * price rate currency) ≤ unit currency / 2 := by
    unfold crossTake at nothing
    linarith
  have one : unit currency ≤ left := whole.unit_le (scale_pos currency) some
  have remains : remainingValue rate share * price rate currency ≤ unit currency / 2 := by
    rcases min_le_iff.mp least with small | small
    · linarith [unit_pos currency]
    · exact small
  have value : remainingValue rate share ≤ unit currency / 2 / price rate currency := (le_div_iff₀ worth).mpr remains
  have gap : valueAt rate share.member.amount - valueAt rate share.owed ≤ remainingValue rate share := le_max_right _ _
  unfold Filled
  linarith [half_unit_value positive currency]

theorem Filled.take {share : MemberShare} (fair : Fair rate share) {currency : CoverageCurrency} {left : ℚ}
    (whole : WholeIn currency left) (less : crossTake rate currency left share < left) :
    Filled rate (MemberOwed.raise currency (crossTake rate currency left share) share) := by
  have worth := price_pos positive currency
  have remains : remainingValue rate share * price rate currency ≤ left := by
    by_contra more
    have all : crossTake rate currency left share = left := by
      unfold crossTake
      rw [min_eq_left (not_le.mp more).le]
      exact roundAmount_of_whole whole
    linarith
  have near : remainingValue rate share * price rate currency - unit currency / 2 ≤ crossTake rate currency left share := by
    unfold crossTake
    rw [min_eq_right remains]
    exact le_roundAmount currency _
  have value : remainingValue rate share - unit currency / 2 / price rate currency ≤
      crossTake rate currency left share / price rate currency := by
    rw [le_div_iff₀ worth, sub_mul, div_mul_cancel₀ _ worth.ne']
    exact near
  have gap : valueAt rate share.member.amount - valueAt rate share.owed ≤ remainingValue rate share := le_max_right _ _
  unfold Filled
  rw [valueAt_raise (fair.whole currency) (crossTake_whole _ _ _ _)]
  change valueAt rate share.member.amount - _ ≤ _
  linarith [half_unit_value positive currency]

/-- A member that owes more has no more room. -/
theorem Filled.raise {share : MemberShare} (filled : Filled rate share) (fair : Fair rate share)
    {currency : CoverageCurrency} {left : ℚ} (some : 0 < crossTake rate currency left share) :
    Filled rate (MemberOwed.raise currency (crossTake rate currency left share) share) := by
  have more := div_pos some (price_pos positive currency)
  unfold Filled at filled ⊢
  rw [valueAt_raise (fair.whole currency) (crossTake_whole _ _ _ _)]
  change valueAt rate share.member.amount - _ ≤ _
  linarith

end

section
variable {rate : ℚ} {currency : CoverageCurrency}

theorem fillCross_done (shares : List MemberShare) {left : ℚ} (none : left ≤ 0) :
    fillCross rate currency shares left = (shares, left) := by
  cases shares with
  | nil => rfl
  | cons share rest => exact if_pos none

theorem fillCross_skip {share : MemberShare} {left : ℚ} (some : 0 < left)
    (nothing : crossTake rate currency left share ≤ 0) (rest : List MemberShare) :
    fillCross rate currency (share :: rest) left =
      (share :: (fillCross rate currency rest left).1, (fillCross rate currency rest left).2) := by
  rw [fillCross, if_neg (not_le.mpr some), if_pos nothing]

theorem fillCross_take {share : MemberShare} {left : ℚ} (some : 0 < left)
    (taken : 0 < crossTake rate currency left share) (rest : List MemberShare) :
    fillCross rate currency (share :: rest) left =
      (raise currency (crossTake rate currency left share) share ::
        (fillCross rate currency rest (roundAmount currency (left - crossTake rate currency left share))).1,
        (fillCross rate currency rest (roundAmount currency (left - crossTake rate currency left share))).2) := by
  rw [fillCross, if_neg (not_le.mpr some), if_neg (not_le.mpr taken)]

/-- What every share keeps when it is raised, all shares keep. -/
theorem fillCross_forall {P : MemberShare → Prop}
    (keeps : ∀ share left, P share → 0 < crossTake rate currency left share →
      P (raise currency (crossTake rate currency left share) share)) (shares : List MemberShare) (left : ℚ)
    (all : ∀ share ∈ shares, P share) : ∀ share ∈ (fillCross rate currency shares left).1, P share := by
  induction shares generalizing left with
  | nil => exact all
  | cons share rest ih =>
    obtain ⟨first, others⟩ := List.forall_mem_cons.mp all
    rcases le_or_gt left 0 with none | some
    · rw [fillCross_done _ none]
      exact all
    · rcases le_or_gt (crossTake rate currency left share) 0 with nothing | taken
      · rw [fillCross_skip some nothing]
        exact List.forall_mem_cons.mpr ⟨first, ih left others⟩
      · rw [fillCross_take some taken]
        exact List.forall_mem_cons.mpr ⟨keeps share left first taken, ih _ others⟩

theorem fillCross_members (shares : List MemberShare) (left : ℚ) :
    (fillCross rate currency shares left).1.map (·.member) = shares.map (·.member) := by
  induction shares generalizing left with
  | nil => rfl
  | cons share rest ih =>
    rcases le_or_gt left 0 with none | some
    · rw [fillCross_done _ none]
    · rcases le_or_gt (crossTake rate currency left share) 0 with nothing | taken
      · rw [fillCross_skip some nothing, List.map_cons, ih, List.map_cons]
      · rw [fillCross_take some taken, List.map_cons, ih, List.map_cons]
        rfl

/-- The other currency is left alone. -/
theorem fillCross_other {c : CoverageCurrency} (other : c ≠ currency) (shares : List MemberShare) (left : ℚ) :
    owedSum (fillCross rate currency shares left).1 c = owedSum shares c := by
  induction shares generalizing left with
  | nil => rfl
  | cons share rest ih =>
    rcases le_or_gt left 0 with none | some
    · rw [fillCross_done _ none]
    · rcases le_or_gt (crossTake rate currency left share) 0 with nothing | taken
      · rw [fillCross_skip some nothing, owedSum_cons, ih, owedSum_cons]
      · rw [fillCross_take some taken, owedSum_cons, ih, owedSum_cons]
        congr 1
        exact if_neg other

variable (positive : 0 < rate)
include positive

theorem crossTake_le_left {left : ℚ} (whole : WholeIn currency left) (nonneg : 0 ≤ left) (share : MemberShare) :
    crossTake rate currency left share ≤ left :=
  (taken_range whole nonneg (mul_nonneg (le_max_left 0 _) (price_pos positive currency).le)).2

/-- What is taken from the rest is what the members owe more. -/
theorem fillCross_left {shares : List MemberShare} (fair : ∀ share ∈ shares, Fair rate share) {left : ℚ}
    (whole : WholeIn currency left) (nonneg : 0 ≤ left) :
    owedSum (fillCross rate currency shares left).1 currency + (fillCross rate currency shares left).2 =
        owedSum shares currency + left ∧
      WholeIn currency (fillCross rate currency shares left).2 ∧ 0 ≤ (fillCross rate currency shares left).2 := by
  induction shares generalizing left with
  | nil => exact ⟨rfl, whole, nonneg⟩
  | cons share rest ih =>
    obtain ⟨first, others⟩ := List.forall_mem_cons.mp fair
    rcases le_or_gt left 0 with none | some
    · rw [fillCross_done _ none]
      exact ⟨rfl, whole, nonneg⟩
    · rcases le_or_gt (crossTake rate currency left share) 0 with nothing | taken
      · obtain ⟨sum, rest⟩ := ih others whole nonneg
        rw [fillCross_skip some nothing]
        refine ⟨?_, rest⟩
        rw [owedSum_cons, owedSum_cons, add_assoc, sum]
        ring
      · have wholeTaken := crossTake_whole rate currency left share
        have next : roundAmount currency (left - crossTake rate currency left share) =
            left - crossTake rate currency left share := roundAmount_of_whole (whole.sub wholeTaken)
        have below := crossTake_le_left positive whole nonneg share
        rw [fillCross_take some taken, next]
        obtain ⟨sum, rest⟩ := ih others (whole.sub wholeTaken) (sub_nonneg.mpr below)
        refine ⟨?_, rest⟩
        dsimp only
        rw [owedSum_cons, owedSum_cons, add_assoc, sum, raise_owed (first.whole currency) wholeTaken, if_pos rfl]
        ring

/-- When value is still left, no member has room. -/
theorem fillCross_filled {shares : List MemberShare} (fair : ∀ share ∈ shares, Fair rate share) {left : ℚ}
    (whole : WholeIn currency left) (some : 0 < (fillCross rate currency shares left).2) :
    ∀ share ∈ (fillCross rate currency shares left).1, Filled rate share := by
  induction shares generalizing left with
  | nil => exact fun _ none => nomatch none
  | cons share rest ih =>
    obtain ⟨first, others⟩ := List.forall_mem_cons.mp fair
    have start : 0 < left := by
      by_contra none
      rw [fillCross_done _ (not_lt.mp none)] at some
      exact none some
    rcases le_or_gt (crossTake rate currency left share) 0 with nothing | taken
    · rw [fillCross_skip start nothing] at some ⊢
      exact List.forall_mem_cons.mpr ⟨Filled.skip positive whole start nothing, ih others whole some⟩
    · have wholeTaken := crossTake_whole rate currency left share
      have next : roundAmount currency (left - crossTake rate currency left share) =
          left - crossTake rate currency left share := roundAmount_of_whole (whole.sub wholeTaken)
      rw [fillCross_take start taken, next] at some ⊢
      have less : crossTake rate currency left share < left := by
        by_contra all
        have none : left - crossTake rate currency left share ≤ 0 := sub_nonpos.mpr (not_lt.mp all)
        rw [fillCross_done _ none] at some
        exact absurd some (not_lt.mpr none)
      exact List.forall_mem_cons.mpr
        ⟨Filled.take positive first whole less, ih others (whole.sub wholeTaken) some⟩

end

/-! What no member has room for goes to the last one. -/

/-- The share of the last member in the order. -/
def raiseShare (left : Amounts) (share : MemberShare) : MemberShare :=
  { share with owed := fun c => if 0 < left c then roundAmount c (share.owed c + left c) else share.owed c }

theorem raiseLast_concat (left : Amounts) (others : List MemberShare) (last : MemberShare) :
    raiseLast left (others ++ [last]) = others ++ [raiseShare left last] := by
  induction others with
  | nil => rfl
  | cons share rest ih =>
    cases rest with
    | nil => rfl
    | cons next rest => exact congrArg (share :: ·) ih

theorem raiseShare_owed {left : Amounts} (whole : ∀ c, WholeIn c (left c)) (nonneg : ∀ c, 0 ≤ left c)
    {share : MemberShare} (wholeShare : ∀ c, WholeIn c (share.owed c)) :
    (raiseShare left share).owed = share.owed + left := by
  funext c
  change (if 0 < left c then roundAmount c (share.owed c + left c) else share.owed c) = share.owed c + left c
  split_ifs with some
  · exact roundAmount_of_whole ((wholeShare c).add (whole c))
  · rw [le_antisymm (not_lt.mp some) (nonneg c), add_zero]

theorem owedSum_append (xs ys : List MemberShare) (currency : CoverageCurrency) :
    owedSum (xs ++ ys) currency = owedSum xs currency + owedSum ys currency := by
  unfold owedSum
  rw [List.map_append, List.sum_append]

theorem valueAt_owedSum (rate : ℚ) (shares : List MemberShare) :
    valueAt rate (owedSum shares) = (shares.map fun share => valueAt rate share.owed).sum := by
  induction shares with
  | nil => exact (zero_add _).trans (zero_div rate)
  | cons share rest ih =>
    rw [List.map_cons, List.sum_cons, ← ih]
    unfold valueAt
    rw [owedSum_cons, owedSum_cons]
    ring

/-- All charges together. -/
def netCharges (rate : ℚ) (members : List BasketMemberShareInput) : ℚ :=
  (members.map fun member => valueAt rate member.amount).sum

theorem filled_netCharges {rate : ℚ} {shares : List MemberShare} (filled : ∀ share ∈ shares, Filled rate share) :
    netCharges rate (shares.map (·.member)) - valueAt rate (owedSum shares) ≤ shares.length * (valueAt rate unit / 2) := by
  rw [valueAt_owedSum]
  unfold netCharges
  induction shares with
  | nil => norm_num
  | cons share rest ih =>
    obtain ⟨first, others⟩ := List.forall_mem_cons.mp filled
    have tail := ih others
    unfold Filled at first
    simp only [List.map_cons, List.sum_cons, List.length_cons, Nat.cast_add, Nat.cast_one]
    linarith

/-! The allocation. -/

section
variable (rate : ℚ) (outstanding : Amounts) (members : List BasketMemberShareInput)

/-- The outstanding amounts, rounded. -/
def rounded : Amounts :=
  fun currency => roundAmount currency (max 0 (outstanding currency))

/-- The shares after the members charged in each currency. -/
def sameShares : List MemberShare × Amounts :=
  fillSame (fillOrder members) (rounded outstanding)

def usdShares : List MemberShare × ℚ :=
  fillCross rate .usd (sameShares outstanding members).1 ((sameShares outstanding members).2 .usd)

def lbpShares : List MemberShare × ℚ :=
  fillCross rate .lbp (usdShares rate outstanding members).1 ((sameShares outstanding members).2 .lbp)

def lastLeft : Amounts
  | .usd => (usdShares rate outstanding members).2
  | .lbp => (lbpShares rate outstanding members).2

theorem fillOrder_perm : (fillOrder members).Perm members := by
  unfold fillOrder byId
  have perm := ((List.perm_insertionSort (fun a b : BasketMemberShareInput => a.id ≤ b.id) _).append
    (List.perm_insertionSort (fun a b : BasketMemberShareInput => a.id ≤ b.id) _)).trans
    ((List.perm_append_comm).trans (List.filter_append_perm (·.isPrimary) members))
  exact perm

theorem lbpShares_members : (lbpShares rate outstanding members).1.map (·.member) = fillOrder members := by
  unfold lbpShares usdShares sameShares
  rw [fillCross_members, fillCross_members, fillSame_members]

theorem share_member {share : MemberShare} (here : share ∈ (lbpShares rate outstanding members).1) :
    share.member ∈ members := by
  have mapped := List.mem_map_of_mem (f := MemberShare.member) here
  rw [lbpShares_members] at mapped
  exact (fillOrder_perm members).mem_iff.mp mapped

variable {rate} (positive : 0 < rate)
include positive

theorem allocate_eq :
    allocateBasketMemberOwed outstanding members rate =
      (raiseLast (lastLeft rate outstanding members) (lbpShares rate outstanding members).1).map
        fun share => { id := share.member.id, owed := share.owed } := by
  unfold allocateBasketMemberOwed
  rw [usableRate_eq positive]
  rfl

theorem usdShares_fair : ∀ share ∈ (usdShares rate outstanding members).1, Fair rate share :=
  fillCross_forall (fun _ _ fair some => fair.raise positive some) _ _ (fillSame_fair positive _ _)

theorem lbpShares_fair : ∀ share ∈ (lbpShares rate outstanding members).1, Fair rate share :=
  fillCross_forall (fun _ _ fair some => fair.raise positive some) _ _ (usdShares_fair outstanding members positive)

/-- Everything is taken by the members or left for the last one. -/
theorem lastLeft_sound (currency : CoverageCurrency) :
    owedSum (lbpShares rate outstanding members).1 currency + lastLeft rate outstanding members currency =
        rounded outstanding currency ∧
      WholeIn currency (lastLeft rate outstanding members currency) ∧ 0 ≤ lastLeft rate outstanding members currency := by
  have same := fillSame_left (fillOrder members) (fun c => roundAmount_whole c (max 0 (outstanding c)))
    (fun c => roundAmount_nonneg (le_max_left 0 (outstanding c)))
  cases currency with
  | usd =>
    obtain ⟨sum, whole, nonneg⟩ := same .usd
    obtain ⟨cross, rest⟩ := fillCross_left positive (fillSame_fair positive (fillOrder members) (rounded outstanding))
      whole nonneg
    refine ⟨?_, rest⟩
    unfold lbpShares
    rw [fillCross_other (by decide)]
    exact cross.trans sum
  | lbp =>
    obtain ⟨sum, whole, nonneg⟩ := same .lbp
    obtain ⟨cross, rest⟩ := fillCross_left positive (usdShares_fair outstanding members positive) whole nonneg
    refine ⟨?_, rest⟩
    refine cross.trans ?_
    unfold usdShares
    rw [fillCross_other (by decide)]
    exact sum

theorem lbpShares_filled {currency : CoverageCurrency} (some : 0 < lastLeft rate outstanding members currency) :
    ∀ share ∈ (lbpShares rate outstanding members).1, Filled rate share := by
  have same := fillSame_left (fillOrder members) (fun c => roundAmount_whole c (max 0 (outstanding c)))
    (fun c => roundAmount_nonneg (le_max_left 0 (outstanding c)))
  cases currency with
  | usd =>
    have fair := usdShares_fair outstanding members positive
    have filled := fillCross_filled positive (fillSame_fair positive (fillOrder members) (rounded outstanding))
      (same .usd).2.1 some
    have keeps : ∀ share left, Fair rate share ∧ Filled rate share → 0 < crossTake rate .lbp left share →
        Fair rate (raise .lbp (crossTake rate .lbp left share) share) ∧
          Filled rate (raise .lbp (crossTake rate .lbp left share) share) :=
      fun _ _ kept some => ⟨kept.1.raise positive some, kept.2.raise positive kept.1 some⟩
    have both := fillCross_forall keeps (usdShares rate outstanding members).1 ((sameShares outstanding members).2 .lbp)
      fun share here => ⟨fair share here, filled share here⟩
    exact fun share here => (both share here).2
  | lbp => exact fillCross_filled positive (usdShares_fair outstanding members positive) (same .lbp).2.1 some

/-- What is left for the last member is a matter of rounding, unless more is outstanding than was charged. -/
theorem lastLeft_le (nonneg : ∀ currency, 0 ≤ outstanding currency)
    (covered : valueAt rate outstanding ≤ netCharges rate members) :
    valueAt rate (lastLeft rate outstanding members) ≤ (members.length + 1) * (valueAt rate unit / 2) := by
  have sound := lastLeft_sound outstanding members positive
  by_cases some : ∃ currency, 0 < lastLeft rate outstanding members currency
  · obtain ⟨currency, some⟩ := some
    have filled := filled_netCharges (lbpShares_filled outstanding members positive some)
    have length : (lbpShares rate outstanding members).1.length = members.length := by
      rw [← List.length_map (·.member), lbpShares_members, (fillOrder_perm members).length_eq]
    have charges : netCharges rate (fillOrder members) = netCharges rate members :=
      ((fillOrder_perm members).map _).sum_eq
    rw [lbpShares_members, length, charges] at filled
    have taken : valueAt rate (owedSum (lbpShares rate outstanding members).1) +
        valueAt rate (lastLeft rate outstanding members) = valueAt rate (rounded outstanding) := by
      rw [← valueAt_add]
      congr 1
      funext c
      exact (sound c).1
    have near : valueAt rate (rounded outstanding) ≤ valueAt rate (outstanding + fun c => unit c / 2) := by
      apply valueAt_mono positive
      intro c
      unfold rounded
      rw [max_eq_right (nonneg c)]
      exact roundAmount_le c (outstanding c)
    have half : valueAt rate (fun c => unit c / 2) = valueAt rate unit / 2 := by
      unfold valueAt
      ring
    rw [valueAt_add, half] at near
    linarith
  · have none : ∀ c, lastLeft rate outstanding members c = 0 := by
      intro c
      have le : ¬0 < lastLeft rate outstanding members c := fun more => some ⟨c, more⟩
      exact le_antisymm (not_lt.mp le) (sound c).2.2
    have zero : valueAt rate (lastLeft rate outstanding members) = 0 := by
      unfold valueAt
      rw [none, none, zero_div, add_zero]
    have worth := valueAt_mono positive fun c => (unit_pos c).le
    rw [zero]
    have least : (0 : ℚ) ≤ valueAt rate unit := by
      refine le_trans (le_of_eq ?_) worth
      unfold valueAt
      norm_num
    positivity

/-- The order ends with one member, and the others owe what they took. -/
theorem allocate_split (some : members ≠ []) :
    ∃ others last, (lbpShares rate outstanding members).1 = others ++ [last] ∧
      allocateBasketMemberOwed outstanding members rate =
        (others.map fun share => { id := share.member.id, owed := share.owed }) ++
          [{ id := last.member.id, owed := last.owed + lastLeft rate outstanding members }] := by
  have sound := lastLeft_sound outstanding members positive
  rcases List.eq_nil_or_concat (lbpShares rate outstanding members).1 with none | ⟨others, last, split⟩
  · have empty := lbpShares_members rate outstanding members
    rw [none, List.map_nil] at empty
    exact absurd (empty ▸ fillOrder_perm members).nil_eq.symm some
  · rw [List.concat_eq_append] at split
    refine ⟨others, last, split, ?_⟩
    have whole := (lbpShares_fair outstanding members positive last (by simp [split])).whole
    rw [allocate_eq outstanding members positive, split, raiseLast_concat, List.map_append, List.map_singleton,
      raiseShare_owed (fun c => (sound c).2.1) (fun c => (sound c).2.2) whole]
    rfl

/-- The members owe together what is outstanding, to the unit. -/
theorem allocate_sum (some : members ≠ []) (currency : CoverageCurrency) :
    ((allocateBasketMemberOwed outstanding members rate).map fun o => o.owed currency).sum =
      rounded outstanding currency := by
  obtain ⟨others, last, split, eq⟩ := allocate_split outstanding members positive some
  rw [eq, ← (lastLeft_sound outstanding members positive currency).1, split, owedSum_append, List.map_append,
    List.sum_append, List.map_map]
  change owedSum others currency + (last.owed currency + lastLeft rate outstanding members currency + 0) =
    owedSum others currency + (last.owed currency + 0) + lastLeft rate outstanding members currency
  ring

/-- Every member has one share. -/
theorem allocate_ids :
    ((allocateBasketMemberOwed outstanding members rate).map (·.id)).Perm (members.map (·.id)) := by
  by_cases none : members = []
  · rw [none]
    exact List.Perm.refl _
  · obtain ⟨others, last, split, eq⟩ := allocate_split outstanding members positive none
    have ids : (allocateBasketMemberOwed outstanding members rate).map (·.id) = (fillOrder members).map (·.id) := by
      rw [eq, ← lbpShares_members rate outstanding, split]
      simp only [List.map_append, List.map_map, List.map_cons, List.map_nil]
      rfl
    rw [ids]
    exact (fillOrder_perm members).map _

/-- No member but the last owes more than its charge, but for rounding. -/
theorem allocate_charge :
    ∀ o ∈ (allocateBasketMemberOwed outstanding members rate).dropLast, ∃ member ∈ members, member.id = o.id ∧
      valueAt rate o.owed ≤ charge rate member + valueAt rate unit / 2 := by
  intro o here
  by_cases none : members = []
  · rw [none] at here
    cases here
  · obtain ⟨others, last, split, eq⟩ := allocate_split outstanding members positive none
    rw [eq, List.dropLast_concat] at here
    obtain ⟨share, member, rfl⟩ := List.mem_map.mp here
    have inside : share ∈ (lbpShares rate outstanding members).1 := by
      rw [split]
      exact List.mem_append_left _ member
    exact ⟨share.member, share_member rate outstanding members inside, rfl,
      (lbpShares_fair outstanding members positive share inside).bound⟩

/-- The last member is given what rounding leaves of every other. -/
theorem allocate_last (nonneg : ∀ currency, 0 ≤ outstanding currency)
    (covered : valueAt rate outstanding ≤ netCharges rate members) :
    ∀ o ∈ (allocateBasketMemberOwed outstanding members rate).getLast?, ∃ member ∈ members, member.id = o.id ∧
      valueAt rate o.owed ≤ charge rate member + (members.length + 2) * (valueAt rate unit / 2) := by
  intro o here
  by_cases none : members = []
  · rw [none] at here
    cases here
  · obtain ⟨others, last, split, eq⟩ := allocate_split outstanding members positive none
    rw [eq, List.getLast?_concat] at here
    cases here
    have inside : last ∈ (lbpShares rate outstanding members).1 := by
      rw [split]
      exact List.mem_append_right _ (List.mem_singleton_self last)
    have fair := (lbpShares_fair outstanding members positive last inside).bound
    have left := lastLeft_le outstanding members positive nonneg covered
    refine ⟨last.member, share_member rate outstanding members inside, rfl, ?_⟩
    dsimp only
    rw [valueAt_add]
    linarith

end

end Liratek.Basket.MemberOwed
