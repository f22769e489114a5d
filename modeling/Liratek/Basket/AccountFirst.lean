import Liratek.Basket.ItemRefund

/-! What an item refund takes off the account's charge and out of the pool, against what the item is worth. -/

namespace Liratek.Basket.AccountFirst
open Lib Lib.Rounding Members MemberOwed ItemRefund
open Money.LargestRemainder (mathRound)

/-! The value of amounts. -/

section
variable {rate : ℚ}

theorem valueAt_nonneg (positive : 0 < rate) {a : Amounts} (nonneg : ∀ c, 0 ≤ a c) : 0 ≤ valueAt rate a :=
  add_nonneg (nonneg .usd) (div_nonneg (nonneg .lbp) positive.le)

theorem valueAt_unit (rate : ℚ) : valueAt rate unit = 1 / 100 + 1 / rate := by
  change 1 / 100 + 1 / 1 / rate = _
  rw [div_one]

theorem valueAt_update (rate : ℚ) (a : Amounts) (c : CoverageCurrency) (x : ℚ) :
    valueAt rate (Function.update a c x) = valueAt rate a + (x - a c) / price rate c := by
  cases c with
  | usd =>
    simp only [valueAt, price, Function.update_self, ne_eq, reduceCtorEq, not_false_eq_true, Function.update_of_ne]
    ring
  | lbp =>
    simp only [valueAt, price, Function.update_self, ne_eq, reduceCtorEq, not_false_eq_true, Function.update_of_ne]
    ring

/-- Of two currencies only one holds something. -/
theorem valueAt_single (rate : ℚ) {a : Amounts} {src dst : CoverageCurrency} (apart : src ≠ dst) (nothing : a dst = 0) :
    valueAt rate a = a src / price rate src := by
  cases src with
  | usd =>
    cases dst with
    | usd => exact absurd rfl apart
    | lbp => rw [valueAt, nothing, price, zero_div, add_zero, div_one]
  | lbp =>
    cases dst with
    | usd => rw [valueAt, nothing, zero_add, price]
    | lbp => exact absurd rfl apart

theorem exchange_value (rate : ℚ) {src dst : CoverageCurrency} (amount : ℚ) (positive : 0 < rate) :
    exchange rate src dst amount / price rate dst = amount / price rate src :=
  mul_div_cancel_right₀ _ (price_pos positive dst).ne'

end

/-! Account first. -/

section
variable {rate : ℚ} {item chargeRemaining : Amounts} {a : Attribution}

/-- What comes off the charge comes off the item, at the rate. -/
structure Attributed (rate : ℚ) (item chargeRemaining : Amounts) (a : Attribution) : Prop where
  value : valueAt rate a.account + valueAt rate a.leftoverItem = valueAt rate item
  charge : ∀ c, a.account c + a.leftoverCharge c = chargeRemaining c
  account : ∀ c, 0 ≤ a.account c
  leftoverCharge : ∀ c, 0 ≤ a.leftoverCharge c
  whole : ∀ c, WholeIn c (a.leftoverCharge c)

theorem sameCurrencyFirst_attributed (itemNonneg : ∀ c, 0 ≤ item c) (itemWhole : ∀ c, WholeIn c (item c))
    (chargeNonneg : ∀ c, 0 ≤ chargeRemaining c) (chargeWhole : ∀ c, WholeIn c (chargeRemaining c)) :
    Attributed rate item chargeRemaining (sameCurrencyFirst item chargeRemaining) where
  value := by
    rw [← valueAt_add]
    congr 1
    funext c
    exact add_sub_cancel _ _
  charge c := add_sub_cancel _ _
  account c := le_min (itemNonneg c) (chargeNonneg c)
  leftoverCharge c := sub_nonneg.mpr (min_le_right _ _)
  whole c := (chargeWhole c).sub ((itemWhole c).min (chargeWhole c))

/-- Nothing is left of the item, or nothing of the charge in its currency. -/
theorem sameCurrencyFirst_apart (item chargeRemaining : Amounts) (c : CoverageCurrency) :
    (sameCurrencyFirst item chargeRemaining).leftoverItem c = 0 ∨
      (sameCurrencyFirst item chargeRemaining).leftoverCharge c = 0 := by
  rcases min_choice (item c) (chargeRemaining c) with isItem | isCharge
  · exact Or.inl (sub_eq_zero.mpr isItem.symm)
  · exact Or.inr (sub_eq_zero.mpr isCharge.symm)

/-- The step that takes what is left of the item in one currency from the charge in the other. -/
def crossed (rate : ℚ) (src dst : CoverageCurrency) (a : Attribution) : Attribution :=
  let take := accountTake rate src dst a
  { account := Function.update a.account dst (a.account dst + take)
    leftoverItem := Function.update a.leftoverItem src (a.leftoverItem src - exchange rate dst src take)
    leftoverCharge := Function.update a.leftoverCharge dst (a.leftoverCharge dst - take) }

theorem crossed_account (rate : ℚ) (src dst : CoverageCurrency) (a : Attribution) (c : CoverageCurrency) :
    (crossed rate src dst a).account c = if c = dst then a.account c + accountTake rate src dst a else a.account c := by
  unfold crossed
  dsimp only
  rw [Function.update_apply]
  split_ifs with this
  · rw [this]
  · rfl

theorem crossed_leftoverCharge (rate : ℚ) (src dst : CoverageCurrency) (a : Attribution) (c : CoverageCurrency) :
    (crossed rate src dst a).leftoverCharge c =
      if c = dst then a.leftoverCharge c - accountTake rate src dst a else a.leftoverCharge c := by
  unfold crossed
  dsimp only
  rw [Function.update_apply]
  split_ifs with this
  · rw [this]
  · rfl

theorem accountTake_range (positive : 0 < rate) {src dst : CoverageCurrency} (itemNonneg : 0 ≤ a.leftoverItem src)
    (chargeNonneg : 0 ≤ a.leftoverCharge dst) (whole : WholeIn dst (a.leftoverCharge dst)) :
    0 ≤ accountTake rate src dst a ∧ accountTake rate src dst a ≤ a.leftoverCharge dst := by
  rw [accountTake, roundToUnit_unit]
  have worth : 0 ≤ exchange rate src dst (a.leftoverItem src) :=
    mul_nonneg (div_nonneg itemNonneg (price_pos positive src).le) (price_pos positive dst).le
  exact ⟨roundAmount_nonneg (le_min worth chargeNonneg), roundAmount_le_of_whole whole (min_le_right _ _)⟩

theorem crossed_attributed (positive : 0 < rate) {src dst : CoverageCurrency}
    (attributed : Attributed rate item chargeRemaining a) (itemNonneg : 0 ≤ a.leftoverItem src) :
    Attributed rate item chargeRemaining (crossed rate src dst a) where
  value := by
    have step : exchange rate dst src (accountTake rate src dst a) / price rate src =
        accountTake rate src dst a / price rate dst :=
      exchange_value rate _ positive
    change valueAt rate (Function.update a.account dst _) + valueAt rate (Function.update a.leftoverItem src _) = _
    rw [valueAt_update, valueAt_update, add_sub_cancel_left, sub_sub_cancel_left, neg_div, step, ← attributed.value]
    ring
  charge c := by
    rw [crossed_account, crossed_leftoverCharge, ← attributed.charge c]
    split_ifs
    · ring
    · rfl
  account c := by
    rw [crossed_account]
    split_ifs with this
    · exact add_nonneg (attributed.account c)
        (accountTake_range positive itemNonneg (attributed.leftoverCharge dst) (attributed.whole dst)).1
    · exact attributed.account c
  leftoverCharge c := by
    rw [crossed_leftoverCharge]
    split_ifs with this
    · subst this
      exact sub_nonneg.mpr (accountTake_range positive itemNonneg (attributed.leftoverCharge c) (attributed.whole c)).2
    · exact attributed.leftoverCharge c
  whole c := by
    rw [crossed_leftoverCharge]
    split_ifs with this
    · subst this
      rw [accountTake, roundToUnit_unit]
      exact (attributed.whole c).sub (roundAmount_whole c _)
    · exact attributed.whole c

/-- After the step the item has nothing left but for rounding, or the charge has nothing left in the other currency. -/
theorem crossed_left (positive : 0 < rate) (src : CoverageCurrency) {dst : CoverageCurrency} (whole : WholeIn dst (a.leftoverCharge dst)) :
    -(unit dst / 2 / price rate dst) ≤ (crossed rate src dst a).leftoverItem src / price rate src ∧
      ((crossed rate src dst a).leftoverItem src / price rate src ≤ unit dst / 2 / price rate dst ∨
        (crossed rate src dst a).leftoverCharge dst = 0) := by
  have paid := price_pos positive dst
  -- what is left of the item is what was there less the take, each at its price
  have left : (crossed rate src dst a).leftoverItem src / price rate src =
      (exchange rate src dst (a.leftoverItem src) - accountTake rate src dst a) / price rate dst := by
    change Function.update a.leftoverItem src _ src / _ = _
    rw [Function.update_self, sub_div, sub_div, exchange_value rate _ positive, exchange_value rate _ positive]
  rw [left, crossed_leftoverCharge, if_pos rfl, ← neg_div, accountTake, roundToUnit_unit]
  have above := roundAmount_le dst (min (exchange rate src dst (a.leftoverItem src)) (a.leftoverCharge dst))
  have below := le_roundAmount dst (min (exchange rate src dst (a.leftoverItem src)) (a.leftoverCharge dst))
  have least := min_le_left (exchange rate src dst (a.leftoverItem src)) (a.leftoverCharge dst)
  refine ⟨div_le_div_of_nonneg_right (by linarith) paid.le, ?_⟩
  rcases min_choice (exchange rate src dst (a.leftoverItem src)) (a.leftoverCharge dst) with isItem | isCharge
  · rw [isItem] at below ⊢
    exact Or.inl (div_le_div_of_nonneg_right (by linarith) paid.le)
  · refine Or.inr ?_
    rw [isCharge, roundAmount_of_whole whole, sub_self]

/-! What is asked of the pool. -/

/-- A leftover of one pound is dropped. -/
def askedOfPool (rate : ℚ) (a : Attribution) : ℚ :=
  a.leftoverItem .usd + if 1 < a.leftoverItem .lbp then a.leftoverItem .lbp / rate else 0

/-- What an amount too small for a conversion is worth at most. -/
def dustValue (rate : ℚ) : ℚ :=
  1 / 200 + 1 / rate

/-- What the account leaves: next to nothing of the item or next to nothing of the charge, and the pool is asked for the rest
of the item. -/
structure LeavesRest (rate : ℚ) (a : Attribution) : Prop where
  above : -(valueAt rate unit / 2) ≤ valueAt rate a.leftoverItem
  done : valueAt rate a.leftoverItem ≤ dustValue rate ∨ valueAt rate a.leftoverCharge ≤ dustValue rate
  asked_ge : valueAt rate a.leftoverItem - 1 / rate ≤ askedOfPool rate a
  asked_le : askedOfPool rate a ≤ max 0 (valueAt rate a.leftoverItem)

theorem askedOfPool_ge (positive : 0 < rate) (a : Attribution) :
    valueAt rate a.leftoverItem - 1 / rate ≤ askedOfPool rate a := by
  unfold askedOfPool valueAt
  have one := one_div_pos.mpr positive
  split_ifs with large
  · linarith
  · have small : a.leftoverItem .lbp / rate ≤ 1 / rate := div_le_div_of_nonneg_right (not_lt.mp large) positive.le
    linarith

theorem askedOfPool_le (positive : 0 < rate) (below : 0 ≤ a.leftoverItem .lbp ∨ a.leftoverItem .usd = 0) :
    askedOfPool rate a ≤ max 0 (valueAt rate a.leftoverItem) := by
  unfold askedOfPool
  split_ifs with large
  · exact le_max_right 0 (valueAt rate a.leftoverItem)
  · rw [add_zero]
    rcases below with nonneg | nothing
    · exact le_max_of_le_right (le_add_of_nonneg_right (div_nonneg nonneg positive.le))
    · exact le_max_of_le_left nothing.le

/-- The half of the other currency's unit that rounding may miss. -/
theorem half_unit_range (positive : 0 < rate) (c : CoverageCurrency) :
    0 ≤ unit c / 2 / price rate c ∧ unit c / 2 / price rate c ≤ valueAt rate unit / 2 ∧
      unit c / 2 / price rate c ≤ dustValue rate := by
  have one := one_div_pos.mpr positive
  have half : unit c / 2 / price rate c = unit c / price rate c / 2 := by ring
  have most := unit_le_value positive c
  refine ⟨div_nonneg (half_pos (unit_pos c)).le (price_pos positive c).le, by linarith, ?_⟩
  rw [half]
  cases c with
  | usd =>
    change 1 / 100 / 1 / 2 ≤ 1 / 200 + 1 / rate
    linarith
  | lbp =>
    change 1 / 1 / rate / 2 ≤ 1 / 200 + 1 / rate
    rw [div_one]
    linarith

theorem crossed_leavesRest (positive : 0 < rate) {src dst : CoverageCurrency} (apart : src ≠ dst)
    (itemOnly : a.leftoverItem dst = 0) (chargeOnly : a.leftoverCharge src = 0) (whole : WholeIn dst (a.leftoverCharge dst)) :
    LeavesRest rate (crossed rate src dst a) := by
  obtain ⟨nonneg, halfSlack, halfDust⟩ := half_unit_range positive dst
  obtain ⟨above, below⟩ := crossed_left positive src whole
  have item : (crossed rate src dst a).leftoverItem dst = 0 :=
    (Function.update_of_ne apart.symm _ _).trans itemOnly
  have charge : (crossed rate src dst a).leftoverCharge src = 0 := by
    rw [crossed_leftoverCharge, if_neg apart, chargeOnly]
  have worth := valueAt_single rate apart item
  refine ⟨?_, ?_, askedOfPool_ge positive _, askedOfPool_le positive ?_⟩
  · rw [worth]
    linarith
  · rcases below with rounding | nothing
    · rw [worth]
      exact Or.inl (rounding.trans halfDust)
    · rw [valueAt_single rate apart.symm charge, nothing, zero_div]
      exact Or.inr (nonneg.trans halfDust)
  · cases src with
    | usd =>
      cases dst with
      | usd => exact absurd rfl apart
      | lbp => exact Or.inl item.ge
    | lbp =>
      cases dst with
      | usd => exact Or.inr item
      | lbp => exact absurd rfl apart

/-- Where no step is taken, what is left of the item or of the charge is too small for one. -/
theorem uncrossed_leavesRest (positive : 0 < rate) (itemNonneg : ∀ c, 0 ≤ a.leftoverItem c)
    (apart : ∀ c, a.leftoverItem c = 0 ∨ a.leftoverCharge c = 0)
    (dollars : ¬(dust .usd < a.leftoverItem .usd ∧ dust .lbp < a.leftoverCharge .lbp))
    (pounds : ¬(dust .lbp < a.leftoverItem .lbp ∧ dust .usd < a.leftoverCharge .usd)) : LeavesRest rate a := by
  have one := one_div_pos.mpr positive
  have small {x : ℚ} (le : x ≤ dust .lbp) : x / rate ≤ 1 / rate := div_le_div_of_nonneg_right le positive.le
  have slack : 0 ≤ valueAt rate unit := valueAt_nonneg positive fun c => (unit_pos c).le
  refine ⟨?_, ?_, askedOfPool_ge positive a, askedOfPool_le positive (Or.inl (itemNonneg .lbp))⟩
  · linarith [valueAt_nonneg positive itemNonneg]
  · unfold valueAt dustValue
    have cent : dust .usd = 1 / 200 := rfl
    rcases apart .usd with noDollars | paidDollars
    · rcases apart .lbp with noPounds | paidPounds
      · rw [noDollars, noPounds, zero_div]
        exact Or.inl (by linarith)
      · rcases not_and_or.mp pounds with few | free
        · exact Or.inl (by linarith [small (not_lt.mp few)])
        · rw [paidPounds, zero_div]
          exact Or.inr (by linarith [not_lt.mp free])
    · rcases apart .lbp with noPounds | paidPounds
      · rcases not_and_or.mp dollars with few | free
        · rw [noPounds, zero_div]
          exact Or.inl (by linarith [not_lt.mp few])
        · exact Or.inr (by linarith [small (not_lt.mp free)])
      · rw [paidDollars, paidPounds, zero_div]
        exact Or.inr (by linarith)

/-- The two currencies are never crossed both ways. -/
theorem accountFirst_attributed (positive : 0 < rate) (itemNonneg : ∀ c, 0 ≤ item c) (itemWhole : ∀ c, WholeIn c (item c))
    (chargeNonneg : ∀ c, 0 ≤ chargeRemaining c) (chargeWhole : ∀ c, WholeIn c (chargeRemaining c)) :
    Attributed rate item chargeRemaining (accountFirst rate item chargeRemaining) ∧
      LeavesRest rate (accountFirst rate item chargeRemaining) := by
  have same : Attributed rate item chargeRemaining (sameCurrencyFirst item chargeRemaining) :=
    sameCurrencyFirst_attributed itemNonneg itemWhole chargeNonneg chargeWhole
  have apart := sameCurrencyFirst_apart item chargeRemaining
  have left (c : CoverageCurrency) : 0 ≤ (sameCurrencyFirst item chargeRemaining).leftoverItem c :=
    sub_nonneg.mpr (min_le_left _ _)
  have some (c : CoverageCurrency) : 0 < dust c := by
    cases c <;> norm_num [dust, pair]
  unfold accountFirst
  generalize sameCurrencyFirst item chargeRemaining = a at same apart left
  by_cases dollars : dust .usd < a.leftoverItem .usd ∧ dust .lbp < a.leftoverCharge .lbp
  · have noPounds := (apart .lbp).resolve_right ((some .lbp).trans dollars.2).ne'
    have paidDollars := (apart .usd).resolve_left ((some .usd).trans dollars.1).ne'
    have first : crossCurrency rate .usd .lbp a = crossed rate .usd .lbp a := if_pos dollars
    have second : crossCurrency rate .lbp .usd (crossed rate .usd .lbp a) = crossed rate .usd .lbp a :=
      if_neg fun both => by
        have still : (crossed rate .usd .lbp a).leftoverItem .lbp = 0 := noPounds
        rw [still] at both
        exact absurd both.1 (not_lt.mpr (some .lbp).le)
    rw [first, second]
    exact ⟨crossed_attributed positive same (left .usd),
      crossed_leavesRest positive (by decide) noPounds paidDollars (same.whole .lbp)⟩
  · have first : crossCurrency rate .usd .lbp a = a := if_neg dollars
    rw [first]
    by_cases pounds : dust .lbp < a.leftoverItem .lbp ∧ dust .usd < a.leftoverCharge .usd
    · have second : crossCurrency rate .lbp .usd a = crossed rate .lbp .usd a := if_pos pounds
      rw [second]
      exact ⟨crossed_attributed positive same (left .lbp),
        crossed_leavesRest positive (by decide) ((apart .usd).resolve_right ((some .usd).trans pounds.2).ne')
          ((apart .lbp).resolve_left ((some .lbp).trans pounds.1).ne') (same.whole .usd)⟩
    · have second : crossCurrency rate .lbp .usd a = a := if_neg pounds
      rw [second]
      exact ⟨same, uncrossed_leavesRest positive left apart dollars pounds⟩

end

/-! Out of the pool. -/

/-- A currency that was not paid in has nothing to give. -/
structure PoolInUnits (pool : Pool) : Prop where
  nonneg : ∀ c, 0 ≤ pool.available c
  whole : ∀ c, WholeIn c (pool.available c)
  paidIn : ∀ c, pool.totalIn c ≤ 0 → pool.available c = 0

/-- What is asked of the pool comes out of it as far as the pool reaches, and no more. -/
structure GivenBack (rate : ℚ) (available : Amounts) (asked : ℚ) (split : Amounts) : Prop where
  nonneg : ∀ c, 0 ≤ split c
  le : ∀ c, split c ≤ available c
  whole : ∀ c, WholeIn c (split c)
  value_le : valueAt rate split ≤ max 0 asked + valueAt rate unit / 2
  le_value : min asked (valueAt rate available) - valueAt rate unit / 2 ≤ valueAt rate split

section
variable {rate asked : ℚ} {available : Amounts} {pool : Pool}

theorem forall_currency {P : CoverageCurrency → Prop} (usd : P .usd) (lbp : P .lbp) (c : CoverageCurrency) : P c := by
  cases c with
  | usd => exact usd
  | lbp => exact lbp

/-- An amount of each currency within the pool, near what is asked or all there is. -/
theorem givenBack_pair (positive : 0 < rate) {usd lbp : ℚ} (whole : ∀ c, WholeIn c (available c))
    (usdNonneg : 0 ≤ usd) (lbpNonneg : 0 ≤ lbp) (usdLe : usd ≤ available .usd) (lbpLe : lbp ≤ available .lbp)
    (lbpWhole : WholeIn .lbp lbp) (askedNonneg : 0 ≤ asked) (above : usd + lbp / rate ≤ asked + 1 / rate / 2)
    (below : asked - 1 / rate / 2 ≤ usd + lbp / rate ∨ usd = available .usd ∧ lbp = available .lbp) :
    GivenBack rate available asked (pair (roundAmount .usd usd) lbp) := by
  have one := one_div_pos.mpr positive
  have slack := valueAt_unit rate
  have cent : unit .usd = 1 / 100 := rfl
  have up := roundAmount_le .usd usd
  have down := le_roundAmount .usd usd
  rw [cent] at up down
  have worth : valueAt rate (pair (roundAmount .usd usd) lbp) = roundAmount .usd usd + lbp / rate := rfl
  have rounded : 0 ≤ roundAmount .usd usd := roundAmount_nonneg usdNonneg
  refine ⟨forall_currency rounded lbpNonneg,
    forall_currency (roundAmount_le_of_whole (whole .usd) usdLe) lbpLe,
    forall_currency (roundAmount_whole .usd usd) lbpWhole, ?_, ?_⟩
  · rw [worth, slack, max_eq_right askedNonneg]
    linarith
  · rw [worth, slack]
    rcases below with near | ⟨allUsd, allLbp⟩
    · linarith [min_le_left asked (valueAt rate available)]
    · rw [allUsd, allLbp, roundAmount_of_whole (whole .usd)]
      have all : valueAt rate available = available .usd + available .lbp / rate := rfl
      linarith [min_le_right asked (valueAt rate available)]

/-- Pounds for an amount in dollars. -/
theorem pounds_near (positive : 0 < rate) (x : ℚ) :
    x - 1 / rate / 2 ≤ roundAmount .lbp (x * rate) / rate ∧ roundAmount .lbp (x * rate) / rate ≤ x + 1 / rate / 2 := by
  have pound : unit .lbp = 1 := div_one 1
  have up := div_le_div_of_nonneg_right (roundAmount_le .lbp (x * rate)) positive.le
  have down := div_le_div_of_nonneg_right (le_roundAmount .lbp (x * rate)) positive.le
  rw [pound, add_div, mul_div_cancel_right₀ _ positive.ne'] at up
  rw [pound, sub_div, mul_div_cancel_right₀ _ positive.ne'] at down
  have half : (1 : ℚ) / 2 / rate = 1 / rate / 2 := by ring
  rw [half] at up down
  exact ⟨down, up⟩

theorem splitMixedPool_givenBack (positive : 0 < rate) (inUnits : PoolInUnits pool) (askedNonneg : 0 ≤ asked) :
    GivenBack rate pool.available asked (splitMixedPool pool rate asked) := by
  have share : 0 ≤ (if 0 < max 0 (pool.net .usd) + max 0 (pool.net .lbp) / rate then
        max 0 (pool.net .usd) / (max 0 (pool.net .usd) + max 0 (pool.net .lbp) / rate) else 1) ∧
      (if 0 < max 0 (pool.net .usd) + max 0 (pool.net .lbp) / rate then
        max 0 (pool.net .usd) / (max 0 (pool.net .usd) + max 0 (pool.net .lbp) / rate) else 1) ≤ 1 := by
    have dollars := le_max_left 0 (pool.net .usd)
    have pounds : 0 ≤ max 0 (pool.net .lbp) / rate := div_nonneg (le_max_left 0 _) positive.le
    split_ifs with some
    · exact ⟨div_nonneg dollars some.le, (div_le_one some).mpr (le_add_of_nonneg_right pounds)⟩
    · exact ⟨zero_le_one, le_rfl⟩
  unfold splitMixedPool
  dsimp only
  generalize (if 0 < max 0 (pool.net .usd) + max 0 (pool.net .lbp) / rate then
    max 0 (pool.net .usd) / (max 0 (pool.net .usd) + max 0 (pool.net .lbp) / rate) else 1) = usdShare at share
  -- the dollars first, by their part of the pool
  have part : 0 ≤ asked * usdShare ∧ asked * usdShare ≤ asked :=
    ⟨mul_nonneg askedNonneg share.1, mul_le_of_le_one_right askedNonneg share.2⟩
  have usdNonneg : 0 ≤ min (asked * usdShare) (pool.available .usd) := le_min part.1 (inUnits.nonneg .usd)
  have usdLe : min (asked * usdShare) (pool.available .usd) ≤ asked := (min_le_left _ _).trans part.2
  have usdHeld := min_le_right (asked * usdShare) (pool.available .usd)
  generalize min (asked * usdShare) (pool.available .usd) = usd at usdNonneg usdLe usdHeld
  -- then the pounds, and what they fall short of out of the dollars again
  have near := pounds_near positive (asked - usd)
  have wantedNonneg : 0 ≤ roundAmount .lbp ((asked - usd) * rate) :=
    roundAmount_nonneg (mul_nonneg (sub_nonneg.mpr usdLe) positive.le)
  have wantedWhole := roundAmount_whole .lbp ((asked - usd) * rate)
  have cent : (1 / 100 : ℚ) = unit .usd := rfl
  have pounds : ((mathRound ((asked - usd) * rate) : ℤ) : ℚ) = roundAmount .lbp ((asked - usd) * rate) := rfl
  rw [cent, pounds, roundToUnit_unit]
  generalize roundAmount .lbp ((asked - usd) * rate) = wanted at near wantedNonneg wantedWhole
  have lbpNonneg : 0 ≤ min wanted (pool.available .lbp) := le_min wantedNonneg (inUnits.nonneg .lbp)
  split_ifs with short
  · have shortfall : 0 ≤ (wanted - min wanted (pool.available .lbp)) / rate :=
      div_nonneg (sub_nonneg.mpr (min_le_left _ _)) positive.le
    have least := min_le_left (usd + (wanted - min wanted (pool.available .lbp)) / rate) (pool.available .usd)
    have parts : (wanted - min wanted (pool.available .lbp)) / rate =
      wanted / rate - min wanted (pool.available .lbp) / rate := sub_div _ _ _
    refine givenBack_pair positive inUnits.whole (le_min (add_nonneg usdNonneg shortfall) (inUnits.nonneg .usd)) lbpNonneg
      (min_le_right _ _) (min_le_right _ _) (wantedWhole.min (inUnits.whole .lbp)) askedNonneg (by linarith) ?_
    rcases min_choice (usd + (wanted - min wanted (pool.available .lbp)) / rate) (pool.available .usd) with given | all
    · rw [given, parts]
      exact Or.inl (by linarith)
    · refine Or.inr ⟨all, min_eq_right ?_⟩
      exact le_of_not_ge fun le => short.ne (min_eq_left le)
  · have enough : min wanted (pool.available .lbp) = wanted := le_antisymm (min_le_left _ _) (not_lt.mp short)
    rw [enough]
    exact givenBack_pair positive inUnits.whole usdNonneg wantedNonneg usdHeld (enough.symm.le.trans (min_le_right _ _))
      wantedWhole askedNonneg (by linarith) (Or.inl (by linarith))

theorem splitAcrossPoolCurrencyMix_givenBack (positive : 0 < rate) (inUnits : PoolInUnits pool) :
    GivenBack rate pool.available asked (splitAcrossPoolCurrencyMix pool rate asked) := by
  have one := one_div_pos.mpr positive
  have slack := valueAt_unit rate
  have nothing (least : min asked (valueAt rate pool.available) ≤ 1 / 200) : GivenBack rate pool.available asked 0 := by
    have none : valueAt rate (0 : Amounts) = 0 := by rw [valueAt, Pi.zero_apply, Pi.zero_apply, zero_div, add_zero]
    refine ⟨fun _ => le_rfl, inUnits.nonneg, fun _ => whole_zero _, ?_, ?_⟩
    · rw [none]
      linarith [le_max_left 0 asked]
    · rw [none]
      linarith
  unfold splitAcrossPoolCurrencyMix
  split_ifs with few noPool dollarsOnly poundsOnly
  · exact nothing ((min_le_left _ _).trans few)
  · refine nothing ((min_le_right _ _).trans ?_)
    rw [valueAt, inUnits.paidIn .usd noPool.1, inUnits.paidIn .lbp noPool.2, zero_div, add_zero]
    norm_num
  all_goals have askedNonneg : 0 ≤ asked := by linarith
  · have noPounds := inUnits.paidIn .lbp dollarsOnly
    change GivenBack rate pool.available asked (pair (roundToUnit (min asked (pool.available .usd)) (unit .usd)) 0)
    rw [roundToUnit_unit]
    refine givenBack_pair positive inUnits.whole (le_min askedNonneg (inUnits.nonneg .usd)) le_rfl (min_le_right _ _)
      noPounds.ge (whole_zero _) askedNonneg ?_ ?_
    · linarith [zero_div rate, min_le_left asked (pool.available .usd)]
    · rcases min_choice asked (pool.available .usd) with isAsked | all
      · rw [isAsked]
        exact Or.inl (by linarith [zero_div rate])
      · exact Or.inr ⟨all, noPounds.symm⟩
  · have noDollars := inUnits.paidIn .usd poundsOnly
    change GivenBack rate pool.available asked (pair 0 (min (roundAmount .lbp (asked * rate)) (pool.available .lbp)))
    have near := pounds_near positive asked
    have wantedNonneg : 0 ≤ roundAmount .lbp (asked * rate) := roundAmount_nonneg (mul_nonneg askedNonneg positive.le)
    have least := div_le_div_of_nonneg_right (min_le_left (roundAmount .lbp (asked * rate)) (pool.available .lbp)) positive.le
    rw [← roundAmount_of_whole (whole_zero (scale .usd))]
    refine givenBack_pair positive inUnits.whole le_rfl (le_min wantedNonneg (inUnits.nonneg .lbp)) noDollars.ge
      (min_le_right _ _) ((roundAmount_whole .lbp _).min (inUnits.whole .lbp)) askedNonneg (by linarith) ?_
    rcases min_choice (roundAmount .lbp (asked * rate)) (pool.available .lbp) with isAsked | all
    · rw [isAsked]
      exact Or.inl (by linarith)
    · exact Or.inr ⟨noDollars.symm, all⟩
  · exact splitMixedPool_givenBack positive inUnits askedNonneg

/-- Account and pool together give what the item is worth, or all that they have. -/
theorem returned_near (positive : 0 < rate) {item chargeRemaining split : Amounts} {a : Attribution}
    (attributed : Attributed rate item chargeRemaining a) (leaves : LeavesRest rate a)
    (given : GivenBack rate available (askedOfPool rate a) split) :
    |valueAt rate a.account + valueAt rate split -
        min (valueAt rate item) (valueAt rate chargeRemaining + valueAt rate available)| ≤ 1 / 100 + 2 / rate := by
  have one := one_div_pos.mpr positive
  have two : 2 / rate = 1 / rate + 1 / rate := by ring
  have charge := (valueAt_add rate _ _).symm.trans (congrArg (valueAt rate) (funext attributed.charge))
  have reaches := valueAt_mono positive given.le
  have splitNonneg := valueAt_nonneg positive given.nonneg
  have chargeNonneg := valueAt_nonneg positive attributed.leftoverCharge
  obtain ⟨-, -, -, splitLe, leSplit⟩ := given
  obtain ⟨above, done, askedGe, askedLe⟩ := leaves
  rw [valueAt_unit] at splitLe leSplit above
  rw [dustValue] at done
  rw [two, abs_le, ← attributed.value, ← charge]
  have leItem := min_le_left (valueAt rate a.account + valueAt rate a.leftoverItem)
    (valueAt rate a.account + valueAt rate a.leftoverCharge + valueAt rate available)
  have leHeld := min_le_right (valueAt rate a.account + valueAt rate a.leftoverItem)
    (valueAt rate a.account + valueAt rate a.leftoverCharge + valueAt rate available)
  constructor
  · rcases le_total (askedOfPool rate a) (valueAt rate available) with held | short
    · rw [min_eq_left held] at leSplit
      linarith
    · rw [min_eq_right short] at leSplit
      rcases done with itemDone | chargeDone
      · linarith
      · linarith
  · have asked := max_le (le_max_left 0 (valueAt rate a.leftoverItem)) askedLe
    rcases min_choice (valueAt rate a.account + valueAt rate a.leftoverItem)
      (valueAt rate a.account + valueAt rate a.leftoverCharge + valueAt rate available) with isItem | isHeld
    · rw [isItem]
      rcases max_choice 0 (valueAt rate a.leftoverItem) with nothing | rest
      · rw [nothing] at asked
        linarith
      · rw [rest] at asked
        linarith
    · rw [isHeld]
      linarith

end

end Liratek.Basket.AccountFirst
