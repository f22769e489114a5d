import Liratek.Basket.SessionCashSplit
import Liratek.Lib.Drift
import Liratek.Lib.Rounding
import Mathlib.Algebra.BigOperators.Group.List.Lemmas

/-! What the transfer drawer receives out of a basket's cash, and when the roundings of the crossing legs add up to more
than a minor unit of each currency. -/

namespace Liratek.Basket.TransferCash
open Settle.SettleDays (Currency minorFactor)
open SessionCashSplit Lib.Drift Lib.Rounding

theorem other_other (c : Currency) : otherCurrency (otherCurrency c) = c := by
  cases c <;> rfl

theorem other_ne (c : Currency) : otherCurrency c ≠ c := by
  cases c <;> decide

theorem ne_iff_other {c d : Currency} : d ≠ c ↔ d = otherCurrency c := by
  cases c <;> cases d <;> decide

/-- The dollar value of a minor unit. -/
def worth (rate : ℚ) : Currency → ℚ
  | .usd => 1 / 100
  | .lbp => 1 / rate

/-- A minor unit of the other currency, in minor units of `c`. -/
def unitIn (rate : ℚ) (c : Currency) : ℚ :=
  worth rate (otherCurrency c) / worth rate c

def cashOf (c : Currency) (leg : BasketCashLegInput) : Bool :=
  leg.eligible && 0 < leg.amount && leg.currencyCode = c

def units (leg : BasketCashLegInput) : ℤ :=
  toMinor leg.currencyCode leg.amount

/-- The cash legs of a currency in minor units. -/
def unitsOf (legs : List BasketCashLegInput) (c : Currency) : List ℤ :=
  (legs.filter (cashOf c)).map units

/-- What each leg pays of its own currency's need. -/
def owns : ℤ → List ℤ → List ℤ
  | _, [] => []
  | need, piece :: rest => min piece need :: owns (need - min piece need) rest

/-- What is left of each leg beyond its own currency's need. -/
def beyond (need : ℤ) (pieces : List ℤ) : List ℤ :=
  List.zipWith (· - ·) pieces (owns need pieces)

def short (need : ℤ) (pieces : List ℤ) : ℤ :=
  max 0 (need - pieces.sum)

theorem length_owns (need : ℤ) (pieces : List ℤ) : (owns need pieces).length = pieces.length := by
  induction pieces generalizing need with
  | nil => rfl
  | cons p rest ih => rw [owns, List.length_cons, ih, List.length_cons]

theorem sum_owns {need : ℤ} {pieces : List ℤ} (nonneg : 0 ≤ need) (amounts : ∀ p ∈ pieces, 0 ≤ p) :
    need - (owns need pieces).sum = short need pieces := by
  induction pieces generalizing need with
  | nil => simp [owns, short, nonneg]
  | cons p rest ih =>
    obtain ⟨here, others⟩ := List.forall_mem_cons.mp amounts
    have restNonneg : 0 ≤ rest.sum := List.sum_nonneg others
    have next : need - min p need - (owns (need - min p need) rest).sum = short (need - min p need) rest := ih (by omega) others
    rw [owns, List.sum_cons, ← sub_sub, next, short, short, List.sum_cons]
    omega

/-- A leg has something left only if its currency needs nothing more. -/
theorem beyond_zero {need : ℤ} {pieces : List ℤ} (amounts : ∀ p ∈ pieces, 0 ≤ p) (isShort : 0 < short need pieces) :
    ∀ p ∈ beyond need pieces, p = 0 := by
  induction pieces generalizing need with
  | nil => simp [beyond, owns]
  | cons p rest ih =>
    obtain ⟨here, others⟩ := List.forall_mem_cons.mp amounts
    have restNonneg : 0 ≤ rest.sum := List.sum_nonneg others
    rw [short, List.sum_cons] at isShort
    have all : min p need = p := min_eq_left (by omega)
    unfold beyond at ih ⊢
    rw [owns, List.zipWith_cons_cons, all, sub_self]
    intro q member
    rcases List.mem_cons.mp member with rfl | later
    · rfl
    · have restShort : 0 < short (need - p) rest := by rw [short]; omega
      exact ih others restShort q later

/-! What a pass does at one leg. -/

theorem cash_some {c : Currency} {leg : BasketCashLegInput} (cash : cashOf c leg = true) :
    (!leg.eligible || decide (leg.amount ≤ 0)) = false ∧ leg.currencyCode = c := by
  simpa [cashOf, not_le] using cash

theorem no_cash {leg : BasketCashLegInput} (notOwn : ¬cashOf leg.currencyCode leg = true) (c : Currency) : cashOf c leg = false := by
  rw [← Bool.not_eq_true]
  intro cash
  rw [(cash_some cash).2] at notOwn
  exact notOwn cash

theorem cash_none {leg : BasketCashLegInput} (none : ∀ c, cashOf c leg = false) :
    (!leg.eligible || decide (leg.amount ≤ 0)) = true := by
  simpa [cashOf, not_lt, imp_iff_not_or] using none leg.currencyCode

theorem minorFactor_pos (c : Currency) : 0 < minorFactor c := by
  cases c <;> decide

theorem units_nonneg {c : Currency} {leg : BasketCashLegInput} (cash : cashOf c leg = true) : 0 ≤ units leg := by
  have amount : 0 < leg.amount := by
    have := (cash_some cash).1
    simp only [Bool.or_eq_false_iff, decide_eq_false_iff_not, not_le] at this
    exact this.2
  unfold units toMinor
  rw [round_eq]
  exact Int.floor_nonneg.mpr (by linarith [mul_pos amount (minorFactor_pos leg.currencyCode)])

theorem sameCurrency_cash {c : Currency} {leg : BasketCashLegInput} {need : Currency → ℤ} (cash : cashOf c leg = true)
    (nonneg : 0 ≤ need c) (pcd : ℤ) :
    sameCurrency need leg pcd = (pcd + min (units leg) (need c), Function.update need c (need c - min (units leg) (need c))) := by
  obtain ⟨isCash, rfl⟩ := cash_some cash
  have unitsNonneg := units_nonneg cash
  rw [sameCurrency, isCash]
  change (if 0 < min (units leg) (need leg.currencyCode) then _ else _) = _
  split_ifs with some'
  · rfl
  · have zero : min (units leg) (need leg.currencyCode) = 0 := by omega
    rw [zero, add_zero, sub_zero, Function.update_eq_self]

theorem sameCurrency_none {leg : BasketCashLegInput} (need : Currency → ℤ) (none : ∀ c, cashOf c leg = false) (pcd : ℤ) :
    sameCurrency need leg pcd = (pcd, need) := by
  rw [sameCurrency, cash_none none]
  rfl

theorem convertNeed_eq (rate : ℚ) (c : Currency) (need : ℤ) :
    convertNeed rate (otherCurrency c) need = need / unitIn rate c := by
  cases c
  · change fromMinor .usd need * rate = need / (1 / rate / (1 / 100))
    rw [fromMinor, minorFactor]
    field_simp
  · change fromMinor .lbp need / rate * 100 = need / (1 / 100 / (1 / rate))
    rw [fromMinor, minorFactor]
    field_simp

theorem convertTake_eq (rate : ℚ) (c : Currency) (take : ℤ) :
    convertTake rate (otherCurrency c) take = take * unitIn rate c := by
  cases c
  · change fromMinor .lbp take / rate * 100 = take * (1 / rate / (1 / 100))
    rw [fromMinor, minorFactor]
    field_simp
  · change fromMinor .usd take * rate = take * (1 / 100 / (1 / rate))
    rw [fromMinor, minorFactor]
    field_simp

theorem crossCurrency_cash {rate : ℚ} {c : Currency} {leg : BasketCashLegInput} {need : Currency → ℤ}
    (cash : cashOf (otherCurrency c) leg = true) (nonneg : 0 ≤ need c) (pcd : ℤ) :
    crossCurrency rate need leg pcd = (pcd + takeOf (unitIn rate c) (need c) (units leg - pcd),
      Function.update need c (needAfter (unitIn rate c) (need c) (units leg - pcd))) := by
  obtain ⟨isCash, isOther⟩ := cash_some cash
  have back : otherCurrency leg.currencyCode = c := by rw [isOther, other_other]
  have unitsEq : toMinor leg.currencyCode leg.amount = units leg := rfl
  have wants : convertNeed rate leg.currencyCode (need c) = need c / unitIn rate c := by rw [isOther, convertNeed_eq]
  have covers (take : ℤ) : convertTake rate leg.currencyCode take = take * unitIn rate c := by rw [isOther, convertTake_eq]
  have same (none : takeOf (unitIn rate c) (need c) (units leg - pcd) = 0) :
      (pcd, need) = (pcd + takeOf (unitIn rate c) (need c) (units leg - pcd),
        Function.update need c (needAfter (unitIn rate c) (need c) (units leg - pcd))) := by
    rw [needAfter_none nonneg none, none, add_zero, Function.update_eq_self]
  rw [crossCurrency, isCash]
  simp only [Bool.false_eq_true, if_false, back, unitsEq, wants, covers]
  split_ifs with noUnits noNeed noTake
  · exact same (if_neg fun both => absurd both.1 (not_lt.mpr noUnits))
  · exact same (takeOf_none (.inl noNeed))
  · refine same ?_
    rw [takeOf, if_pos ⟨not_le.mp noUnits, not_le.mp noNeed⟩, max_eq_left noTake]
  · have take : takeOf (unitIn rate c) (need c) (units leg - pcd) = min (units leg - pcd) (round ((need c : ℚ) / unitIn rate c)) := by
      rw [takeOf, if_pos ⟨not_le.mp noUnits, not_le.mp noNeed⟩, max_eq_right (not_le.mp noTake).le]
    rw [needAfter, take]

theorem crossCurrency_none {rate : ℚ} {leg : BasketCashLegInput} {need : Currency → ℤ} {pcd : ℤ}
    (none : ∀ c, cashOf c leg = true → units leg - pcd ≤ 0 ∨ need (otherCurrency c) ≤ 0) :
    crossCurrency rate need leg pcd = (pcd, need) := by
  by_cases isCash : cashOf leg.currencyCode leg = true
  · have unitsEq : toMinor leg.currencyCode leg.amount = units leg := rfl
    rw [crossCurrency, (cash_some isCash).1]
    simp only [Bool.false_eq_true, if_false, unitsEq]
    rcases none _ isCash with noUnits | noNeed
    · rw [if_pos noUnits]
    · rw [if_pos noNeed, ite_self]
  · rw [crossCurrency, cash_none (no_cash isCash)]
    rfl

/-! What a pass does over all legs. -/

/-- The legs of a currency, each with what it sends. -/
def ofCurrency (c : Currency) (xs : List (BasketCashLegInput × ℤ)) : List (BasketCashLegInput × ℤ) :=
  xs.filter fun x => cashOf c x.1

theorem pass_legs (step : (Currency → ℤ) → BasketCashLegInput → ℤ → ℤ × (Currency → ℤ)) (need : Currency → ℤ)
    (xs : List (BasketCashLegInput × ℤ)) : (passOver step need xs).1.map Prod.fst = xs.map Prod.fst := by
  induction xs generalizing need with
  | nil => rfl
  | cons x rest ih => rw [passOver, List.map_cons, ih, List.map_cons]

/-- What holds of each leg after its step holds of all legs after the pass. -/
theorem pass_all (Needs : (Currency → ℤ) → Prop) (Before After : BasketCashLegInput → ℤ → Prop)
    {step : (Currency → ℤ) → BasketCashLegInput → ℤ → ℤ × (Currency → ℤ)}
    (keeps : ∀ need leg pcd, Needs need → Before leg pcd → Needs (step need leg pcd).2 ∧ After leg (step need leg pcd).1)
    {need : Currency → ℤ} (start : Needs need) {xs : List (BasketCashLegInput × ℤ)} (all : ∀ x ∈ xs, Before x.1 x.2) :
    Needs (passOver step need xs).2 ∧ ∀ x ∈ (passOver step need xs).1, After x.1 x.2 := by
  induction xs generalizing need with
  | nil => exact ⟨start, fun x member => nomatch member⟩
  | cons x rest ih =>
    obtain ⟨here, others⟩ := List.forall_mem_cons.mp all
    have one := keeps need x.1 x.2 start here
    have more := ih one.1 others
    rw [passOver]
    exact ⟨more.1, List.forall_mem_cons.mpr ⟨one.2, more.2⟩⟩

theorem not_both {c d : Currency} {leg : BasketCashLegInput} (cash : cashOf c leg = true) (ne : d ≠ c) : cashOf d leg = false := by
  rw [← Bool.not_eq_true]
  exact fun also => ne ((cash_some also).2.symm.trans (cash_some cash).2)

/-- Pass 1 pays each currency's need by its own legs in order. -/
theorem pass_same (c : Currency) {need : Currency → ℤ} (nonneg : ∀ c, 0 ≤ need c) (legs : List BasketCashLegInput) :
    (ofCurrency c (passOver sameCurrency need (legs.map fun leg => (leg, 0))).1).map Prod.snd = owns (need c) (unitsOf legs c) ∧
      (passOver sameCurrency need (legs.map fun leg => (leg, 0))).2 c = need c - (owns (need c) (unitsOf legs c)).sum := by
  induction legs generalizing need with
  | nil => exact ⟨rfl, (sub_zero _).symm⟩
  | cons leg rest ih =>
    rw [List.map_cons, passOver, ofCurrency, unitsOf]
    by_cases none : ∀ c, cashOf c leg = false
    · have here := none c
      rw [sameCurrency_none need none, List.filter_cons_of_neg (by simp [here]), List.filter_cons_of_neg (by simp [here])]
      exact ih nonneg
    · push Not at none
      obtain ⟨d, cash⟩ := none
      rw [ne_eq, Bool.not_eq_false] at cash
      rw [sameCurrency_cash cash (nonneg d), zero_add]
      have unitsHere := units_nonneg cash
      have nonnegAfter : ∀ e, 0 ≤ Function.update need d (need d - min (units leg) (need d)) e := by
        intro e
        rw [Function.update_apply]
        split_ifs
        · omega
        · exact nonneg e
      have next := ih nonnegAfter
      by_cases same : d = c
      · subst same
        rw [Function.update_self] at next
        rw [List.filter_cons_of_pos (by simpa using cash), List.filter_cons_of_pos cash, List.map_cons, List.map_cons, owns,
          List.sum_cons, ← sub_sub]
        exact ⟨congrArg (_ :: ·) next.1, next.2⟩
      · have foreign := not_both cash (Ne.symm same)
        rw [Function.update_of_ne (Ne.symm same)] at next
        rw [List.filter_cons_of_neg (by simp [foreign]), List.filter_cons_of_neg (by simp [foreign])]
        exact next

/-- Pass 2 pays a need by the other currency's legs, when the needed currency's own legs have nothing to give. -/
theorem pass_cross (rate : ℚ) {c : Currency} {need : Currency → ℤ} (nonneg : 0 ≤ need c) {xs : List (BasketCashLegInput × ℤ)}
    (idle : ∀ x ∈ xs, cashOf c x.1 = true → units x.1 - x.2 ≤ 0 ∨ need (otherCurrency c) ≤ 0) :
    (ofCurrency (otherCurrency c) (passOver (crossCurrency rate) need xs).1).map Prod.snd =
        List.zipWith (· + ·) ((ofCurrency (otherCurrency c) xs).map Prod.snd)
          (takes (unitIn rate c) (need c) ((ofCurrency (otherCurrency c) xs).map fun x => units x.1 - x.2)) ∧
      ofCurrency c (passOver (crossCurrency rate) need xs).1 = ofCurrency c xs := by
  induction xs generalizing need with
  | nil => exact ⟨rfl, rfl⟩
  | cons x rest ih =>
    obtain ⟨leg, pcd⟩ := x
    obtain ⟨here, others⟩ := List.forall_mem_cons.mp idle
    rw [passOver]
    by_cases crosses : cashOf (otherCurrency c) leg = true
    · have foreign : cashOf c leg = false := not_both crosses (other_ne c).symm
      rw [crossCurrency_cash crosses nonneg]
      have nonnegAfter : 0 ≤ Function.update need c (needAfter (unitIn rate c) (need c) (units leg - pcd)) c := by
        rw [Function.update_self]
        exact needAfter_nonneg ..
      have next := ih nonnegAfter (by rw [Function.update_of_ne (other_ne c)]; exact others)
      rw [Function.update_self] at next
      unfold ofCurrency at next ⊢
      rw [List.filter_cons_of_pos (by simpa using crosses), List.filter_cons_of_pos (by simpa using crosses), List.map_cons,
        List.map_cons, List.map_cons, takes, List.zipWith_cons_cons, List.filter_cons_of_neg (by simp [foreign]),
        List.filter_cons_of_neg (by simp [foreign])]
      exact ⟨congrArg (_ :: ·) next.1, next.2⟩
    · have still : crossCurrency rate need leg pcd = (pcd, need) := by
        apply crossCurrency_none
        intro d cash
        have isOwn : d = c := by
          by_contra ne
          exact crosses (ne_iff_other.mp ne ▸ cash)
        subst isOwn
        exact here cash
      have next := ih nonneg others
      rw [still]
      unfold ofCurrency at next ⊢
      rw [List.filter_cons_of_neg (by simp [crosses]), List.filter_cons_of_neg (by simp [crosses])]
      refine ⟨next.1, ?_⟩
      by_cases cash : cashOf c leg = true
      · rw [List.filter_cons_of_pos (by simpa using cash), List.filter_cons_of_pos (by simpa using cash), next.2]
      · rw [List.filter_cons_of_neg (by simp [cash]), List.filter_cons_of_neg (by simp [cash]), next.2]

/-! The two passes together. -/

/-- The legs in whole minor units, none negative, as they are handed over. -/
structure WholeInput (input : SplitInput) : Prop where
  rate : 0 < input.rate
  charge : ∀ c, 0 ≤ primaryCharge input c ∧ Whole (minorFactor c) (primaryCharge input c)
  legs : ∀ leg ∈ input.legs, 0 ≤ leg.amount ∧ Whole (minorFactor leg.currencyCode) leg.amount

variable {input : SplitInput}

def needs (input : SplitInput) (c : Currency) : ℤ :=
  toMinor c (max 0 (primaryCharge input c))

def afterFirst (input : SplitInput) : List (BasketCashLegInput × ℤ) × (Currency → ℤ) :=
  passOver sameCurrency (needs input) (input.legs.map fun leg => (leg, 0))

def final (input : SplitInput) : List (BasketCashLegInput × ℤ) :=
  (passOver (crossCurrency input.rate) (afterFirst input).2 (afterFirst input).1).1

theorem split_eq_final (rate : 0 < input.rate) :
    splitBasketCashOmtFirst input = (final input).map fun x => finish x.1 x.2 := by
  unfold splitBasketCashOmtFirst
  rw [if_pos rate]
  rfl

theorem final_legs (input : SplitInput) : (final input).map Prod.fst = input.legs := by
  rw [final, pass_legs, afterFirst, pass_legs, List.map_map]
  exact List.map_id _

theorem needs_nonneg (input : SplitInput) (c : Currency) : 0 ≤ needs input c := by
  unfold needs toMinor
  rw [round_eq]
  exact Int.floor_nonneg.mpr (by linarith [mul_nonneg (le_max_left 0 (primaryCharge input c)) (minorFactor_pos c).le])

/-- What a leg sends is part of it. -/
def Within (leg : BasketCashLegInput) (pcd : ℤ) : Prop :=
  ∀ c, cashOf c leg = true → 0 ≤ pcd ∧ pcd ≤ units leg

theorem afterFirst_within (input : SplitInput) :
    (∀ c, 0 ≤ (afterFirst input).2 c) ∧ ∀ x ∈ (afterFirst input).1, Within x.1 x.2 := by
  refine pass_all (fun need => ∀ c, 0 ≤ need c) (fun _ pcd => pcd = 0) Within ?_ (needs_nonneg input) ?_
  · intro need leg pcd nonneg none
    by_cases isCash : cashOf leg.currencyCode leg = true
    · have unitsHere := units_nonneg isCash
      have needHere := nonneg leg.currencyCode
      rw [sameCurrency_cash isCash needHere]
      refine ⟨fun c => ?_, fun c _ => ⟨by dsimp only; omega, by dsimp only; omega⟩⟩
      dsimp only
      rw [Function.update_apply]
      split_ifs
      · omega
      · exact nonneg c
    · rw [sameCurrency_none need (no_cash isCash)]
      exact ⟨nonneg, fun c cash => absurd cash (by simp [no_cash isCash c])⟩
  · intro x member
    obtain ⟨leg, -, rfl⟩ := List.mem_map.mp member
    rfl

theorem final_within (input : SplitInput) : ∀ x ∈ final input, Within x.1 x.2 := by
  obtain ⟨nonnegFirst, within⟩ := afterFirst_within input
  refine (pass_all (fun need => ∀ c, 0 ≤ need c) Within Within ?_ nonnegFirst within).2
  intro need leg pcd nonneg before
  by_cases isCash : cashOf leg.currencyCode leg = true
  · have crosses : cashOf (otherCurrency (otherCurrency leg.currencyCode)) leg = true := by rwa [other_other]
    obtain ⟨sent, fits⟩ := before _ isCash
    have more := takeOf_nonneg (unitIn input.rate (otherCurrency leg.currencyCode)) (need (otherCurrency leg.currencyCode)) (units leg - pcd)
    have atMost : takeOf (unitIn input.rate (otherCurrency leg.currencyCode)) (need (otherCurrency leg.currencyCode)) (units leg - pcd) ≤
        units leg - pcd := takeOf_le (sub_nonneg.mpr fits)
    rw [crossCurrency_cash crosses (nonneg _)]
    refine ⟨fun c => ?_, fun c _ => ⟨by dsimp only; omega, by dsimp only; omega⟩⟩
    dsimp only
    rw [Function.update_apply]
    split_ifs
    · exact needAfter_nonneg ..
    · exact nonneg c
  · rw [crossCurrency_none fun c cash => absurd cash (by simp [no_cash isCash c])]
    exact ⟨nonneg, before⟩

/-- What the cash of `c` can give to the other currency's need. -/
def spare (input : SplitInput) (c : Currency) : List ℤ :=
  beyond (needs input c) (unitsOf input.legs c)

/-- What the transfers still need in `c` after its own cash. -/
def lacking (input : SplitInput) (c : Currency) : ℤ :=
  short (needs input c) (unitsOf input.legs c)

theorem lacking_nonneg (input : SplitInput) (c : Currency) : 0 ≤ lacking input c :=
  le_max_left _ _

theorem unitsOf_nonneg (legs : List BasketCashLegInput) (c : Currency) : ∀ p ∈ unitsOf legs c, 0 ≤ p := by
  intro p member
  obtain ⟨leg, inside, rfl⟩ := List.mem_map.mp member
  exact units_nonneg (List.mem_filter.mp inside).2

theorem needs_sub_owns (input : SplitInput) (c : Currency) :
    needs input c - (owns (needs input c) (unitsOf input.legs c)).sum = lacking input c :=
  sum_owns (needs_nonneg input c) (unitsOf_nonneg _ _)

theorem afterFirst_need (input : SplitInput) (c : Currency) : (afterFirst input).2 c = lacking input c := by
  rw [afterFirst, (pass_same c (needs_nonneg input) input.legs).2, needs_sub_owns]

theorem ofCurrency_legs {xs : List (BasketCashLegInput × ℤ)} {legs : List BasketCashLegInput} (same : xs.map Prod.fst = legs)
    (c : Currency) : (ofCurrency c xs).map (fun x => units x.1) = unitsOf legs c := by
  rw [ofCurrency, unitsOf, ← same, List.filter_map, List.map_map]
  rfl

theorem afterFirst_spare (input : SplitInput) (c : Currency) :
    (ofCurrency c (afterFirst input).1).map (fun x => units x.1 - x.2) = spare input c := by
  have legs : (afterFirst input).1.map Prod.fst = input.legs := by
    rw [afterFirst, pass_legs, List.map_map]
    exact List.map_id _
  rw [spare, beyond, ← (pass_same c (needs_nonneg input) input.legs).1, ← ofCurrency_legs legs c]
  change _ = List.zipWith _ (List.map _ (ofCurrency c (afterFirst input).1)) (List.map _ (ofCurrency c (afterFirst input).1))
  rw [List.zipWith_map, List.zipWith_self]

/-- A currency that needs something has no cash to spare. -/
theorem spare_zero {c : Currency} (lacks : 0 < lacking input c) : ∀ p ∈ spare input c, p = 0 :=
  beyond_zero (unitsOf_nonneg _ _) lacks

theorem spare_nonneg (input : SplitInput) (c : Currency) : ∀ p ∈ spare input c, 0 ≤ p := by
  intro p member
  rw [← afterFirst_spare] at member
  obtain ⟨x, inside, rfl⟩ := List.mem_map.mp member
  obtain ⟨inside, cash⟩ := List.mem_filter.mp inside
  exact sub_nonneg.mpr ((afterFirst_within input).2 x inside c cash).2

/-- The cash of a currency that the other one's cash may go to has nothing to give. -/
theorem idle_of_needed {c : Currency} (needed : 0 < lacking input c ∨ lacking input (otherCurrency c) ≤ 0) :
    ∀ x ∈ (afterFirst input).1, cashOf c x.1 = true → units x.1 - x.2 ≤ 0 ∨ (afterFirst input).2 (otherCurrency c) ≤ 0 := by
  intro x member cash
  rcases needed with lacks | none
  · have mine : units x.1 - x.2 ∈ spare input c := by
      rw [← afterFirst_spare]
      exact List.mem_map_of_mem (List.mem_filter.mpr ⟨member, cash⟩)
    exact .inl (spare_zero lacks _ mine).le
  · rw [afterFirst_need]
    exact .inr none

theorem exists_needed (input : SplitInput) : ∃ c, 0 < lacking input c ∨ lacking input (otherCurrency c) ≤ 0 := by
  rcases lt_or_ge 0 (lacking input .usd) with lacks | none
  · exact ⟨.usd, .inl lacks⟩
  · exact ⟨.lbp, .inr none⟩

/-- What the two passes send: each currency's cash pays its own need, and one currency's spare cash goes to the other's. -/
structure Sends (input : SplitInput) (c : Currency) : Prop where
  needed : 0 < lacking input c ∨ lacking input (otherCurrency c) ≤ 0
  -- cash of the needed currency pays only that
  own : (ofCurrency c (final input)).map Prod.snd = owns (needs input c) (unitsOf input.legs c)
  crossing : (ofCurrency (otherCurrency c) (final input)).map Prod.snd =
    List.zipWith (· + ·) (owns (needs input (otherCurrency c)) (unitsOf input.legs (otherCurrency c)))
      (takes (unitIn input.rate c) (lacking input c) (spare input (otherCurrency c)))
  idle : ∀ x ∈ final input, cashOf c x.1 = true → units x.1 - x.2 ≤ 0 ∨ lacking input (otherCurrency c) ≤ 0

theorem exists_sends (input : SplitInput) : ∃ c, Sends input c := by
  obtain ⟨c, needed⟩ := exists_needed input
  have idle := idle_of_needed needed
  have nonneg : 0 ≤ (afterFirst input).2 c := (afterFirst_within input).1 c
  obtain ⟨crossing, own⟩ := pass_cross input.rate nonneg idle
  refine ⟨c, needed, ?_, ?_, ?_⟩
  · rw [final, own]
    exact (pass_same c (needs_nonneg input) input.legs).1
  · rw [final, crossing, afterFirst_need, afterFirst_spare]
    congr 1
    exact (pass_same (otherCurrency c) (needs_nonneg input) input.legs).1
  · intro x member cash
    rw [← afterFirst_need]
    have inside : x ∈ ofCurrency c (final input) := List.mem_filter.mpr ⟨member, cash⟩
    rw [final, own] at inside
    exact idle x (List.mem_filter.mp inside).1 cash

/-! What the roundings may add up to. -/

/-- The spare legs that go whole to a need may have lost or gained half a unit of each currency by rounding, or, when all of
them go, whatever the need still lacks and a unit of each. -/
def Steady (k : ℚ) (need : ℤ) (pieces : List ℤ) : Prop :=
  (wholes k need pieces = pieces → drift k pieces ≤ need - credited k pieces + (1 + k)) ∧
    (wholes k need pieces ≠ pieces → |drift k (wholes k need pieces)| ≤ (1 + k) / 2)

/-- The legs that go whole have not lost more than a unit and a half of each, or what the need still lacks and a unit. -/
def NotAhead (k : ℚ) (need : ℤ) (pieces : List ℤ) : Prop :=
  (wholes k need pieces = pieces → drift k pieces ≤ need - credited k pieces + (1 + k)) ∧
    (wholes k need pieces ≠ pieces → drift k (wholes k need pieces) ≤ 3 / 2 * (1 + k))

theorem wholes_subset (k : ℚ) (need : ℤ) (pieces : List ℤ) : ∀ p ∈ wholes k need pieces, p ∈ pieces := by
  induction pieces generalizing need with
  | nil => simp [wholes]
  | cons q rest ih =>
    intro p member
    rw [wholes] at member
    split_ifs at member with less
    · rcases List.mem_cons.mp member with rfl | later
      · exact List.mem_cons_self
      · exact List.mem_cons_of_mem _ (ih _ p later)
    · cases member

theorem drift_zeros (k : ℚ) {pieces : List ℤ} (zeros : ∀ p ∈ pieces, p = 0) : drift k pieces = 0 ∧ credited k pieces = 0 := by
  induction pieces with
  | nil => exact ⟨rfl, rfl⟩
  | cons p rest ih =>
    obtain ⟨rfl, others⟩ := List.forall_mem_cons.mp zeros
    rw [drift_cons, credited_cons, (ih others).1, (ih others).2]
    simp

/-- No leg goes to a need of nothing, and legs of nothing lose nothing. -/
theorem notAhead_idle {k : ℚ} (positive : 0 < k) {need : ℤ} (nonneg : 0 ≤ need) {pieces : List ℤ}
    (idle : need = 0 ∨ ∀ p ∈ pieces, p = 0) (amounts : ∀ p ∈ pieces, 0 ≤ p) : NotAhead k need pieces := by
  have needNonneg : (0 : ℚ) ≤ need := by exact_mod_cast nonneg
  have zeros : ∀ p ∈ wholes k need pieces, p = 0 := by
    rcases idle with rfl | zeros
    · intro p member
      cases pieces with
      | nil => cases member
      | cons q rest =>
        have noAsk : ¬q < round (((0 : ℤ) : ℚ) / k) := by
          rw [Int.cast_zero, zero_div, round_zero]
          exact not_lt.mpr (amounts q List.mem_cons_self)
        rw [wholes, if_neg noAsk] at member
        cases member
    · exact fun p member => zeros p (wholes_subset k need pieces p member)
  refine ⟨fun whole => ?_, fun _ => ?_⟩
  · rw [whole] at zeros
    rw [(drift_zeros k zeros).1, (drift_zeros k zeros).2, Int.cast_zero, sub_zero]
    linarith
  · rw [(drift_zeros k zeros).1]
    linarith

theorem sum_zipWith_add {xs ys : List ℤ} (length : xs.length = ys.length) : (List.zipWith (· + ·) xs ys).sum = xs.sum + ys.sum := by
  induction xs generalizing ys with
  | nil => cases ys with
    | nil => rfl
    | cons y rest => cases length
  | cons x rest ih => cases ys with
    | nil => cases length
    | cons y others =>
      rw [List.zipWith_cons_cons, List.sum_cons, List.sum_cons, List.sum_cons, ih (Nat.succ.inj length)]
      ring

theorem length_takes (k : ℚ) (need : ℤ) (pieces : List ℤ) : (takes k need pieces).length = pieces.length := by
  induction pieces generalizing need with
  | nil => rfl
  | cons p rest ih => rw [takes, List.length_cons, ih, List.length_cons]

theorem takes_nonneg (k : ℚ) (need : ℤ) (pieces : List ℤ) : ∀ t ∈ takes k need pieces, 0 ≤ t := by
  induction pieces generalizing need with
  | nil => simp [takes]
  | cons p rest ih => exact List.forall_mem_cons.mpr ⟨takeOf_nonneg .., ih _⟩

theorem zipWith_sub_add (xs ys zs : List ℤ) :
    List.zipWith (· - ·) xs (List.zipWith (· + ·) ys zs) = List.zipWith (· - ·) (List.zipWith (· - ·) xs ys) zs := by
  induction xs generalizing ys zs with
  | nil => simp
  | cons x rest ih =>
    cases ys with
    | nil => simp
    | cons y ys =>
      cases zs with
      | nil => simp
      | cons z zs => simp only [List.zipWith_cons_cons, ih, sub_sub]

def sentOf (input : SplitInput) (c : Currency) : ℤ :=
  ((ofCurrency c (final input)).map Prod.snd).sum

def crossed (input : SplitInput) (c : Currency) : ℤ :=
  (takes (unitIn input.rate c) (lacking input c) (spare input (otherCurrency c))).sum

section
variable {c : Currency} (sends : Sends input c)
include sends

theorem sentOf_own : sentOf input c = needs input c - lacking input c := by
  rw [sentOf, sends.own, ← needs_sub_owns, sub_sub_cancel]

theorem sentOf_other : sentOf input (otherCurrency c) =
    needs input (otherCurrency c) - lacking input (otherCurrency c) + crossed input c := by
  rw [sentOf, sends.crossing, sum_zipWith_add, ← needs_sub_owns input (otherCurrency c), sub_sub_cancel, crossed]
  · rw [length_takes, length_owns, spare, beyond, List.length_zipWith, length_owns, min_self]

/-- What the needed currency's legs keep. -/
theorem kept_own : (ofCurrency c (final input)).map (fun x => units x.1 - x.2) = spare input c := by
  rw [spare, beyond, ← sends.own, ← ofCurrency_legs (final_legs input) c, List.zipWith_map, List.zipWith_self]

/-- What the other legs keep of their spare cash. -/
theorem kept_other : (ofCurrency (otherCurrency c) (final input)).map (fun x => units x.1 - x.2) =
    List.zipWith (· - ·) (spare input (otherCurrency c))
      (takes (unitIn input.rate c) (lacking input c) (spare input (otherCurrency c))) := by
  rw [spare, beyond, ← zipWith_sub_add]
  change _ = List.zipWith _ _ (List.zipWith _ _ (takes (unitIn input.rate c) (lacking input c) (spare input (otherCurrency c))))
  rw [← sends.crossing, ← ofCurrency_legs (final_legs input) (otherCurrency c), List.zipWith_map, List.zipWith_self]

end

section
variable (rate : 0 < input.rate)
include rate

theorem worth_pos (c : Currency) : 0 < worth input.rate c := by
  cases c
  · exact one_div_pos.mpr (by norm_num)
  · exact one_div_pos.mpr rate

theorem unitIn_pos (c : Currency) : 0 < unitIn input.rate c :=
  div_pos (worth_pos rate _) (worth_pos rate _)

/-- What crosses is worth no more than what is lacking, but for a unit of each. -/
theorem crossed_le {c : Currency} (steady : Steady (unitIn input.rate c) (lacking input c) (spare input (otherCurrency c))) :
    (crossed input c : ℚ) * unitIn input.rate c ≤
      lacking input c + lacking input (otherCurrency c) * unitIn input.rate c + (1 + unitIn input.rate c) := by
  have positive := unitIn_pos rate c
  have lackHere : (0 : ℚ) ≤ lacking input c := by exact_mod_cast lacking_nonneg input c
  have lackOther : (0 : ℚ) ≤ lacking input (otherCurrency c) * unitIn input.rate c :=
    mul_nonneg (by exact_mod_cast lacking_nonneg input _) positive.le
  by_cases lacks : 0 < lacking input (otherCurrency c)
  · rw [crossed, takes_zeros _ _ (spare_zero lacks), Int.cast_zero, zero_mul]
    linarith
  · rcases takes_value positive (lacking_nonneg input c) (spare_nonneg input (otherCurrency c)) with
      ⟨whole, taken⟩ | ⟨notWhole, near⟩
    · have drifts := steady.1 whole
      have value := credited_add_drift (unitIn input.rate c) (spare input (otherCurrency c))
      rw [crossed, taken, ← value]
      linarith
    · have drifts := abs_le.mp (steady.2 notWhole)
      have close := abs_le.mp near
      rw [crossed]
      linarith [drifts.2, close.2]

/-- Conversely the drift is bounded when no more crosses. -/
theorem notAhead_of_crossed {c : Currency}
    (le : (crossed input c : ℚ) * unitIn input.rate c ≤ lacking input c + (1 + unitIn input.rate c)) :
    NotAhead (unitIn input.rate c) (lacking input c) (spare input (otherCurrency c)) := by
  have positive := unitIn_pos rate c
  have value := credited_add_drift (unitIn input.rate c) (spare input (otherCurrency c))
  rw [crossed] at le
  rcases takes_value positive (lacking_nonneg input c) (spare_nonneg input (otherCurrency c)) with ⟨whole, taken⟩ | ⟨notWhole, near⟩
  · rw [taken, ← value] at le
    exact ⟨fun _ => by linarith, fun notWhole => absurd whole notWhole⟩
  · have close := abs_le.mp near
    exact ⟨fun whole => absurd whole notWhole, fun _ => by linarith [close.1]⟩

/-- If a cash leg keeps something then what is lacking has crossed, but for a unit of each. -/
theorem le_crossed {c : Currency} (sends : Sends input c)
    (steady : Steady (unitIn input.rate c) (lacking input c) (spare input (otherCurrency c)))
    {x : BasketCashLegInput × ℤ} (member : x ∈ final input) {d : Currency} (cash : cashOf d x.1 = true) (keeps : x.2 < units x.1) :
    (lacking input c : ℚ) + lacking input (otherCurrency c) * unitIn input.rate c ≤
      crossed input c * unitIn input.rate c + (1 + unitIn input.rate c) := by
  have positive := unitIn_pos rate c
  have keptPos : 0 < units x.1 - x.2 := sub_pos.mpr keeps
  have inside : x ∈ ofCurrency d (final input) := List.mem_filter.mpr ⟨member, cash⟩
  by_cases own : d = c
  · subst own
    have noOther : lacking input (otherCurrency d) = 0 :=
      le_antisymm ((sends.idle x member cash).resolve_left (not_le.mpr keptPos)) (lacking_nonneg input _)
    have noOwn : lacking input d = 0 := by
      by_contra some'
      have zero := spare_zero ((lacking_nonneg input d).lt_of_ne (Ne.symm some')) (units x.1 - x.2)
        (kept_own sends ▸ List.mem_map_of_mem inside)
      omega
    have sum : (0 : ℚ) ≤ crossed input d := by exact_mod_cast List.sum_nonneg (takes_nonneg _ _ _)
    rw [noOther, noOwn, Int.cast_zero, zero_mul, add_zero]
    linarith [mul_nonneg sum positive.le]
  · obtain rfl := ne_iff_other.mp own
    have kept : units x.1 - x.2 ∈ List.zipWith (· - ·) (spare input (otherCurrency c))
        (takes (unitIn input.rate c) (lacking input c) (spare input (otherCurrency c))) :=
      kept_other sends ▸ List.mem_map_of_mem inside
    have noOther : lacking input (otherCurrency c) = 0 := by
      by_contra some'
      have zeros := spare_zero ((lacking_nonneg input (otherCurrency c)).lt_of_ne (Ne.symm some'))
      rw [← List.map_uncurry_zip_eq_zipWith] at kept
      obtain ⟨⟨p, t⟩, pair, equal⟩ := List.mem_map.mp kept
      have both := List.of_mem_zip pair
      have pieceZero := zeros p both.1
      have takeNonneg := takes_nonneg _ _ _ t both.2
      change p - t = _ at equal
      omega
    rcases takes_value positive (lacking_nonneg input c) (spare_nonneg input (otherCurrency c)) with ⟨-, taken⟩ | ⟨notWhole, near⟩
    · rw [taken, List.zipWith_self] at kept
      obtain ⟨p, -, equal⟩ := List.mem_map.mp kept
      omega
    · have drifts := abs_le.mp (steady.2 notWhole)
      have close := abs_le.mp near
      rw [noOther, Int.cast_zero, zero_mul, crossed]
      linarith [drifts.1, close.1]

end

/-! In dollars. -/

def inDollars (rate : ℚ) (c : Currency) (amount : ℚ) : ℚ :=
  match c with
  | .usd => amount
  | .lbp => amount / rate

theorem inDollars_fromMinor (rate : ℚ) (c : Currency) (n : ℤ) : inDollars rate c (fromMinor c n) = worth rate c * n := by
  cases c
  · change (n : ℚ) / 100 = 1 / 100 * n
    ring
  · change (n : ℚ) / 1 / rate = 1 / rate * n
    ring

def sentValue (rate : ℚ) (legs : List BasketCashLegInput) (splits : List BasketCashLegSplit) : ℚ :=
  ((legs.zip splits).map fun x => inDollars rate x.1.currencyCode x.2.pcdAmount).sum

def chargeValue (input : SplitInput) : ℚ :=
  input.primaryChargeUsd + input.primaryChargeLbp / input.rate

/-- What `splitBasketCashOmtFirst` promises of its legs. -/
structure SplitsCash (input : SplitInput) (splits : List BasketCashLegSplit) : Prop where
  parts : List.Forall₂ (fun leg split => 0 ≤ split.pcdAmount ∧ 0 ≤ split.generalAmount ∧
    split.pcdAmount + split.generalAmount = leg.amount) input.legs splits
  within : sentValue input.rate input.legs splits ≤ chargeValue input + (1 / 100 + 1 / input.rate)
  covered : ∀ x ∈ input.legs.zip splits, x.1.eligible = true →
    1 / 100 + 1 / input.rate ≤ inDollars input.rate x.1.currencyCode x.2.generalAmount →
    chargeValue input ≤ sentValue input.rate input.legs splits + (1 / 100 + 1 / input.rate)

theorem zip_final (rate : 0 < input.rate) :
    input.legs.zip (splitBasketCashOmtFirst input) = (final input).map fun x => (x.1, finish x.1 x.2) := by
  rw [split_eq_final rate, ← final_legs input, List.zip_map']

theorem finish_none {leg : BasketCashLegInput} (notOwn : ¬cashOf leg.currencyCode leg = true) (pcd : ℤ) :
    finish leg pcd = { pcdAmount := 0, generalAmount := max 0 leg.amount } := by
  rw [finish, cash_none (no_cash notOwn)]
  rfl

theorem whole_units {leg : BasketCashLegInput} (whole : Whole (minorFactor leg.currencyCode) leg.amount) :
    leg.amount = fromMinor leg.currencyCode (units leg) := by
  obtain ⟨n, isWhole⟩ := whole
  rw [units, toMinor, isWhole, div_mul_cancel₀ _ (minorFactor_pos _).ne', round_intCast, fromMinor]

theorem fromMinor_nano (c : Currency) (n : ℤ) : Whole (10 ^ 9 : ℚ) (fromMinor c n) := by
  cases c
  · refine ⟨n * 10 ^ 7, ?_⟩
    change (n : ℚ) / 100 = _
    push_cast
    ring
  · refine ⟨n * 10 ^ 9, ?_⟩
    change (n : ℚ) / 1 = _
    push_cast
    ring

theorem fromMinor_sub (c : Currency) (m n : ℤ) : fromMinor c (m - n) = fromMinor c m - fromMinor c n := by
  rw [fromMinor, Int.cast_sub, sub_div]
  rfl

theorem finish_cash {leg : BasketCashLegInput} (cash : cashOf leg.currencyCode leg = true)
    (whole : Whole (minorFactor leg.currencyCode) leg.amount) (pcd : ℤ) :
    finish leg pcd = { pcdAmount := fromMinor leg.currencyCode pcd, generalAmount := fromMinor leg.currencyCode (units leg - pcd) } := by
  have amount := whole_units whole
  rw [finish, (cash_some cash).1]
  simp only [Bool.false_eq_true, if_false]
  split_ifs with none
  · rw [none, sub_zero, ← amount, fromMinor, Int.cast_zero, zero_div]
  · rw [fromMinor_sub, ← amount]
    have kept : Whole (10 ^ 9 : ℚ) (leg.amount - fromMinor leg.currencyCode pcd) := by
      rw [amount, ← fromMinor_sub]
      exact fromMinor_nano ..
    congr 1
    exact kept.roundTo (by norm_num)

theorem fromMinor_nonneg (c : Currency) {n : ℤ} (nonneg : 0 ≤ n) : 0 ≤ fromMinor c n :=
  div_nonneg (by exact_mod_cast nonneg) (minorFactor_pos c).le

section
variable (whole : WholeInput input)
include whole

theorem leg_whole {x : BasketCashLegInput × ℤ} (member : x ∈ final input) :
    0 ≤ x.1.amount ∧ Whole (minorFactor x.1.currencyCode) x.1.amount :=
  whole.legs x.1 (final_legs input ▸ List.mem_map_of_mem member)

theorem parts_final {x : BasketCashLegInput × ℤ} (member : x ∈ final input) :
    0 ≤ (finish x.1 x.2).pcdAmount ∧ 0 ≤ (finish x.1 x.2).generalAmount ∧
      (finish x.1 x.2).pcdAmount + (finish x.1 x.2).generalAmount = x.1.amount := by
  obtain ⟨amount, isWhole⟩ := leg_whole whole member
  by_cases cash : cashOf x.1.currencyCode x.1 = true
  · obtain ⟨sent, fits⟩ := final_within input x member _ cash
    rw [finish_cash cash isWhole]
    refine ⟨fromMinor_nonneg _ sent, fromMinor_nonneg _ (sub_nonneg.mpr fits), ?_⟩
    dsimp only
    rw [fromMinor_sub, ← whole_units isWhole]
    ring
  · rw [finish_none cash]
    exact ⟨le_rfl, le_max_left _ _, by rw [max_eq_right amount, zero_add]⟩

theorem value_of_cash {x : BasketCashLegInput × ℤ} (member : x ∈ final input) :
    inDollars input.rate x.1.currencyCode (finish x.1 x.2).pcdAmount =
      (if cashOf .usd x.1 = true then worth input.rate .usd * x.2 else 0) +
      (if cashOf .lbp x.1 = true then worth input.rate .lbp * x.2 else 0) := by
  by_cases cash : cashOf x.1.currencyCode x.1 = true
  · rw [finish_cash cash (leg_whole whole member).2, inDollars_fromMinor]
    have foreign {d : Currency} (ne : d ≠ x.1.currencyCode) : ¬cashOf d x.1 = true := by
      rw [not_both cash ne]
      exact Bool.false_ne_true
    generalize x.1.currencyCode = c at cash foreign
    cases c with
    | usd => rw [if_pos cash, if_neg (foreign (by decide)), add_zero]
    | lbp => rw [if_pos cash, if_neg (foreign (by decide)), zero_add]
  · have none (c : Currency) : ¬cashOf c x.1 = true := by
      rw [no_cash cash c]
      exact Bool.false_ne_true
    rw [finish_none cash, if_neg (none _), if_neg (none _), add_zero]
    dsimp only
    generalize x.1.currencyCode = c
    cases c
    · rfl
    · exact zero_div _

omit whole in
theorem sum_ofCurrency (f : Currency → ℚ) (xs : List (BasketCashLegInput × ℤ)) :
    (xs.map fun x => (if cashOf .usd x.1 = true then f .usd * x.2 else 0) + (if cashOf .lbp x.1 = true then f .lbp * x.2 else 0)).sum =
      f .usd * ((ofCurrency .usd xs).map Prod.snd).sum + f .lbp * ((ofCurrency .lbp xs).map Prod.snd).sum := by
  induction xs with
  | nil => simp [ofCurrency]
  | cons x rest ih =>
    rw [List.map_cons, List.sum_cons, ih]
    unfold ofCurrency
    rw [List.filter_cons, List.filter_cons]
    split_ifs <;> simp <;> ring

theorem sentValue_eq : sentValue input.rate input.legs (splitBasketCashOmtFirst input) =
    worth input.rate .usd * sentOf input .usd + worth input.rate .lbp * sentOf input .lbp := by
  rw [sentValue, zip_final whole.rate, List.map_map, sentOf, sentOf, ← sum_ofCurrency (worth input.rate)]
  exact congrArg List.sum (List.map_congr_left fun x member => value_of_cash whole member)

theorem charge_eq (c : Currency) : primaryCharge input c = fromMinor c (needs input c) := by
  obtain ⟨nonneg, n, isWhole⟩ := whole.charge c
  rw [needs, toMinor, max_eq_right nonneg, isWhole, div_mul_cancel₀ _ (minorFactor_pos _).ne', round_intCast, fromMinor]

theorem chargeValue_eq : chargeValue input = worth input.rate .usd * needs input .usd + worth input.rate .lbp * needs input .lbp := by
  rw [← inDollars_fromMinor, ← inDollars_fromMinor, ← charge_eq whole, ← charge_eq whole]
  rfl

omit whole in
theorem worth_other (rate : 0 < input.rate) (c : Currency) :
    worth input.rate (otherCurrency c) = worth input.rate c * unitIn input.rate c :=
  (mul_div_cancel₀ _ (worth_pos rate c).ne').symm

omit whole in
theorem tolerance_eq (rate : 0 < input.rate) (c : Currency) :
    1 / 100 + 1 / input.rate = worth input.rate c * (1 + unitIn input.rate c) := by
  rw [mul_add, mul_one, ← worth_other rate]
  cases c
  · rfl
  · exact add_comm _ _

/-- What is sent beyond the charges is what crosses beyond what is lacking. -/
theorem excess_eq {c : Currency} (sends : Sends input c) :
    sentValue input.rate input.legs (splitBasketCashOmtFirst input) - chargeValue input =
      worth input.rate c * (crossed input c * unitIn input.rate c -
        (lacking input c + lacking input (otherCurrency c) * unitIn input.rate c)) := by
  have both (f : Currency → ℚ) : worth input.rate .usd * f .usd + worth input.rate .lbp * f .lbp =
      worth input.rate c * f c + worth input.rate (otherCurrency c) * f (otherCurrency c) := by
    cases c
    · rfl
    · exact add_comm _ _
  rw [sentValue_eq whole, chargeValue_eq whole, both fun c => sentOf input c, both fun c => needs input c, sentOf_own sends,
    sentOf_other sends, worth_other whole.rate]
  push_cast
  ring

theorem keeper_cash {y : BasketCashLegInput × ℤ} (eligible : y.1.eligible = true)
    (keeps : 1 / 100 + 1 / input.rate ≤ inDollars input.rate y.1.currencyCode (finish y.1 y.2).generalAmount) :
    cashOf y.1.currencyCode y.1 = true := by
  by_contra none
  have amount : y.1.amount ≤ 0 := by simpa [cashOf, eligible] using none
  have nothing (c : Currency) : inDollars input.rate c 0 = 0 := by
    cases c
    · rfl
    · exact zero_div _
  rw [finish_none none] at keeps
  dsimp only at keeps
  rw [max_eq_left amount, nothing] at keeps
  linarith [one_div_pos.mpr whole.rate]

theorem keeper_keeps {y : BasketCashLegInput × ℤ} (member : y ∈ final input) (eligible : y.1.eligible = true)
    (keeps : 1 / 100 + 1 / input.rate ≤ inDollars input.rate y.1.currencyCode (finish y.1 y.2).generalAmount) :
    y.2 < units y.1 := by
  have cash := keeper_cash whole eligible keeps
  rw [finish_cash cash (leg_whole whole member).2, inDollars_fromMinor] at keeps
  by_contra none
  have noneKept : ((units y.1 - y.2 : ℤ) : ℚ) ≤ 0 := by exact_mod_cast sub_nonpos.mpr (not_lt.mp none)
  linarith [one_div_pos.mpr whole.rate, mul_nonpos_of_nonneg_of_nonpos (worth_pos whole.rate y.1.currencyCode).le noneKept]

/-- The split is right whenever the roundings of the legs that go whole to the other currency's need stay within half a unit
of each currency, and only if they have not lost more than a unit and a half of each. -/
theorem splitBasketCash_transfers :
    ((∀ c, Steady (unitIn input.rate c) (lacking input c) (spare input (otherCurrency c))) →
      SplitsCash input (splitBasketCashOmtFirst input)) ∧
    (SplitsCash input (splitBasketCashOmtFirst input) →
      ∀ c, NotAhead (unitIn input.rate c) (lacking input c) (spare input (otherCurrency c))) := by
  obtain ⟨c, sends⟩ := exists_sends input
  have excess := excess_eq whole sends
  have worthPos := worth_pos whole.rate c
  refine ⟨fun steady => ⟨?_, ?_, ?_⟩, fun splits d => ?_⟩
  · rw [split_eq_final whole.rate, ← final_legs input, List.forall₂_map_left_iff, List.forall₂_map_right_iff, List.forall₂_same]
    exact fun x member => parts_final whole member
  · have scaled := mul_le_mul_of_nonneg_left (crossed_le whole.rate (steady c)) worthPos.le
    rw [tolerance_eq whole.rate c]
    linarith
  · intro x member eligible keeps
    rw [zip_final whole.rate] at member
    obtain ⟨y, inside, rfl⟩ := List.mem_map.mp member
    have scaled := mul_le_mul_of_nonneg_left
      (le_crossed whole.rate sends (steady c) inside (keeper_cash whole eligible keeps) (keeper_keeps whole inside eligible keeps))
      worthPos.le
    rw [tolerance_eq whole.rate c]
    linarith
  · have positive := unitIn_pos whole.rate d
    by_cases idle : lacking input d = 0 ∨ 0 < lacking input (otherCurrency d)
    · exact notAhead_idle positive (lacking_nonneg input d) (idle.imp_right spare_zero) (spare_nonneg input (otherCurrency d))
    · obtain ⟨lacks, noOther⟩ := not_or.mp idle
      -- only the needed currency lacks something while the other one lacks nothing
      have isNeeded : d = c := by
        by_contra ne
        obtain rfl := ne_iff_other.mp ne
        rw [other_other] at noOther
        exact lacks (le_antisymm (sends.needed.resolve_left noOther) (lacking_nonneg input _))
      subst isNeeded
      have none : lacking input (otherCurrency d) = 0 := le_antisymm (not_lt.mp noOther) (lacking_nonneg input _)
      have within := splits.within
      rw [tolerance_eq whole.rate d] at within
      rw [none, Int.cast_zero, zero_mul, add_zero] at excess
      have scaled : worth input.rate d * (crossed input d * unitIn input.rate d) ≤
          worth input.rate d * (lacking input d + (1 + unitIn input.rate d)) := by linarith
      exact notAhead_of_crossed whole.rate (le_of_mul_le_mul_left scaled worthPos)

end

/-- Two legs of lira for a dollar transfer, the first credited half a cent short. -/
def liraForTransfer : SplitInput where
  primaryChargeUsd := 1
  primaryChargeLbp := 0
  legs := [{ currencyCode := .lbp, amount := 20000, eligible := true }, { currencyCode := .lbp, amount := 90000, eligible := true }]
  rate := 89000

theorem splitBasketCash_liraForTransfer : SplitsCash liraForTransfer (splitBasketCashOmtFirst liraForTransfer) ∧
    ∀ c, NotAhead (unitIn 89000 c) (lacking liraForTransfer c) (spare liraForTransfer (otherCurrency c)) := by
  have whole : WholeInput liraForTransfer := by
    refine ⟨by norm_num [liraForTransfer], fun c => ?_, fun leg member => ?_⟩
    · cases c
      · exact ⟨by norm_num [liraForTransfer, primaryCharge], 100, by norm_num [liraForTransfer, primaryCharge, minorFactor]⟩
      · exact ⟨le_rfl, 0, by norm_num [liraForTransfer, primaryCharge]⟩
    · rcases List.mem_pair.mp member with rfl | rfl
      · exact ⟨by norm_num, 20000, by norm_num [minorFactor]⟩
      · exact ⟨by norm_num, 90000, by norm_num [minorFactor]⟩
  have steady (c : Currency) : Steady (unitIn 89000 c) (lacking liraForTransfer c) (spare liraForTransfer (otherCurrency c)) := by
    unfold Steady
    cases c <;> decide +kernel
  have splits := (splitBasketCash_transfers whole).1 steady
  exact ⟨splits, (splitBasketCash_transfers whole).2 splits⟩

/-- Three legs of 20,000 lira, each credited a half cent short, bring the drawer over a cent and a lira more than the
one-dollar transfer costs. -/
theorem splitBasketCash_overpays :
    let leg (amount : ℚ) : BasketCashLegInput := { currencyCode := .lbp, amount := amount, eligible := true }
    let input : SplitInput :=
      { primaryChargeUsd := 1, primaryChargeLbp := 0, legs := [leg 20000, leg 20000, leg 20000, leg 50000], rate := 89000 }
    chargeValue input + (1 / 100 + 1 / input.rate) < sentValue input.rate input.legs (splitBasketCashOmtFirst input) := by
  decide +kernel

end Liratek.Basket.TransferCash
