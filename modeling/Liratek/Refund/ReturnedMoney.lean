import Liratek.Refund.ReturnLines
import Liratek.Till.KeptFunding
import Mathlib.Algebra.BigOperators.Ring.List

/-! What a refund through chosen return lines gives back: the customer's net, less the change that is kept. -/

namespace Liratek.Refund.ReturnedMoney
open Lib Lib.Calls ReturnLines
open CustomerCash (PaymentRow isInternalLegJs isBinancePaidLeg customerCashCurrencies binanceDrawerName)
open Till.KeptChange (part currencyText otherCurrency floatDust nonEmpty ReconciliationLeg)
open Till.KeptFunding (usdEquivalent_eq legTotal legAmount value)
open Voucher.Vouchers (Currency UsdLbp Rate amountIn usdEquivalent keptChangeRoundingTolerance)

/-- The dollars and the lira of amounts by currency. -/
def usdLbp (net : Entries String ℚ) : UsdLbp :=
  (net.amount "USD", net.amount "LBP")

/-- Only dollars and lira. -/
def InCash (net : Entries String ℚ) : Prop :=
  ∀ currency ∈ net.keys, currency = "USD" ∨ currency = "LBP"

/-- The value of the amounts, summed over any currencies that include theirs. -/
theorem value_eq {net : Entries String ℚ} (inCash : InCash net) {currencies : List String} (distinct : currencies.Nodup)
    (all : ∀ currency ∈ net.keys, currency ∈ currencies) {rate : ℚ} (positive : 0 < rate) :
    (currencies.map fun c => net.amount c * toUsd rate c).sum = usdEquivalent (usdLbp net) rate := by
  have worth := net.sum_amount distinct all fun c => AddMonoidHom.mulRight (toUsd rate c)
  have inBoth : ∀ currency ∈ net.keys, currency ∈ ["USD", "LBP"] := by
    intro currency member
    rcases inCash currency member with rfl | rfl <;> simp
  have both := net.sum_amount (by decide : ["USD", "LBP"].Nodup) inBoth fun c => AddMonoidHom.mulRight (toUsd rate c)
  refine (worth.trans both.symm).trans ?_
  have usd : toUsd rate "USD" = 1 := if_neg (by decide)
  have lbp : toUsd rate "LBP" = 1 / rate := if_pos rfl
  rw [usdEquivalent, if_pos positive]
  simp only [AddMonoidHom.coe_mulRight, List.map_cons, List.map_nil, List.sum_cons, List.sum_nil, usd, lbp, usdLbp]
  ring

theorem list_value {net : Entries String ℚ} (inCash : InCash net) {rate : ℚ} (positive : 0 < rate) :
    (net.list.map fun e => e.2 * toUsd rate e.1).sum = usdEquivalent (usdLbp net) rate := by
  rw [← value_eq inCash net.keys_distinct (fun _ member => member) positive]
  exact net.total_eq_keys fun c => AddMonoidHom.mulRight (toUsd rate c)

theorem inCash_set {net : Entries String ℚ} (inCash : InCash net) (c : Currency) (amount : ℚ) :
    InCash (net.set (currencyText c) amount) := by
  intro currency member
  rcases Entries.mem_keys_set.mp member with rfl | old
  · cases c
    · exact .inl rfl
    · exact .inr rfl
  · exact inCash currency old

section
variable {getByCode : String → Option PaymentMethodEntity} {rows : List PaymentRow} {legs : List RefundLegOverride}

/-- Without a Binance line the customer's legs are in dollars and lira. -/
theorem overridableNet_inCash (noBinance : ∀ p ∈ rows, isBinancePaidLeg p = false) :
    InCash (overridableNetByCurrency getByCode rows) := by
  intro currency member
  rcases Entries.mem_keys_addAll.mp member with old | listed
  · cases old
  · obtain ⟨e, inside, rfl⟩ := List.mem_map.mp listed
    obtain ⟨p, overridable, rfl⟩ := List.mem_map.mp inside
    obtain ⟨isRow, replaced⟩ := List.mem_filter.mp overridable
    simp only [isOverridableLeg, isInternalLegJs, noBinance p isRow, Bool.not_false, Bool.and_true, Bool.not_or, Bool.and_eq_true,
      Bool.not_not] at replaced
    have isCash := replaced.1.1.1.1.2
    simpa [customerCashCurrencies] using isCash

/-- A line that passes the check. -/
structure Valid (leg : RefundLegOverride) : Prop where
  positive : 0 < leg.amount
  inCash : leg.currencyCode = "USD" ∨ leg.currencyCode = "LBP"

theorem checkLeg_ok {leg : RefundLegOverride} {u : Unit} (done : checkLeg getByCode leg = .ok u) : Valid leg := by
  unfold checkLeg at done
  split_ifs at done with notPositive notCash
  refine ⟨not_le.mp notPositive, ?_⟩
  have isCash : leg.currencyCode ∈ customerCashCurrencies := by simpa using notCash
  simpa [customerCashCurrencies] using isCash

theorem overrideNet_inCash (valid : ∀ leg ∈ legs, Valid leg) : InCash (overrideNet legs) := by
  intro currency member
  rcases Entries.mem_keys_addAll.mp member with old | listed
  · cases old
  · obtain ⟨e, inside, rfl⟩ := List.mem_map.mp listed
    obtain ⟨leg, isLeg, rfl⟩ := List.mem_map.mp inside
    exact (valid leg isLeg).inCash

/-- What the lines hand back of a currency. -/
theorem overrideNet_amount (legs : List RefundLegOverride) (currency : String) :
    (overrideNet legs).amount currency = (legs.map fun leg => if leg.currencyCode = currency then leg.amount else 0).sum := by
  rw [overrideNet, Entries.amount_addAll, Entries.amount_empty, zero_add, List.map_map]
  rfl

theorem overrideNet_nonneg (valid : ∀ leg ∈ legs, Valid leg) (currency : String) : 0 ≤ (overrideNet legs).amount currency := by
  rw [overrideNet_amount]
  refine List.sum_nonneg fun x inside => ?_
  obtain ⟨leg, isLeg, rfl⟩ := List.mem_map.mp inside
  split_ifs
  · exact (valid leg isLeg).positive.le
  · exact le_rfl

/-- What the check of the amounts has found when it passes. -/
structure Accepted (net : Entries String ℚ) (legs : List RefundLegOverride) (exchangeRate : Option ℚ) : Prop where
  valid : ∀ leg ∈ legs, Valid leg
  totals : usableRate exchangeRate = none → ∀ currency,
    |(|net.amount currency| - (overrideNet legs).amount currency)| ≤ refundLegAmountEpsilon currency
  value : ∀ rate, usableRate exchangeRate = some rate →
    |(|usdEquivalent (usdLbp net) rate| - usdEquivalent (usdLbp (overrideNet legs)) rate)| ≤ refundValueToleranceUsd

theorem usableRate_pos {exchangeRate : Option ℚ} {rate : ℚ} (usable : usableRate exchangeRate = some rate) : 0 < rate :=
  of_decide_eq_true (Option.filter_eq_some_iff.mp usable).2

theorem refundLegAmountEpsilon_pos (currency : String) : 0 < refundLegAmountEpsilon currency := by
  unfold refundLegAmountEpsilon
  split_ifs <;> norm_num

theorem validated {net : Entries String ℚ} (inCash : InCash net) {exchangeRate : Option ℚ} {u : Unit}
    (done : validateRefundLegOverrideAmounts getByCode net legs exchangeRate = .ok u) : Accepted net legs exchangeRate := by
  obtain ⟨_, checked, done⟩ := bind_ok done
  have valid : ∀ leg ∈ legs, Valid leg := by
    intro leg isLeg
    obtain ⟨_, -, passed⟩ := gather_mem checked isLeg
    exact checkLeg_ok passed
  have distinct : (net.keys ++ (overrideNet legs).keys.filter fun c => !net.keys.contains c).Nodup := by
    refine List.nodup_append.mpr ⟨net.keys_distinct, (overrideNet legs).keys_distinct.filter _, ?_⟩
    intro a inNet b inside same
    subst same
    have absent := (List.mem_filter.mp inside).2
    simp [inNet] at absent
  have ofNet : ∀ c ∈ net.keys, c ∈ net.keys ++ (overrideNet legs).keys.filter fun c => !net.keys.contains c :=
    fun c member => List.mem_append_left _ member
  have ofLegs : ∀ c ∈ (overrideNet legs).keys, c ∈ net.keys ++ (overrideNet legs).keys.filter fun c => !net.keys.contains c := by
    intro c member
    by_cases inNet : c ∈ net.keys
    · exact List.mem_append_left _ inNet
    · exact List.mem_append_right _ (List.mem_filter.mpr ⟨member, by simp [inNet]⟩)
  dsimp only at done
  split_ifs at done with nothing
  refine ⟨valid, fun noRate currency => ?_, fun rate usable => ?_⟩
  · rw [noRate] at done
    dsimp only at done
    cases found : (net.keys ++ (overrideNet legs).keys.filter fun c => !net.keys.contains c).findSome?
        (totalsMismatch net (overrideNet legs)) with
    | some error =>
      rw [found] at done
      cases done
    | none =>
      by_cases member : currency ∈ net.keys ++ (overrideNet legs).keys.filter fun c => !net.keys.contains c
      · have matched := List.findSome?_eq_none_iff.mp found currency member
        unfold totalsMismatch at matched
        dsimp only at matched
        split_ifs at matched with differs
        exact not_lt.mp differs
      · have noNet : net.amount currency = 0 := by
          by_contra some'
          exact member (ofNet currency (Entries.mem_keys_of_amount some'))
        have noLegs : (overrideNet legs).amount currency = 0 := by
          by_contra some'
          exact member (ofLegs currency (Entries.mem_keys_of_amount some'))
        rw [noNet, noLegs, abs_zero, sub_zero, abs_zero]
        exact (refundLegAmountEpsilon_pos currency).le
  · rw [usable] at done
    dsimp only at done
    have positive := usableRate_pos usable
    rw [value_eq inCash distinct ofNet positive, value_eq (overrideNet_inCash valid) distinct ofLegs positive] at done
    split_ifs at done with differs
    exact not_lt.mp differs

/-! The rows of the reversal. -/

/-- What `insertPaymentRow` writes: rows of the Binance drawer in its own currency, but for a checkpoint's. -/
def Written (p : PaymentRow) : Prop :=
  isCheckpointPaymentMethod p.method = true ∨ postingCurrency p.drawerName p.currencyCode = .ok p.currencyCode

instance (p : PaymentRow) : Decidable (Written p) :=
  inferInstanceAs (Decidable (_ ∨ _))

def mirrored (p : PaymentRow) : ReversalRow :=
  { row := { p with amount := -p.amount, note := some reversalNote }, movesDrawer := !isAuditOnlyPaymentMethod p.method }

theorem mirrorRow_ok {p : PaymentRow} (written : Written p) {r : ReversalRow} (done : mirrorRow p = .ok r) : r = mirrored p := by
  obtain ⟨currencyCode, posted, rfl⟩ := map_ok done
  have same : currencyCode = p.currencyCode := by
    split_ifs at posted with checkpoint
    · exact (Except.ok.inj posted).symm
    · rw [written.resolve_left checkpoint] at posted
      exact (Except.ok.inj posted).symm
  rw [same]
  rfl

def postedCurrency (drawerName currencyCode : String) : String :=
  if drawerName = binanceDrawerName ∧ currencyCode = "USD" then "USDT" else currencyCode

theorem postingCurrency_ok {drawerName currencyCode posted : String} (done : postingCurrency drawerName currencyCode = .ok posted) :
    posted = postedCurrency drawerName currencyCode := by
  unfold postingCurrency at done
  unfold postedCurrency
  split_ifs at done with elsewhere dollars lira
  · rw [if_neg fun both => elsewhere both.1]
    exact (Except.ok.inj done).symm
  · rw [if_pos ⟨not_not.mp elsewhere, dollars⟩]
    exact (Except.ok.inj done).symm
  · rw [if_neg fun both => dollars both.2]
    exact (Except.ok.inj done).symm

def lineDrawer (getByCode : String → Option PaymentMethodEntity) (cashDrawerCtx : Option ServiceCashDrawerContext)
    (leg : RefundLegOverride) : String :=
  match cashDrawerCtx with
  | some ctx => resolveServiceCashDrawer getByCode leg.method ctx
  | none => paymentMethodToDrawerName getByCode leg.method

def lineRow (getByCode : String → Option PaymentMethodEntity) (net : Entries String ℚ)
    (cashDrawerCtx : Option ServiceCashDrawerContext) (exchangeRate : Option ℚ) (leg : RefundLegOverride) : ReversalRow :=
  { row :=
      { method := leg.method, drawerName := lineDrawer getByCode cashDrawerCtx leg
        currencyCode := postedCurrency (lineDrawer getByCode cashDrawerCtx leg) leg.currencyCode
        amount := refundLegReversalSign net leg.currencyCode exchangeRate * leg.amount, note := some overrideNote }
    movesDrawer := true }

theorem overrideRow_ok {net : Entries String ℚ} {cashDrawerCtx : Option ServiceCashDrawerContext} {exchangeRate : Option ℚ}
    {leg : RefundLegOverride} {r : ReversalRow} (done : overrideRow getByCode net cashDrawerCtx exchangeRate leg = .ok r) :
    r = lineRow getByCode net cashDrawerCtx exchangeRate leg := by
  obtain ⟨currencyCode, posted, rfl⟩ := map_ok done
  rw [postingCurrency_ok posted]
  rfl

variable {out : List ReversalRow} {exchangeRate : Option ℚ} {cashDrawerCtx : Option ServiceCashDrawerContext}

theorem reversed (written : ∀ p ∈ rows, Written p)
    (done : reversePayments getByCode .refund rows (some legs) exchangeRate cashDrawerCtx = .ok out) :
    out = (rows.filter (isMirrored getByCode .refund true)).map mirrored ++
      legs.map (lineRow getByCode (overridableNetByCurrency getByCode rows) cashDrawerCtx exchangeRate) := by
  obtain ⟨others, mirroring, done⟩ := bind_ok done
  obtain ⟨lines, replacing, rfl⟩ := map_ok done
  rw [gather_eq mirroring fun p member _ called => mirrorRow_ok (written p (List.mem_filter.mp member).1) called,
    gather_eq replacing fun _ _ _ called => overrideRow_ok called]
  rfl

/-- The rows of the return lines. -/
def replacements (out : List ReversalRow) : List ReversalRow :=
  out.filter fun r => r.row.note = some overrideNote

theorem replacements_reversed (others : List PaymentRow) (net : Entries String ℚ) :
    replacements (others.map mirrored ++ legs.map (lineRow getByCode net cashDrawerCtx exchangeRate)) =
      legs.map (lineRow getByCode net cashDrawerCtx exchangeRate) := by
  rw [replacements, List.filter_append, List.filter_eq_nil_iff.mpr, List.nil_append, List.filter_eq_self.mpr]
  · intro r member
    obtain ⟨leg, -, rfl⟩ := List.mem_map.mp member
    exact decide_eq_true rfl
  · intro r member
    obtain ⟨p, -, rfl⟩ := List.mem_map.mp member
    simp [mirrored, reversalNote, overrideNote]

/-- A USDT is a dollar. -/
def settledIn (currencyCode : String) : String :=
  if currencyCode = "USDT" then "USD" else currencyCode

/-- What the return lines add to the drawers in a currency. -/
def movedIn (out : List ReversalRow) (currency : String) : ℚ :=
  ((replacements out).map fun r => if settledIn r.row.currencyCode = currency then r.row.amount else 0).sum

def moved (out : List ReversalRow) : UsdLbp :=
  (movedIn out "USD", movedIn out "LBP")

theorem settledIn_posted (drawerName : String) {currencyCode : String} (inCash : currencyCode = "USD" ∨ currencyCode = "LBP") :
    settledIn (postedCurrency drawerName currencyCode) = currencyCode := by
  rcases inCash with rfl | rfl
  · unfold settledIn postedCurrency
    split_ifs <;> simp_all
  · have posted : postedCurrency drawerName "LBP" = "LBP" := if_neg fun both => absurd both.2 (by decide)
    rw [posted]
    decide

/-- The lines of a currency all move one way. -/
theorem movedIn_reversed (valid : ∀ leg ∈ legs, Valid leg) (others : List PaymentRow) (net : Entries String ℚ) (currency : String) :
    movedIn (others.map mirrored ++ legs.map (lineRow getByCode net cashDrawerCtx exchangeRate)) currency =
      refundLegReversalSign net currency exchangeRate * (overrideNet legs).amount currency := by
  rw [movedIn, replacements_reversed, overrideNet_amount, ← List.sum_map_mul_left, List.map_map]
  refine congrArg List.sum (List.map_congr_left fun leg isLeg => ?_)
  rw [Function.comp_apply, lineRow, settledIn_posted _ (valid leg isLeg).inCash]
  split_ifs with here
  · rw [here]
  · rw [mul_zero]

end

/-! Kept change. -/

section
variable {getByCode : String → Option PaymentMethodEntity} {formatMoneyAmount : ℚ → Currency → String}
  {legs : List RefundLegOverride} {net owed : Entries String ℚ} {kept : UsdLbp} {ctx : KeptContext}

/-- What is known of change kept in one currency. -/
structure KeptIn (net : Entries String ℚ) (legs : List RefundLegOverride) (kept : UsdLbp) (c : Currency) : Prop where
  inOne : amountIn c (part kept c) = kept
  positive : 0 < part kept c
  came : 0 < net.amount (currencyText c)
  other : |net.amount (currencyText (otherCurrency c))| ≤ refundLegAmountEpsilon (currencyText (otherCurrency c))
  same : ∀ leg ∈ legs, leg.currencyCode = currencyText c
  lines : legs ≠ []
  within : (∀ leg ∈ legs, Valid leg) → part kept c ≤ net.amount (currencyText c) - (overrideNet legs).amount (currencyText c) +
    (keptChangeRoundingTolerance c + floatDust)

theorem currencyOf_text (c : Currency) : currencyOf (currencyText c) = .known c := by
  cases c
  · rfl
  · rfl

theorem currencyOf_known {code : String} {c : Currency} (known : currencyOf code = .known c) : code = currencyText c := by
  unfold currencyOf at known
  split_ifs at known with usd lbp
  · cases known
    exact usd
  · cases known
    exact lbp

def payoutLeg (leg : RefundLegOverride) : ReconciliationLeg where
  method := leg.method
  currencyCode := currencyOf leg.currencyCode
  amount := leg.amount

/-- Lines of one currency count for what they hand back of it. -/
theorem legTotal_payoutLegs {c : Currency} (valid : ∀ leg ∈ legs, Valid leg) (same : ∀ leg ∈ legs, leg.currencyCode = currencyText c) :
    legTotal (nonEmpty (legs.map payoutLeg)) = amountIn c ((overrideNet legs).amount (currencyText c)) := by
  have all : nonEmpty (legs.map payoutLeg) = legs.map payoutLeg := by
    refine List.filter_eq_self.mpr fun leg member => ?_
    obtain ⟨line, isLine, rfl⟩ := List.mem_map.mp member
    exact decide_eq_true (abs_pos.mpr (valid line isLine).positive.ne')
  rw [all, legTotal, List.map_map, overrideNet_amount]
  clear all
  induction legs with
  | nil => cases c <;> rfl
  | cons leg rest ih =>
    obtain ⟨validFirst, validRest⟩ := List.forall_mem_cons.mp valid
    obtain ⟨sameFirst, sameRest⟩ := List.forall_mem_cons.mp same
    rw [List.map_cons, List.sum_cons, ih validRest sameRest, List.map_cons, List.sum_cons, if_pos sameFirst, Function.comp_apply]
    have here : legAmount (payoutLeg leg) = amountIn c leg.amount := by
      rw [legAmount, payoutLeg, sameFirst, currencyOf_text]
      exact congrArg (amountIn c) (abs_of_pos validFirst.positive)
    rw [here]
    cases c
    · exact Prod.ext rfl (add_zero 0)
    · exact Prod.ext (add_zero 0) rfl

/-- Amounts of one currency compare as their values do. -/
theorem le_of_usdEquivalent {c : Currency} {x y z w : ℚ} {rate : Rate}
    (le : usdEquivalent (amountIn c x) rate.value ≤ usdEquivalent (amountIn c y) rate.value -
      usdEquivalent (amountIn c z) rate.value + usdEquivalent (amountIn c w) rate.value) : x ≤ y - z + w := by
  simp only [usdEquivalent_eq] at le
  cases c with
  | usd => simpa [amountIn] using le
  | lbp =>
    simp only [amountIn, zero_add] at le
    rw [← sub_div, ← add_div] at le
    exact (div_le_div_iff_of_pos_right rate.positive).mp le

/-- Only one currency is beyond the tolerance. -/
theorem other_within {c : Currency} {amount : ℚ}
    (only : (net.list.filter fun e => refundLegAmountEpsilon e.1 < |e.2|) = [(currencyText c, amount)]) :
    |net.amount (currencyText (otherCurrency c))| ≤ refundLegAmountEpsilon (currencyText (otherCurrency c)) := by
  by_contra beyond
  have some' : net.amount (currencyText (otherCurrency c)) ≠ 0 := by
    intro zero
    rw [zero, abs_zero] at beyond
    exact beyond (refundLegAmountEpsilon_pos _).le
  obtain ⟨v, found⟩ := Entries.mem_keys.mp (Entries.mem_keys_of_amount some')
  have inside := Entries.get_eq_some.mp found
  have isAmount := Entries.amount_of_mem inside
  have chosen : (currencyText (otherCurrency c), v) ∈ net.list.filter fun e => refundLegAmountEpsilon e.1 < |e.2| :=
    List.mem_filter.mpr ⟨inside, decide_eq_true (isAmount ▸ not_le.mp beyond)⟩
  rw [only, List.mem_singleton] at chosen
  have same : currencyText (otherCurrency c) = currencyText c := congrArg Prod.fst chosen
  revert same
  cases c
  · decide
  · decide

theorem resolved (done : resolveRefundKeptChange getByCode formatMoneyAmount net legs ctx = .ok (kept, owed)) :
    kept = ctx.claimed.getD 0 ∧ (kept = 0 ∧ owed = net ∨
      ∃ c, KeptIn net legs kept c ∧ owed = net.set (currencyText c) (net.amount (currencyText c) - part kept c)) := by
  unfold resolveRefundKeptChange at done
  dsimp only at done
  split_ifs at done with nothing wrongType noDrawer
  · obtain ⟨rfl, rfl⟩ := Prod.mk.inj (Except.ok.inj done)
    exact ⟨nothing.symm, .inl ⟨rfl, rfl⟩⟩
  · split at done
    · next currency amount only =>
      cases known : currencyOf currency with
      | other code =>
        rw [known] at done
        cases done
      | known c =>
        rw [known] at done
        dsimp only at done
        obtain rfl := currencyOf_known known
        have isAmount : net.amount (currencyText c) = amount :=
          Entries.amount_of_mem (List.mem_filter.mp (only ▸ List.mem_singleton_self (currencyText c, amount))).1
        split_ifs at done with payout otherLines
        obtain ⟨result, keeping, same⟩ := map_ok done
        obtain ⟨rfl, rfl⟩ := Prod.mk.inj same
        obtain ⟨claimed, read, keeping⟩ := bind_ok keeping
        obtain ⟨_, -, keeping⟩ := bind_ok keeping
        obtain ⟨_, -, keeping⟩ := bind_ok keeping
        have nonneg := Till.KeptFunding.readAmounts_ok read
        obtain ⟨_, -, isClaimed⟩ := map_ok read
        rw [Option.getD_some] at isClaimed
        have positiveClaim : Till.KeptChange.any claimed = true := by
          by_contra none
          simp only [Till.KeptChange.any, Bool.or_eq_true, decide_eq_true_eq, not_or, not_lt] at none
          exact nothing (isClaimed.trans (Prod.ext (le_antisymm none.1 nonneg.1) (le_antisymm none.2 nonneg.2)))
        obtain ⟨rfl, c', isKnown, inOne, payoutKeeps⟩ := Till.KeptFunding.resolvePayout_keeps nonneg keeping positiveClaim
        cases isKnown
        have came : 0 < net.amount (currencyText c) := isAmount ▸ not_le.mp payout
        have keptPositive : 0 < part claimed c := by
          by_contra none
          rw [← inOne] at positiveClaim
          have zero : part claimed c = 0 := by
            refine le_antisymm (not_lt.mp none) ?_
            cases c
            · exact nonneg.1
            · exact nonneg.2
          rw [zero] at positiveClaim
          cases c <;> simp [Till.KeptChange.any, amountIn] at positiveClaim
        have sameLines : ∀ leg ∈ legs, leg.currencyCode = currencyText c := by
          simpa using otherLines
        refine ⟨isClaimed.symm, .inr ⟨c, ⟨inOne, keptPositive, came, other_within only, sameLines, ?_, fun valid => ?_⟩, ?_⟩⟩
        · rintro rfl
          exact payoutKeeps.paid rfl
        · have within := payoutKeeps.within
          rw [Till.KeptFunding.owedTotals_known, ← isAmount, abs_of_pos came, value] at within
          have total : legTotal (nonEmpty (legs.map _)) = _ := legTotal_payoutLegs valid sameLines
          exact le_of_usdEquivalent (inOne.symm ▸ total ▸ within)
        · rw [isAmount]
    · cases done

/-- What the lines are checked against is the net less the kept amount. -/
theorem owed_amount (resolution : kept = 0 ∧ owed = net ∨
      ∃ c, KeptIn net legs kept c ∧ owed = net.set (currencyText c) (net.amount (currencyText c) - part kept c)) (c : Currency) :
    owed.amount (currencyText c) = net.amount (currencyText c) - part kept c := by
  rcases resolution with ⟨rfl, rfl⟩ | ⟨c', keptIn, rfl⟩
  · cases c <;> exact (sub_zero _).symm
  · rw [Entries.amount_set]
    by_cases same : c' = c
    · rw [same, if_pos rfl]
    · have other : part kept c = 0 := by
        rw [← keptIn.inOne]
        cases c <;> cases c' <;> first | rfl | exact absurd rfl same
      rw [other, sub_zero, if_neg fun text => same ?_]
      cases c <;> cases c' <;> first | rfl | exact absurd text (by decide)

theorem owed_inCash (inCash : InCash net) (resolution : kept = 0 ∧ owed = net ∨
      ∃ c, KeptIn net legs kept c ∧ owed = net.set (currencyText c) (net.amount (currencyText c) - part kept c)) :
    InCash owed := by
  rcases resolution with ⟨-, rfl⟩ | ⟨c, -, rfl⟩
  · exact inCash
  · exact inCash_set inCash c _

end

/-! The direction of the lines. -/

section
variable {net : Entries String ℚ} {exchangeRate : Option ℚ} {rate : ℚ}

/-- The direction where the whole net does not decide it. -/
def ownSign (net : Entries String ℚ) (currency : String) : ℚ :=
  if net.amount currency < 0 then 1 else -1

theorem sign_noRate (noRate : usableRate exchangeRate = none) (currency : String) :
    refundLegReversalSign net currency exchangeRate = ownSign net currency := by
  unfold refundLegReversalSign
  rw [noRate]
  rfl

theorem sign_rate (inCash : InCash net) (usable : usableRate exchangeRate = some rate) (currency : String) :
    refundLegReversalSign net currency exchangeRate =
      if usdEquivalent (usdLbp net) rate ≠ 0 then (if usdEquivalent (usdLbp net) rate < 0 then 1 else -1)
      else ownSign net currency := by
  unfold refundLegReversalSign
  rw [usable]
  dsimp only
  rw [list_value inCash (usableRate_pos usable)]
  rfl

theorem sign_unit (net : Entries String ℚ) (exchangeRate : Option ℚ) (currency : String) :
    refundLegReversalSign net currency exchangeRate = 1 ∨ refundLegReversalSign net currency exchangeRate = -1 := by
  unfold refundLegReversalSign
  dsimp only
  split
  · split_ifs <;> simp
  · split_ifs <;> simp

variable {getByCode : String → Option PaymentMethodEntity} {legs : List RefundLegOverride}
  {cashDrawerCtx : Option ServiceCashDrawerContext}

/-- What the lines move where they all have one direction. -/
theorem moved_value (valid : ∀ leg ∈ legs, Valid leg) (others : List PaymentRow) {sign : ℚ}
    (all : ∀ leg ∈ legs, refundLegReversalSign net leg.currencyCode exchangeRate = sign) (positive : 0 < rate) :
    usdEquivalent (moved (others.map mirrored ++ legs.map (lineRow getByCode net cashDrawerCtx exchangeRate))) rate =
      sign * usdEquivalent (usdLbp (overrideNet legs)) rate := by
  have each (currency : String) : refundLegReversalSign net currency exchangeRate * (overrideNet legs).amount currency =
      sign * (overrideNet legs).amount currency := by
    by_cases none : (overrideNet legs).amount currency = 0
    · rw [none, mul_zero, mul_zero]
    · rcases Entries.mem_keys_addAll.mp (Entries.mem_keys_of_amount none) with old | listed
      · cases old
      · obtain ⟨e, inside, rfl⟩ := List.mem_map.mp listed
        obtain ⟨leg, isLeg, rfl⟩ := List.mem_map.mp inside
        rw [all leg isLeg]
  rw [usdEquivalent, usdEquivalent, if_pos positive, if_pos positive]
  simp only [moved, movedIn_reversed valid, each, usdLbp]
  ring

/-- Whatever their directions, the lines move at most what they are worth. -/
theorem abs_moved_le (valid : ∀ leg ∈ legs, Valid leg) (others : List PaymentRow) (positive : 0 < rate) :
    |usdEquivalent (moved (others.map mirrored ++ legs.map (lineRow getByCode net cashDrawerCtx exchangeRate))) rate| ≤
      usdEquivalent (usdLbp (overrideNet legs)) rate := by
  have each (currency : String) : |refundLegReversalSign net currency exchangeRate * (overrideNet legs).amount currency| =
      (overrideNet legs).amount currency := by
    rw [abs_mul, abs_of_nonneg (overrideNet_nonneg valid currency)]
    rcases sign_unit net exchangeRate currency with one | one
    · rw [one, abs_one, one_mul]
    · rw [one, abs_neg, abs_one, one_mul]
  rw [usdEquivalent, usdEquivalent, if_pos positive, if_pos positive]
  refine (abs_add_le _ _).trans_eq ?_
  simp only [moved, movedIn_reversed valid, usdLbp]
  rw [each, abs_div, each, abs_of_pos positive]

end

/-! The refund. -/

section
variable (getByCode : String → Option PaymentMethodEntity) (rows : List PaymentRow) (legs : List RefundLegOverride)
  (exchangeRate : Option ℚ) (kept : UsdLbp)

/-- What the customer paid in all, less what was handed out. -/
def customerNet : UsdLbp :=
  usdLbp (overridableNetByCurrency getByCode rows)

/-- The legs that no return line replaces and that have moved a drawer. A checkpoint's offset stays: that cash was counted. -/
def isUndone (p : PaymentRow) : Bool :=
  !isOverridableLeg getByCode p && p.method ≠ checkpointResolutionMethod && !isAuditOnlyPaymentMethod p.method

structure GivesBack (out : List ReversalRow) : Prop where
  undone : (out.filter fun r => r.row.note = some reversalNote && r.movesDrawer).map
      (fun r => (r.row.drawerName, r.row.currencyCode, r.row.amount)) =
    (rows.filter (isUndone getByCode)).map fun p => (p.drawerName, p.currencyCode, -p.amount)
  auditOnly : ∀ r ∈ out, r.row.note = some reversalNote → isAuditOnlyPaymentMethod r.row.method = true → r.movesDrawer = false
  totals : usableRate exchangeRate = none → ∀ c,
    |part (moved out) c + (part (customerNet getByCode rows) c - part kept c)| ≤ refundLegAmountEpsilon (currencyText c)
  oneWay : ∀ rate, usableRate exchangeRate = some rate →
    (∀ r ∈ replacements out, r.row.amount < 0) ∨ ∀ r ∈ replacements out, 0 < r.row.amount
  value : ∀ rate, usableRate exchangeRate = some rate →
    |usdEquivalent (moved out) rate + (usdEquivalent (customerNet getByCode rows) rate - usdEquivalent kept rate)| ≤
      refundValueToleranceUsd
  keptOut : kept ≠ 0 → ∀ r ∈ replacements out, r.row.amount < 0

/-- At a rate the whole net has one direction: it is worth something, or the lines are all in one currency. Change is kept
out of a net that covers it and the lines. -/
def OneWay : Prop :=
  ∀ rate, usableRate exchangeRate = some rate →
    let net := usdEquivalent (customerNet getByCode rows) rate
    (kept = 0 → net ≠ 0 ∨ (customerNet getByCode rows).1 = 0 ∨
      ∀ leg ∈ legs, ∀ other ∈ legs, leg.currencyCode = other.currencyCode) ∧
    (kept ≠ 0 → 0 ≤ net ∧
      usdEquivalent (usdLbp (overrideNet legs)) rate + usdEquivalent kept rate ≤ net + refundValueToleranceUsd)

end

section
variable {getByCode : String → Option PaymentMethodEntity} {rows : List PaymentRow} {legs : List RefundLegOverride}
  {exchangeRate : Option ℚ} {cashDrawerCtx : Option ServiceCashDrawerContext} {kept : UsdLbp} {owed : Entries String ℚ}

/-- The reversal as it is booked. -/
def booked (getByCode : String → Option PaymentMethodEntity) (rows : List PaymentRow) (legs : List RefundLegOverride)
    (exchangeRate : Option ℚ) (cashDrawerCtx : Option ServiceCashDrawerContext) : List ReversalRow :=
  (rows.filter (isMirrored getByCode .refund true)).map mirrored ++
    legs.map (lineRow getByCode (overridableNetByCurrency getByCode rows) cashDrawerCtx exchangeRate)

theorem undone_booked : ((booked getByCode rows legs exchangeRate cashDrawerCtx).filter fun r =>
      r.row.note = some reversalNote && r.movesDrawer).map (fun r => (r.row.drawerName, r.row.currencyCode, r.row.amount)) =
    (rows.filter (isUndone getByCode)).map fun p => (p.drawerName, p.currencyCode, -p.amount) := by
  have noLines : (legs.map (lineRow getByCode (overridableNetByCurrency getByCode rows) cashDrawerCtx exchangeRate)).filter
      (fun r => r.row.note = some reversalNote && r.movesDrawer) = [] := by
    refine List.filter_eq_nil_iff.mpr fun r member => ?_
    obtain ⟨leg, -, rfl⟩ := List.mem_map.mp member
    simp [lineRow, reversalNote, overrideNote]
  rw [booked, List.filter_append, noLines, List.append_nil, List.filter_map, List.filter_filter, List.map_map]
  have same : (fun p => ((fun r : ReversalRow => decide (r.row.note = some reversalNote) && r.movesDrawer) ∘ mirrored) p &&
      isMirrored getByCode .refund true p) = isUndone getByCode := by
    funext p
    simp [mirrored, isMirrored, isUndone, Bool.and_comm, Bool.and_left_comm]
  rw [same]
  rfl

theorem auditOnly_booked : ∀ r ∈ booked getByCode rows legs exchangeRate cashDrawerCtx, r.row.note = some reversalNote →
    isAuditOnlyPaymentMethod r.row.method = true → r.movesDrawer = false := by
  intro r member isMirror auditOnly
  rcases List.mem_append.mp member with mirror | line
  · obtain ⟨p, -, rfl⟩ := List.mem_map.mp mirror
    exact congrArg (! ·) auditOnly
  · obtain ⟨leg, -, rfl⟩ := List.mem_map.mp line
    exact absurd isMirror (by simp [lineRow, reversalNote, overrideNote])

theorem amounts_booked (p : ℚ → Prop) : (∀ r ∈ replacements (booked getByCode rows legs exchangeRate cashDrawerCtx), p r.row.amount) ↔
    ∀ leg ∈ legs, p (refundLegReversalSign (overridableNetByCurrency getByCode rows) leg.currencyCode exchangeRate * leg.amount) := by
  rw [booked, replacements_reversed]
  simp [lineRow]

/-- A check of absolute values, where the direction is that of the net. With change kept the rest is not below nothing by
more than its rounding. -/
theorem ownSign_near {net : Entries String ℚ} {c : Currency} {lines keptPart : ℚ}
    (near : |(|net.amount (currencyText c) - keptPart| - lines)| ≤ refundLegAmountEpsilon (currencyText c))
    (keeps : keptPart = 0 ∨ 0 < net.amount (currencyText c) ∧
      keptPart ≤ net.amount (currencyText c) - lines + (keptChangeRoundingTolerance c + floatDust)) :
    |ownSign net (currencyText c) * lines + (net.amount (currencyText c) - keptPart)| ≤ refundLegAmountEpsilon (currencyText c) := by
  rcases keeps with rfl | ⟨came, within⟩
  · rw [sub_zero] at near ⊢
    unfold ownSign
    split_ifs with out
    · rw [abs_of_neg out] at near
      rw [abs_le] at near ⊢
      constructor <;> linarith
    · rw [abs_of_nonneg (not_lt.mp out)] at near
      rw [abs_le] at near ⊢
      constructor <;> linarith
  · have fine : keptChangeRoundingTolerance c + floatDust ≤ refundLegAmountEpsilon (currencyText c) := by
      have usd : refundLegAmountEpsilon "USD" = 1 / 100 := if_neg (by decide)
      have lbp : refundLegAmountEpsilon "LBP" = 1 := if_pos rfl
      cases c <;> norm_num [keptChangeRoundingTolerance, floatDust, currencyText, usd, lbp]
    have most := (abs_le.mp near).2
    have above := le_abs_self (net.amount (currencyText c) - keptPart)
    rw [ownSign, if_neg (not_lt.mpr came.le), abs_le]
    constructor <;> linarith

/-- Without a rate each currency comes back on its own. -/
theorem totals_booked (accepted : Accepted owed legs exchangeRate)
    (resolution : kept = 0 ∧ owed = overridableNetByCurrency getByCode rows ∨
      ∃ c, KeptIn (overridableNetByCurrency getByCode rows) legs kept c ∧
        owed = (overridableNetByCurrency getByCode rows).set (currencyText c)
          ((overridableNetByCurrency getByCode rows).amount (currencyText c) - part kept c))
    (noRate : usableRate exchangeRate = none) (c : Currency) :
    |part (moved (booked getByCode rows legs exchangeRate cashDrawerCtx)) c + (part (customerNet getByCode rows) c - part kept c)| ≤
      refundLegAmountEpsilon (currencyText c) := by
  have near := accepted.totals noRate (currencyText c)
  have isMoved : part (moved (booked getByCode rows legs exchangeRate cashDrawerCtx)) c =
      ownSign (overridableNetByCurrency getByCode rows) (currencyText c) * (overrideNet legs).amount (currencyText c) := by
    rw [← sign_noRate noRate]
    cases c
    · exact movedIn_reversed accepted.valid _ _ _
    · exact movedIn_reversed accepted.valid _ _ _
  have isNet : part (customerNet getByCode rows) c = (overridableNetByCurrency getByCode rows).amount (currencyText c) := by
    cases c <;> rfl
  rw [isMoved, isNet]
  rw [owed_amount resolution c] at near
  rcases resolution with ⟨rfl, -⟩ | ⟨c', keptIn, -⟩
  · exact ownSign_near near (.inl (by cases c <;> rfl))
  · by_cases same : c' = c
    · subst same
      exact ownSign_near near (.inr ⟨keptIn.came, keptIn.within accepted.valid⟩)
    · refine ownSign_near near (.inl ?_)
      rw [← keptIn.inOne]
      cases c <;> cases c' <;> first | rfl | exact absurd rfl same

/-- What a full refund has accepted, with the change that it keeps. -/
structure Checked (net owed : Entries String ℚ) (legs : List RefundLegOverride) (exchangeRate : Option ℚ) (kept : UsdLbp) : Prop where
  inCash : InCash net
  accepted : Accepted owed legs exchangeRate
  resolution : kept = 0 ∧ owed = net ∨
    ∃ c, KeptIn net legs kept c ∧ owed = net.set (currencyText c) (net.amount (currencyText c) - part kept c)

theorem checked {formatMoneyAmount : ℚ → Currency → String} {ctx : KeptContext}
    (noBinance : ∀ p ∈ rows, isBinancePaidLeg p = false)
    (done : validateRefundLegOverride getByCode formatMoneyAmount rows legs exchangeRate ctx = .ok kept) :
    kept = ctx.claimed.getD 0 ∧ ∃ owed, Checked (overridableNetByCurrency getByCode rows) owed legs exchangeRate kept := by
  obtain ⟨resolution, resolving, done⟩ := bind_ok done
  obtain ⟨_, validating, rfl⟩ := map_ok done
  have isResolved : resolveRefundKeptChange getByCode formatMoneyAmount (overridableNetByCurrency getByCode rows) legs ctx =
      .ok resolution := by
    cases result : resolveRefundKeptChange getByCode formatMoneyAmount (overridableNetByCurrency getByCode rows) legs ctx with
    | error plain =>
      rw [result] at resolving
      cases resolving
    | ok found =>
      rw [result] at resolving
      exact congrArg Except.ok (Except.ok.inj resolving)
  have inCash : InCash (overridableNetByCurrency getByCode rows) := overridableNet_inCash noBinance
  obtain ⟨isClaimed, isKept⟩ := resolved isResolved
  exact ⟨isClaimed, resolution.2, inCash, validated (owed_inCash inCash isKept) validating, isKept⟩

theorem ownSign_opposite {net : Entries String ℚ} {rate : ℚ} (positive : 0 < rate) (none : usdEquivalent (usdLbp net) rate = 0)
    (some' : net.amount "USD" ≠ 0) : ownSign net "LBP" = -ownSign net "USD" := by
  rw [usdEquivalent, if_pos positive] at none
  have lira : net.amount "LBP" / rate = -net.amount "USD" := by
    have sum : net.amount "USD" + net.amount "LBP" / rate = 0 := none
    linarith
  unfold ownSign
  rcases lt_or_gt_of_ne some' with out | into
  · have lbp : 0 < net.amount "LBP" := (div_pos_iff_of_pos_right positive).mp (by linarith)
    rw [if_pos out, if_neg (not_lt.mpr lbp.le)]
  · have lbp : net.amount "LBP" < 0 := by
      by_contra nonneg
      have quotient := div_nonneg (not_lt.mp nonneg) positive.le
      linarith
    rw [if_neg (not_lt.mpr into.le), if_pos lbp, neg_neg]

/-- Lines that all have one direction. -/
theorem oneWay_booked (valid : ∀ leg ∈ legs, Valid leg) {sign : ℚ} (unit : sign = 1 ∨ sign = -1)
    (all : ∀ leg ∈ legs, refundLegReversalSign (overridableNetByCurrency getByCode rows) leg.currencyCode exchangeRate = sign) :
    (∀ r ∈ replacements (booked getByCode rows legs exchangeRate cashDrawerCtx), r.row.amount < 0) ∨
      ∀ r ∈ replacements (booked getByCode rows legs exchangeRate cashDrawerCtx), 0 < r.row.amount := by
  rcases unit with rfl | rfl
  · refine .inr ((amounts_booked (0 < ·)).mpr fun leg isLeg => ?_)
    rw [all leg isLeg, one_mul]
    exact (valid leg isLeg).positive
  · refine .inl ((amounts_booked (· < 0)).mpr fun leg isLeg => ?_)
    rw [all leg isLeg, neg_one_mul]
    exact neg_neg_of_pos (valid leg isLeg).positive

/-! At a rate. -/

variable {rate : ℚ} (usable : usableRate exchangeRate = some rate)
  (check : Checked (overridableNetByCurrency getByCode rows) owed legs exchangeRate kept)
include usable check

theorem near_atRate : |(|usdEquivalent (customerNet getByCode rows) rate - usdEquivalent kept rate| -
    usdEquivalent (usdLbp (overrideNet legs)) rate)| ≤ refundValueToleranceUsd := by
  have near := check.accepted.value rate usable
  have isOwed : usdLbp owed = customerNet getByCode rows - kept :=
    Prod.ext (owed_amount check.resolution .usd) (owed_amount check.resolution .lbp)
  rw [isOwed] at near
  have positive := usableRate_pos usable
  have apart : usdEquivalent (customerNet getByCode rows - kept) rate =
      usdEquivalent (customerNet getByCode rows) rate - usdEquivalent kept rate :=
    Till.KeptFunding.usdEquivalent_sub _ _ ⟨rate, positive⟩
  rwa [apart] at near

theorem lines_nonneg : 0 ≤ usdEquivalent (usdLbp (overrideNet legs)) rate := by
  have positive := usableRate_pos usable
  rw [usdEquivalent, if_pos positive]
  exact add_nonneg (overrideNet_nonneg check.accepted.valid _) (div_nonneg (overrideNet_nonneg check.accepted.valid _) positive.le)

/-- The direction of every line where the net is worth something. -/
theorem sign_ofNet (some' : usdEquivalent (customerNet getByCode rows) rate ≠ 0) (currency : String) :
    refundLegReversalSign (overridableNetByCurrency getByCode rows) currency exchangeRate =
      if usdEquivalent (customerNet getByCode rows) rate < 0 then 1 else -1 := by
  rw [sign_rate check.inCash usable]
  exact if_pos some'

theorem sign_ofNone (none : usdEquivalent (customerNet getByCode rows) rate = 0) (currency : String) :
    refundLegReversalSign (overridableNetByCurrency getByCode rows) currency exchangeRate =
      ownSign (overridableNetByCurrency getByCode rows) currency := by
  rw [sign_rate check.inCash usable]
  exact if_neg (not_not.mpr none)

/-- With change kept, every line takes money out of a drawer unless the net is below nothing. -/
theorem sign_ofKept {c : Currency} (keptIn : KeptIn (overridableNetByCurrency getByCode rows) legs kept c)
    (net : 0 ≤ usdEquivalent (customerNet getByCode rows) rate) {leg : RefundLegOverride} (isLeg : leg ∈ legs) :
    refundLegReversalSign (overridableNetByCurrency getByCode rows) leg.currencyCode exchangeRate = -1 := by
  rcases net.eq_or_lt with none | some'
  · rw [sign_ofNone usable check none.symm, keptIn.same leg isLeg, ownSign, if_neg (not_lt.mpr keptIn.came.le)]
  · rw [sign_ofNet usable check some'.ne', if_neg (not_lt.mpr some'.le)]

theorem oneWay_of_givesBack (gives : GivesBack getByCode rows exchangeRate kept (booked getByCode rows legs exchangeRate cashDrawerCtx)) :
    (kept = 0 → usdEquivalent (customerNet getByCode rows) rate ≠ 0 ∨ (customerNet getByCode rows).1 = 0 ∨
      ∀ leg ∈ legs, ∀ other ∈ legs, leg.currencyCode = other.currencyCode) ∧
    (kept ≠ 0 → 0 ≤ usdEquivalent (customerNet getByCode rows) rate ∧
      usdEquivalent (usdLbp (overrideNet legs)) rate + usdEquivalent kept rate ≤
        usdEquivalent (customerNet getByCode rows) rate + refundValueToleranceUsd) := by
  have positive := usableRate_pos usable
  constructor
  · intro _
    by_contra mixed
    simp only [not_or, not_not] at mixed
    obtain ⟨none, some', mixed⟩ := mixed
    push Not at mixed
    obtain ⟨leg, isLeg, other, isOther, differ⟩ := mixed
    have opposite := ownSign_opposite positive none some'
    have differs : refundLegReversalSign (overridableNetByCurrency getByCode rows) leg.currencyCode exchangeRate =
        -refundLegReversalSign (overridableNetByCurrency getByCode rows) other.currencyCode exchangeRate := by
      rw [sign_ofNone usable check none, sign_ofNone usable check none]
      rcases (check.accepted.valid leg isLeg).inCash with isUsd | isLbp
      · rcases (check.accepted.valid other isOther).inCash with same | isLbp
        · exact absurd (isUsd.trans same.symm) differ
        · rw [isUsd, isLbp, opposite, neg_neg]
      · rcases (check.accepted.valid other isOther).inCash with isUsd | same
        · rw [isUsd, isLbp, opposite]
        · exact absurd (isLbp.trans same.symm) differ
    have here := (check.accepted.valid leg isLeg).positive
    have there := (check.accepted.valid other isOther).positive
    rcases gives.oneWay rate usable with out | into
    · have out := (amounts_booked (· < 0)).mp out
      have first := neg_of_mul_neg_left (out leg isLeg) here.le
      have second := neg_of_mul_neg_left (out other isOther) there.le
      linarith
    · have into := (amounts_booked (0 < ·)).mp into
      have first := pos_of_mul_pos_left (into leg isLeg) here.le
      have second := pos_of_mul_pos_left (into other isOther) there.le
      linarith
  · intro keeps
    rcases check.resolution with ⟨none, -⟩ | ⟨c, keptIn, -⟩
    · exact absurd none keeps
    · have out := (amounts_booked (· < 0)).mp (gives.keptOut keeps)
      have net : 0 ≤ usdEquivalent (customerNet getByCode rows) rate := by
        by_contra below
        obtain ⟨leg, isLeg⟩ := List.exists_mem_of_ne_nil legs keptIn.lines
        have backIn := out leg isLeg
        rw [sign_ofNet usable check (not_le.mp below).ne, if_pos (not_le.mp below), one_mul] at backIn
        exact absurd (check.accepted.valid leg isLeg).positive (not_lt.mpr backIn.le)
      refine ⟨net, ?_⟩
      have value := gives.value rate usable
      rw [booked, moved_value check.accepted.valid _ (fun leg isLeg => sign_ofKept usable check keptIn net isLeg) positive] at value
      have least := (abs_le.mp value).1
      linarith

theorem givesBack_atRate (oneWay : OneWay getByCode rows legs exchangeRate kept) :
    ((∀ r ∈ replacements (booked getByCode rows legs exchangeRate cashDrawerCtx), r.row.amount < 0) ∨
      ∀ r ∈ replacements (booked getByCode rows legs exchangeRate cashDrawerCtx), 0 < r.row.amount) ∧
    |usdEquivalent (moved (booked getByCode rows legs exchangeRate cashDrawerCtx)) rate +
      (usdEquivalent (customerNet getByCode rows) rate - usdEquivalent kept rate)| ≤ refundValueToleranceUsd := by
  have positive := usableRate_pos usable
  have near := near_atRate usable check
  have nonneg := lines_nonneg usable check
  obtain ⟨whenNone, whenKept⟩ := oneWay rate usable
  rcases check.resolution with ⟨rfl, -⟩ | ⟨c, keptIn, -⟩
  · have nothing : usdEquivalent 0 rate = 0 := Till.KeptFunding.usdEquivalent_zero ⟨rate, positive⟩
    rw [nothing, sub_zero] at near ⊢
    by_cases none : usdEquivalent (customerNet getByCode rows) rate = 0
    · constructor
      · rcases whenNone rfl with some' | noDollars | oneCurrency
        · exact absurd none some'
        · refine oneWay_booked check.accepted.valid (.inr rfl) fun leg isLeg => ?_
          have noLira : (customerNet getByCode rows).2 = 0 := by
            rw [usdEquivalent, if_pos positive, noDollars, zero_add] at none
            exact (div_eq_zero_iff.mp none).resolve_right positive.ne'
          rw [sign_ofNone usable check none, ownSign]
          refine if_neg (not_lt.mpr (le_of_eq ?_))
          rcases (check.accepted.valid leg isLeg).inCash with isUsd | isLbp
          · rw [isUsd]
            exact noDollars.symm
          · rw [isLbp]
            exact noLira.symm
        · cases legs with
          | nil => exact .inl fun r member => absurd member (by rw [booked, replacements_reversed]; exact List.not_mem_nil)
          | cons first rest =>
            refine oneWay_booked check.accepted.valid
              (sign_unit (overridableNetByCurrency getByCode rows) exchangeRate first.currencyCode) fun leg isLeg => ?_
            rw [oneCurrency leg isLeg first List.mem_cons_self]
      · rw [none, abs_zero, zero_sub, abs_neg, abs_of_nonneg nonneg] at near
        rw [none, add_zero]
        exact (abs_moved_le check.accepted.valid _ positive).trans near
    · have all (leg : RefundLegOverride) (_ : leg ∈ legs) := sign_ofNet usable check none leg.currencyCode
      refine ⟨oneWay_booked check.accepted.valid ?_ all, ?_⟩
      · split_ifs <;> simp
      rw [booked, moved_value check.accepted.valid _ all positive]
      split_ifs with below
      · rw [abs_of_neg below] at near
        rw [abs_le] at near ⊢
        constructor <;> linarith
      · rw [abs_of_nonneg (not_lt.mp below)] at near
        rw [abs_le] at near ⊢
        constructor <;> linarith
  · have keeps : kept ≠ 0 := by
      rintro rfl
      cases c <;> exact absurd keptIn.positive (lt_irrefl _)
    obtain ⟨net, covers⟩ := whenKept keeps
    have all : ∀ leg ∈ legs, _ = _ := fun leg isLeg => sign_ofKept usable check keptIn net isLeg
    refine ⟨oneWay_booked check.accepted.valid (.inr rfl) all, ?_⟩
    rw [booked, moved_value check.accepted.valid _ all positive]
    have most := (abs_le.mp near).2
    have above := le_abs_self (usdEquivalent (customerNet getByCode rows) rate - usdEquivalent kept rate)
    rw [abs_le]
    constructor <;> linarith

end

section
variable {getByCode : String → Option PaymentMethodEntity} {rows : List PaymentRow} {legs : List RefundLegOverride}
  {exchangeRate : Option ℚ} {cashDrawerCtx : Option ServiceCashDrawerContext} {kept : UsdLbp} {out : List ReversalRow}
  {formatMoneyAmount : ℚ → Currency → String} {ctx : KeptContext}

/-- Change is kept out of money that goes out. -/
theorem keptOut_booked {owed : Entries String ℚ} (check : Checked (overridableNetByCurrency getByCode rows) owed legs exchangeRate kept)
    (oneWay : OneWay getByCode rows legs exchangeRate kept) (keeps : kept ≠ 0) :
    ∀ r ∈ replacements (booked getByCode rows legs exchangeRate cashDrawerCtx), r.row.amount < 0 := by
  rcases check.resolution with ⟨none, -⟩ | ⟨c, keptIn, -⟩
  · exact absurd none keeps
  · refine (amounts_booked (· < 0)).mpr fun leg isLeg => ?_
    have away : refundLegReversalSign (overridableNetByCurrency getByCode rows) leg.currencyCode exchangeRate = -1 := by
      cases usable : usableRate exchangeRate with
      | none => rw [sign_noRate usable, keptIn.same leg isLeg, ownSign, if_neg (not_lt.mpr keptIn.came.le)]
      | some rate => exact sign_ofKept usable check keptIn ((oneWay rate usable).2 keeps).1 isLeg
    rw [away, neg_one_mul]
    exact neg_neg_of_pos (check.accepted.valid leg isLeg).positive

/-- A refund through return lines gives back the customer's net, less the change kept, exactly where the net has one direction. -/
theorem reversePayments_givesBack (written : ∀ p ∈ rows, Written p) (noBinance : ∀ p ∈ rows, isBinancePaidLeg p = false)
    (accepted : validateRefundLegOverride getByCode formatMoneyAmount rows legs exchangeRate ctx = .ok kept)
    (done : reversePayments getByCode .refund rows (some legs) exchangeRate cashDrawerCtx = .ok out) :
    GivesBack getByCode rows exchangeRate kept out ↔ OneWay getByCode rows legs exchangeRate (ctx.claimed.getD 0) := by
  obtain ⟨isClaimed, owed, check⟩ := checked noBinance accepted
  obtain rfl : out = booked getByCode rows legs exchangeRate cashDrawerCtx := reversed written done
  rw [← isClaimed]
  constructor
  · exact fun gives rate usable => oneWay_of_givesBack usable check gives
  · intro oneWay
    exact
      { undone := undone_booked
        auditOnly := auditOnly_booked
        totals := totals_booked check.accepted check.resolution
        oneWay := fun rate usable => (givesBack_atRate usable check oneWay).1
        value := fun rate usable => (givesBack_atRate usable check oneWay).2
        keptOut := keptOut_booked check oneWay }

end

def cashOnly (code : String) : Option PaymentMethodEntity :=
  if code = "CASH" then some { drawerName := "General", isActive := true, affectsDrawer := true } else none

def dayRate : KeptContext where
  exchangeRate := ⟨90000, by norm_num⟩
  originalType := "SALE"

/-- A sale of $90: $100 in, 900,000 lira of change out, with a fee label and the offset of a checkpoint. -/
def saleWithChange : List PaymentRow :=
  [{ method := "CASH", drawerName := "General", currencyCode := "USD", amount := 100, note := none },
    { method := "CASH", drawerName := "General", currencyCode := "LBP", amount := -900000, note := none },
    { method := "PM_FEE", drawerName := "OMT_App", currencyCode := "USD", amount := 1, note := none },
    { method := "CHECKPOINT_RESOLUTION", drawerName := "General", currencyCode := "USD", amount := -5, note := none },
    { method := "RESERVE", drawerName := "General", currencyCode := "USD", amount := -20, note := none }]

/-- The sale comes back in lira and dollars. -/
theorem reversePayments_inLira : ∃ out, reversePayments cashOnly .refund saleWithChange
      (some [{ method := "CASH", currencyCode := "LBP", amount := 7200000 }, { method := "CASH", currencyCode := "USD", amount := 10 }])
      (some 90000) none = .ok out ∧
    GivesBack cashOnly saleWithChange (some 90000) 0 out := by
  have accepted : validateRefundLegOverride cashOnly (fun _ _ => "") saleWithChange
      [{ method := "CASH", currencyCode := "LBP", amount := 7200000 }, { method := "CASH", currencyCode := "USD", amount := 10 }]
      (some 90000) dayRate = .ok 0 := by
    decide +kernel
  obtain ⟨out, done⟩ : ∃ out, reversePayments cashOnly .refund saleWithChange
      (some [{ method := "CASH", currencyCode := "LBP", amount := 7200000 }, { method := "CASH", currencyCode := "USD", amount := 10 }])
      (some 90000) none = .ok out := by
    exact ⟨_, rfl⟩
  refine ⟨out, done, (reversePayments_givesBack (by decide +kernel) (by decide +kernel) accepted done).mpr fun rate usable => ?_⟩
  have isRate : usableRate (some 90000) = some 90000 := by decide +kernel
  obtain rfl := Option.some.inj (usable.symm.trans isRate)
  exact ⟨fun _ => .inl (by decide +kernel), fun some' => absurd rfl some'⟩

/-- $10 in and 900,000 lira out are worth nothing at 90,000. A cent and 90 lira pass the check, and the cent leaves the drawer
while the lira come in. -/
theorem reversePayments_twoWays :
    let rows : List PaymentRow :=
      [{ method := "CASH", drawerName := "General", currencyCode := "USD", amount := 10, note := none },
        { method := "CASH", drawerName := "General", currencyCode := "LBP", amount := -900000, note := none }]
    let legs : List RefundLegOverride :=
      [{ method := "CASH", currencyCode := "USD", amount := 1 / 100 }, { method := "CASH", currencyCode := "LBP", amount := 90 }]
    let cent : PaymentRow :=
      { method := "CASH", drawerName := "General", currencyCode := "USD", amount := -1 / 100, note := some overrideNote }
    let lira : PaymentRow :=
      { method := "CASH", drawerName := "General", currencyCode := "LBP", amount := 90, note := some overrideNote }
    (∀ p ∈ rows, Written p) ∧ (∀ p ∈ rows, isBinancePaidLeg p = false) ∧
      validateRefundLegOverride cashOnly (fun _ _ => "") rows legs (some 90000) dayRate = .ok 0 ∧
      reversePayments cashOnly .refund rows (some legs) (some 90000) none = .ok [⟨cent, true⟩, ⟨lira, true⟩] ∧
      ¬((∀ r ∈ replacements [⟨cent, true⟩, ⟨lira, true⟩], r.row.amount < 0) ∨
        ∀ r ∈ replacements [⟨cent, true⟩, ⟨lira, true⟩], 0 < r.row.amount) := by
  decide +kernel

end Liratek.Refund.ReturnedMoney
