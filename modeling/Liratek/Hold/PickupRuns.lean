import Liratek.Hold.HeldRows
import Liratek.Lib.Runs
import Mathlib.Algebra.Order.Monoid.Prod

/-! Held money over whole runs: what is still held, what the drawers hold of it, and what a voided pickup leaves. -/

namespace Liratek.Hold.PickupRuns
open Lib Lib.Calls Lib.Runs Till.KeptChange Till.KeptFunding Till.CustomerLegs Till.Payouts HeldMoney PickupTerms HeldRows
open Voucher.Vouchers (Currency UsdLbp Rate amountIn usdEquivalent legReconciliationEpsilonUsd)

/-- The drop-off of a hold. Lines that only give money out are not checked. -/
def DroppedOff (s : Store) (id : ℕ) (amount : UsdLbp) : Prop :=
  ∃ t transaction, ∃ rate : Rate, s.transactions.get t = some transaction ∧ transaction.type = .holdMoney ∧
    transaction.sourceId = id ∧ rate.value = transaction.exchangeRate ∧
    ((∃ rowId row, s.payments.get rowId = some row ∧ row.transactionId = t ∧ 0 < row.amount) →
      |sumOf s.payments t (worth rate) - usdEquivalent amount rate.value| ≤ legReconciliationEpsilonUsd)

/-- Between nothing and what was dropped off is still held, and nothing of a hold that is collected. -/
structure HoldInStep (s : Store) (id : ℕ) (hold : HoldMoneyRow) : Prop where
  notOver : ∀ c, -holdPickupEpsilon c ≤ part (s.remaining id hold) c
  notMore : ∀ c, part (s.remaining id hold) c ≤ part hold.amount c
  cleared : hold.status = .collected → isCleared (s.remaining id hold) = true
  droppedOff : DroppedOff s id hold.amount

/-- A pickup that stands: its rows pay out what it returns, less what is kept and with what it is rounded up by. -/
def PaidOut (s : Store) (id : ℕ) (pickup : Pickup) : Prop :=
  ∃ t transaction, ∃ rate : Rate, pickup.transactionId = some t ∧ s.transactions.get t = some transaction ∧
    rate.value = transaction.exchangeRate ∧
    |sumOf s.payments t (worth rate) + usdEquivalent pickup.amount rate.value - usdEquivalent transaction.profit rate.value +
      usdEquivalent (roundedUp s.expenses id) rate.value| ≤ pickupTolerance rate ∧
    ∀ v reversal, s.transactions.get v = some reversal → reversal.reversesId ≠ some t

/-- A voided pickup: its only reversal takes its profit and every drawer back, and its round-up is refunded. -/
def TakenBack (s : Store) (id : ℕ) (pickup : Pickup) : Prop :=
  roundedUp s.expenses id = 0 ∧ ∃ t transaction v reversal, pickup.transactionId = some t ∧
    s.transactions.get t = some transaction ∧ s.transactions.get v = some reversal ∧ reversal.reversesId = some t ∧
    transaction.profit + reversal.profit = 0 ∧ transaction.exchangeRate = reversal.exchangeRate ∧
    (∀ drawer cur, sumOf s.payments t (moves drawer cur) + sumOf s.payments v (moves drawer cur) = 0) ∧
    ∀ w other, s.transactions.get w = some other → other.reversesId = some t → w = v

structure HeldInStep (start : String → CurrencyCode → ℚ) (s : Store) : Prop where
  holds : ∀ id hold, s.holds.get id = some hold → HoldInStep s id hold
  live : ∀ id pickup, s.pickups.get id = some pickup → pickup.isVoided = false → PaidOut s id pickup
  voided : ∀ id pickup, s.pickups.get id = some pickup → pickup.isVoided = true → TakenBack s id pickup
  standing : FromStanding start s

/-! What a write leaves as it was. -/

theorem reverses_other {transaction : Transaction} {pickup : Pickup} {t : ℕ}
    (other : transaction.reversesId ≠ pickup.transactionId ∨ transaction.reversesId = none) (isOwn : pickup.transactionId = some t) :
    transaction.reversesId ≠ some t := by
  rw [isOwn] at other
  rcases other with other | none
  · exact other
  · rw [none]
    exact (Option.some_ne_none t).symm

section
variable {s s' : Store} {transaction : Transaction} {rows : List Payment} (recorded : Recorded s s' transaction rows)
include recorded

theorem DroppedOff.after {id : ℕ} {amount : UsdLbp} (droppedOff : DroppedOff s id amount) : DroppedOff s' id amount := by
  obtain ⟨t, dropOff, rate, found, type, source, stamped, near⟩ := droppedOff
  have old := Table.get_lt found
  refine ⟨t, dropOff, rate, recorded.get_old found, type, source, stamped, fun ⟨rowId, row, there, isOf, comesIn⟩ => ?_⟩
  rw [recorded.sumOf_old old]
  rcases recorded.row_cases there with before | isNew
  · exact near ⟨rowId, row, before, isOf, comesIn⟩
  · exact absurd ((recorded.ofNew row isNew).symm.trans isOf) old.ne'

theorem PaidOut.after {id : ℕ} {pickup : Pickup} (paidOut : PaidOut s id pickup)
    (other : transaction.reversesId ≠ pickup.transactionId ∨ transaction.reversesId = none)
    (sameRounding : roundedUp s'.expenses id = roundedUp s.expenses id) : PaidOut s' id pickup := by
  obtain ⟨t, own, rate, isOwn, found, stamped, near, notReversed⟩ := paidOut
  refine ⟨t, own, rate, isOwn, recorded.get_old found, stamped, ?_, fun v reversal there => ?_⟩
  · rwa [recorded.sumOf_old (Table.get_lt found), sameRounding]
  · rcases recorded.get_cases there with before | ⟨-, rfl⟩
    · exact notReversed v reversal before
    · exact reverses_other other isOwn

theorem TakenBack.after {id : ℕ} {pickup : Pickup} (takenBack : TakenBack s id pickup)
    (other : transaction.reversesId ≠ pickup.transactionId ∨ transaction.reversesId = none)
    (sameRounding : roundedUp s'.expenses id = roundedUp s.expenses id) : TakenBack s' id pickup := by
  obtain ⟨notRounded, t, own, v, reversal, isOwn, found, there, reverses, profit, rate, back, only⟩ := takenBack
  refine ⟨by rw [sameRounding, notRounded], t, own, v, reversal, isOwn, recorded.get_old found, recorded.get_old there, reverses, profit,
    rate, fun drawer cur => ?_, fun w second isThere alsoReverses => ?_⟩
  · rw [recorded.sumOf_old (Table.get_lt found), recorded.sumOf_old (Table.get_lt there)]
    exact back drawer cur
  · rcases recorded.get_cases isThere with before | ⟨-, rfl⟩
    · exact only w second before alsoReverses
    · exact absurd alsoReverses (reverses_other other isOwn)

end

/-! Dropping off. -/

section
variable {env : Setting} {s s' : Store}

theorem sum_signed (legs : List ReconciliationLeg) (f : ReconciliationLeg → ℚ) :
    (legs.map fun leg => if leg.isOut then -f leg else f leg).sum =
      ((legs.filter fun leg => !leg.isOut).map f).sum - ((legs.filter (·.isOut)).map f).sum := by
  induction legs with
  | nil => exact (sub_zero 0).symm
  | cons leg rest ih =>
    rw [List.map_cons, List.sum_cons, ih, List.filter_cons, List.filter_cons]
    cases leg.isOut <;> simp <;> ring

/-- Lines in dollars or lira are worth what they count for. -/
theorem value_eq {legs : List ReconciliationLeg} (known : ∀ leg ∈ legs, ∃ c, leg.currencyCode = .known c) (rate : Rate) :
    value legs rate = (legs.map fun leg => worthIn rate leg.currencyCode |leg.amount|).sum := by
  induction legs with
  | nil => exact usdEquivalent_zero rate
  | cons leg rest ih =>
    obtain ⟨⟨c, isKnown⟩, others⟩ := List.forall_mem_cons.mp known
    have first : usdEquivalent (legAmount leg) rate.value = worthIn rate leg.currencyCode |leg.amount| := by
      rw [legAmount, isKnown, worthIn_known]
      rfl
    rw [List.map_cons, List.sum_cons, ← ih others, ← first]
    exact usdEquivalent_add _ _ rate

theorem worthIn_neg (rate : Rate) (cur : CurrencyCode) (amount : ℚ) : worthIn rate cur (-amount) = -worthIn rate cur amount := by
  unfold worthIn
  split
  · rfl
  · exact neg_div _ _
  · exact neg_mul _ _

theorem worthIn_zero (rate : Rate) (cur : CurrencyCode) : worthIn rate cur 0 = 0 := by
  have opposite := worthIn_neg rate cur 0
  rw [neg_zero] at opposite
  linarith

theorem known_legs (legs : List HoldMoneyPaymentLeg) : ∀ leg ∈ legs.map toReconciliationLeg, ∃ c, leg.currencyCode = .known c := by
  intro leg member
  obtain ⟨own, -, rfl⟩ := List.mem_map.mp member
  exact ⟨own.currencyCode, rfl⟩

/-- Lines of nothing are not posted. -/
theorem sum_nonEmpty {f : ReconciliationLeg → ℚ} (nothing : ∀ leg, |leg.amount| = 0 → f leg = 0) (legs : List ReconciliationLeg) :
    ((nonEmpty legs).map f).sum = (legs.map f).sum := by
  unfold nonEmpty
  rw [← Table.sum_filter_ite]
  refine congrArg List.sum (List.map_congr_left fun leg _ => ?_)
  split_ifs with some'
  · rfl
  · exact (nothing leg (le_antisymm (not_lt.mp fun above => some' (decide_eq_true above)) (abs_nonneg _))).symm

theorem sum_fallback (rate : Rate) {amount : UsdLbp} (nonneg : 0 ≤ amount) (sign : ℚ) :
    ((fallbackCashLegs env amount sign).map fun posting => worthIn rate posting.currencyCode posting.amount).sum =
      sign * usdEquivalent amount rate.value := by
  have usd0 : 0 ≤ amount.1 := nonneg.1
  have lbp0 : 0 ≤ amount.2 := nonneg.2
  have usd : ((if 0 < amount.1 then [posting env "CASH" (.known .usd) (sign * amount.1)] else []).map
      fun posting => worthIn rate posting.currencyCode posting.amount).sum = sign * amount.1 := by
    split_ifs with some'
    · exact add_zero _
    · rw [le_antisymm (not_lt.mp some') usd0, mul_zero]
      rfl
  have lbp : ((if 0 < amount.2 then [posting env "CASH" (.known .lbp) (sign * amount.2)] else []).map
      fun posting => worthIn rate posting.currencyCode posting.amount).sum = sign * (amount.2 / rate.value) := by
    split_ifs with some'
    · exact (add_zero _).trans (mul_div_assoc _ _ _)
    · rw [le_antisymm (not_lt.mp some') lbp0, zero_div, mul_zero]
      rfl
  unfold fallbackCashLegs
  rw [List.map_append, List.sum_append, usd, lbp, usdEquivalent_eq]
  ring

variable {data : CreateHoldInput}

theorem amount_nonneg (data : CreateHoldInput) : 0 ≤ data.amount :=
  ⟨abs_nonneg _, abs_nonneg _⟩

/-- What the drop-off's rows bring in is what is held, when one of its lines comes in. -/
theorem dropOff_near (reconciled : (if data.legs = [] then .ok ()
      else reconcileLegs (data.common env) (data.legs.filter (!·.isOut)) (data.legs.filter (·.isOut)) 0 data.amount) = Except.ok ())
    {posting : Posting} (member : posting ∈ dropOffPostings env data) (comesIn : 0 < posting.amount) :
    |((dropOffPostings env data).map fun posting => worthIn (data.common env).rate posting.currencyCode posting.amount).sum -
      usdEquivalent data.amount (data.common env).rate.value| ≤ legReconciliationEpsilonUsd := by
  unfold dropOffPostings at member ⊢
  split_ifs at reconciled member ⊢ with none
  · rw [sum_fallback _ (amount_nonneg data), one_mul, sub_self, abs_zero]
    norm_num [legReconciliationEpsilonUsd]
  · have someIn : data.legs.filter (!·.isOut) ≠ [] := by
      intro noIn
      obtain ⟨leg, isLeg, rfl⟩ := List.mem_map.mp member
      have isOut := List.filter_eq_nil_iff.mp noIn leg (List.mem_filter.mp isLeg).1
      have goesOut : (dropOffPosting env leg).amount = -|leg.amount| := by
        unfold dropOffPosting HeldMoney.posting
        dsimp only
        rw [if_pos (by simpa using isOut)]
      rw [goesOut] at comesIn
      exact absurd comesIn (not_lt.mpr (neg_nonpos.mpr (abs_nonneg _)))
    have near := reconcileLegs_ok reconciled someIn
    have known := known_legs (data.payments.getD [])
    have knownIn : ∀ leg ∈ data.legs.filter (!·.isOut), ∃ c, leg.currencyCode = .known c := fun leg isLeg =>
      known leg (List.mem_filter.mp isLeg).1
    have knownOut : ∀ leg ∈ data.legs.filter (·.isOut), ∃ c, leg.currencyCode = .known c := fun leg isLeg =>
      known leg (List.mem_filter.mp isLeg).1
    rw [value_eq knownIn, value_eq knownOut, ← sum_signed, usdEquivalent_zero, sub_zero] at near
    rw [List.map_map, sum_nonEmpty]
    · convert near using 3
      refine congrArg List.sum (List.map_congr_left fun leg _ => ?_)
      unfold Function.comp dropOffPosting HeldMoney.posting
      dsimp only
      split_ifs
      · exact worthIn_neg _ _ _
      · rfl
    · intro leg zero
      unfold Function.comp dropOffPosting HeldMoney.posting
      dsimp only
      rw [zero, neg_zero, ite_self, worthIn_zero]

end

/-! What is still held. -/

section
variable {s s' : Store}

theorem part_nonneg {amounts : UsdLbp} (nonneg : 0 ≤ amounts) (c : Currency) : 0 ≤ part amounts c :=
  nonneg_part ⟨nonneg.1, nonneg.2⟩ c

theorem part_sub (x y : UsdLbp) (c : Currency) : part (x - y) c = part x c - part y c := by
  cases c <;> rfl

theorem returned_nonneg (linked : Linked s) (id : ℕ) : 0 ≤ s.returned id := by
  unfold Store.returned
  rw [Table.total_rows]
  refine List.sum_nonneg fun x member => ?_
  obtain ⟨entry, isRow, rfl⟩ := List.mem_map.mp member
  unfold liveOf
  split_ifs
  · exact linked.nonneg entry.1 entry.2 (Table.mem_rows.mp isRow)
  · exact le_rfl

/-- Nothing has been returned of a hold that is not there yet. -/
theorem returned_new (linked : Linked s) {id : ℕ} (isNew : s.holds.get id = none) : s.returned id = 0 := by
  refine Table.total_eq_zero fun pickupId pickup found => if_neg fun ⟨same, _⟩ => ?_
  obtain ⟨hold, there⟩ := linked.holds pickupId pickup found
  rw [same, isNew] at there
  cases there

theorem notMore_of (linked : Linked s) (id : ℕ) (hold : HoldMoneyRow) (c : Currency) :
    part (s.remaining id hold) c ≤ part hold.amount c := by
  unfold Store.remaining
  rw [part_sub]
  exact sub_le_self _ (part_nonneg (returned_nonneg linked id) c)

/-- A hold of which as much remains as before. -/
theorem HoldInStep.after {id : ℕ} {hold hold' : HoldMoneyRow} (inStep : HoldInStep s id hold) (amount : hold'.amount = hold.amount)
    (status : hold'.status = .collected → hold.status = .collected) (returned : s'.returned id = s.returned id)
    (droppedOff : DroppedOff s id hold.amount → DroppedOff s' id hold.amount) : HoldInStep s' id hold' := by
  have same : s'.remaining id hold' = s.remaining id hold := by
    unfold Store.remaining
    rw [amount, returned]
  exact ⟨fun c => by rw [same]; exact inStep.notOver c, fun c => by rw [same, amount]; exact inStep.notMore c,
    fun collected => by rw [same]; exact inStep.cleared (status collected), by rw [amount]; exact droppedOff inStep.droppedOff⟩

end

def InStep (start : String → CurrencyCode → ℚ) (s : Store) : Prop :=
  Linked s ∧ HeldInStep start s

section
variable {env : Setting} {start : String → CurrencyCode → ℚ} {s s' : Store}

theorem createHold_ok {data : CreateHoldInput} (done : createHold env data s = .ok s') :
    ∃ rows, Recorded s s' (data.transaction env s.holds.nextId) rows ∧ s'.holds = s.holds.insert data.row ∧
      s'.pickups = s.pickups ∧ s'.expenses = s.expenses ∧
      ((∃ row ∈ rows, 0 < row.amount) →
        |(rows.map (worth (data.common env).rate)).sum - usdEquivalent data.amount (data.common env).rate.value| ≤
          legReconciliationEpsilonUsd) := by
  obtain ⟨_, -, done⟩ := bind_ok done
  obtain ⟨_, -, done⟩ := bind_ok done
  obtain ⟨_, reconciled, done⟩ := bind_ok done
  obtain ⟨rows, posted, rfl⟩ := postAll_ok done
  refine ⟨rows, recorded_of_posted posted rfl rfl fun _ _ => rfl, rfl, rfl, rfl, fun ⟨row, isRow, comesIn⟩ => ?_⟩
  obtain ⟨posting, isPosting, own⟩ := mem_posted posted isRow
  rw [sum_worth posted]
  exact dropOff_near reconciled isPosting (own.amount ▸ comesIn)

theorem createHold_linked {data : CreateHoldInput} (linked : Linked s) (done : createHold env data s = .ok s') : Linked s' := by
  obtain ⟨rows, recorded, holds, pickups, expenses, -⟩ := createHold_ok done
  refine ⟨recorded.fresh linked, recorded.settled' linked, ?_, recorded.reverses linked (fun t none => by cases none), ?_, ?_, ?_, ?_⟩
  · rw [pickups, expenses]
    exact linked.expenses
  · rw [pickups, holds]
    intro id pickup found
    obtain ⟨hold, there⟩ := linked.holds id pickup found
    exact ⟨hold, Table.get_insert_of_get there⟩
  · rw [pickups]
    exact linked.nonneg
  · rw [pickups]
    intro id pickup found
    obtain ⟨t, transaction, isOwn, there, type⟩ := linked.own id pickup found
    exact ⟨t, transaction, isOwn, recorded.get_old there, type⟩
  · rw [pickups]
    exact linked.once

theorem createHold_inStep {data : CreateHoldInput} (inv : InStep start s) (done : createHold env data s = .ok s') :
    InStep start s' := by
  obtain ⟨linked, held⟩ := inv
  have linked' := createHold_linked linked done
  obtain ⟨rows, recorded, holds, pickups, expenses, near⟩ := createHold_ok done
  have returned (id : ℕ) : s'.returned id = s.returned id := by
    unfold Store.returned
    rw [pickups]
  refine ⟨linked', ?_, ?_, ?_, ?_, ?_⟩
  · intro id hold found
    rw [holds] at found
    rcases Table.get_insert found with old | ⟨rfl, rfl⟩
    · exact (held.holds id hold old).after rfl (fun collected => collected) (returned id) fun droppedOff => droppedOff.after recorded
    · have none : s'.returned s.holds.nextId = 0 := by
        rw [returned, returned_new linked (Table.get_of_le le_rfl)]
      refine ⟨fun c => ?_, notMore_of linked' _ _, (fun collected => by cases collected), ?_⟩
      · unfold Store.remaining
        rw [none, sub_zero]
        exact (neg_nonpos.mpr (epsilon_nonneg c)).trans (part_nonneg (amount_nonneg data) c)
      · refine ⟨_, _, (data.common env).rate, recorded.get_new, rfl, rfl, rfl, fun ⟨rowId, row, there, isOf, comesIn⟩ => ?_⟩
        rw [recorded.sumOf_new linked]
        rcases recorded.row_cases there with before | isNew
        · exact absurd isOf (linked.fresh rowId row before).ne
        · exact near ⟨row, isNew, comesIn⟩
  · rw [pickups]
    intro id pickup found live
    exact (held.live id pickup found live).after recorded (.inr rfl) (by rw [expenses])
  · rw [pickups]
    intro id pickup found voided
    exact (held.voided id pickup found voided).after recorded (.inr rfl) (by rw [expenses])
  · intro drawer cur
    rw [recorded.balance, recorded.dropOffMoves linked, held.standing.drawers, pickups]
    have same : s.pickups.total (pickupMoves s'.payments drawer cur) = s.pickups.total (pickupMoves s.payments drawer cur) :=
      Table.total_congr fun id pickup found => recorded.pickupMoves linked found drawer cur
    rw [same, if_pos (show (data.transaction env s.holds.nextId).type = .holdMoney from rfl)]
    ring
  · have same : s.pickups.total (profitOf s'.transactions) = s.pickups.total (profitOf s.transactions) :=
      Table.total_congr fun id pickup found => recorded.profitOf linked found
    rw [recorded.transactions, Table.total_insert, pickups, ← recorded.transactions, same, held.standing.profit]
    exact add_zero _

end

/-! Picking up. -/

section
variable {env : Setting} {start : String → CurrencyCode → ℚ} {s s' : Store} {data : CollectHoldInput}

theorem sum_payoutPostings (rate : Rate) {portion : UsdLbp} (nonneg : 0 ≤ portion) :
    ((payoutPostings env data portion).map fun posting => worthIn rate posting.currencyCode posting.amount).sum =
      -payoutWorth rate data portion := by
  unfold payoutPostings payoutWorth
  split_ifs with none
  · rw [sum_fallback rate nonneg, neg_one_mul]
  · have known : ∀ leg ∈ nonEmpty data.legs, ∃ c, leg.currencyCode = .known c := fun leg isLeg =>
      known_legs (data.payments.getD []) leg (List.mem_filter.mp isLeg).1
    rw [value_eq known, List.map_map, List.sum_neg, List.map_map]
    refine congrArg List.sum (List.map_congr_left fun leg _ => ?_)
    exact worthIn_neg rate _ _

/-- The portion is something, and no more than what remains. -/
structure Asked (remaining portion : UsdLbp) : Prop where
  nonneg : 0 ≤ portion
  fits : ∀ c, part portion c ≤ part remaining c + holdPickupEpsilon c

theorem checkPortion_ok {remaining portion : UsdLbp} {u : Unit} (done : checkPortion env remaining portion = .ok u) :
    Asked remaining portion := by
  obtain ⟨_, notNegative, done⟩ := bind_ok done
  obtain ⟨_, usd, done⟩ := bind_ok done
  obtain ⟨_, lbp, -⟩ := bind_ok done
  obtain ⟨usd0, lbp0⟩ := Bool.or_eq_false_iff.mp (refuseIf_ok notNegative)
  refine ⟨⟨not_lt.mp (of_decide_eq_false usd0), not_lt.mp (of_decide_eq_false lbp0)⟩, fun c => ?_⟩
  cases c
  · exact not_lt.mp (of_decide_eq_false (refuseIf_ok usd))
  · exact not_lt.mp (of_decide_eq_false (refuseIf_ok lbp))

/-- What a pickup has checked and written. -/
structure Collected (env : Setting) (data : CollectHoldInput) (s s' : Store) (hold : HoldMoneyRow) (portion : UsdLbp) (terms : Terms)
    (rows : List Payment) : Prop where
  found : s.holds.get data.id = some hold
  held : hold.status = .held
  asked : Asked (s.remaining data.id hold) portion
  recorded : Recorded s s' (data.transaction env hold portion terms.kept) rows
  pickups : s'.pickups = s.pickups.insert { holdMoneyId := data.id, transactionId := s.transactions.nextId, amount := portion }
  expenses : s'.expenses =
    if any terms.rounding then s.expenses.insert { pickupId := s.pickups.nextId, amount := terms.rounding } else s.expenses
  holds : s'.holds =
    if isCleared (s.remaining data.id hold - portion) then s.holds.update data.id fun row => { row with status := .collected }
    else s.holds
  rounding : 0 ≤ terms.rounding
  near : |(rows.map (worth (data.common env).rate)).sum + usdEquivalent portion (data.common env).rate.value -
    usdEquivalent terms.kept (data.common env).rate.value + usdEquivalent terms.rounding (data.common env).rate.value| ≤
      pickupTolerance (data.common env).rate

theorem collectHold_ok (done : collectHold env data s = .ok s') : ∃ hold portion terms rows, Collected env data s s' hold portion terms rows := by
  obtain ⟨_, entered, done⟩ := bind_ok done
  cases found : s.holds.get data.id with
  | none =>
    rw [found] at done
    cases done
  | some hold =>
    rw [found] at done
    obtain ⟨_, isHeld, done⟩ := bind_ok done
    obtain ⟨_, checked, done⟩ := bind_ok done
    obtain ⟨terms, resolved, done⟩ := bind_ok done
    obtain ⟨added, addedDone, done⟩ := bind_ok done
    obtain ⟨posted, isPosted, rfl⟩ := map_ok done
    obtain ⟨rows, each, rfl⟩ := postAll_ok isPosted
    have asked := checkPortion_ok checked
    have hasLines : data.legs = [] ∨ nonEmpty data.legs ≠ [] := by
      have entered := refuseIf_ok entered
      rw [Bool.and_eq_false_iff, Bool.not_eq_false', List.isEmpty_iff] at entered
      exact entered.imp_right fun some' none => by rw [none] at some'; cases some'
    refine ⟨hold, _, terms, rows, found, not_not.mp (of_decide_eq_false (refuseIf_ok isHeld)), asked,
      recorded_of_posted each rfl rfl fun _ _ => rfl, rfl, rfl, rfl, rounding_nonneg resolved, ?_⟩
    rw [sum_worth each, List.map_append, List.sum_append, sum_addedPostings addedDone, sum_payoutPostings _ asked.nonneg,
      ← sub_eq_add_neg]
    exact resolvePickup_onTerms resolved ⟨asked.nonneg.1, asked.nonneg.2⟩ hasLines

end

/-! The round-ups of the pickups. -/

section
variable {s : Store}

theorem roundedUp_new (linked : Linked s) : roundedUp s.expenses s.pickups.nextId = 0 :=
  Table.total_eq_zero fun id row found => if_neg fun isOf => (linked.expenses id row found).ne isOf.1

theorem roundedUp_insert (expenses : Table RoundingExpense) (pickupId : ℕ) (amount : UsdLbp) (id : ℕ) :
    roundedUp (expenses.insert { pickupId, amount }) id = roundedUp expenses id + if pickupId = id then amount else 0 := by
  unfold roundedUp
  rw [Table.total_insert]
  simp only [and_true]

def refundOf (pickupId : ℕ) (expenses : Table RoundingExpense) : Table RoundingExpense :=
  expenses.updateWhere (fun row => row.pickupId = pickupId && !row.isRefunded) fun row => { row with isRefunded := true }

theorem roundedUp_refunded (expenses : Table RoundingExpense) (id : ℕ) : roundedUp (refundOf id expenses) id = 0 := by
  unfold roundedUp refundOf
  rw [Table.total_updateWhere]
  refine Table.total_eq_zero fun rowId row _ => ?_
  split_ifs with isOf stands
  · cases stands.2
  · rfl
  · simp [‹row.pickupId = id ∧ row.isRefunded = false›] at isOf
  · rfl

theorem roundedUp_other (expenses : Table RoundingExpense) {id other : ℕ} (ne : other ≠ id) :
    roundedUp (refundOf id expenses) other = roundedUp expenses other := by
  unfold roundedUp refundOf
  rw [Table.total_updateWhere]
  refine Table.total_congr fun rowId row _ => ?_
  by_cases isOf : (row.pickupId = id && !row.isRefunded) = true
  · have same : row.pickupId = id := of_decide_eq_true (Bool.and_eq_true_iff.mp isOf).1
    rw [if_pos isOf, if_neg fun stands => ne (stands.1.symm.trans same), if_neg fun stands => ne (stands.1.symm.trans same)]
  · rw [if_neg isOf]

end

section
variable {env : Setting} {start : String → CurrencyCode → ℚ} {s s' : Store} {data : CollectHoldInput} {hold : HoldMoneyRow}
  {portion : UsdLbp} {terms : Terms} {rows : List Payment}

/-- Holds keep what was dropped off; only the one picked up from may change its status. -/
theorem Collected.hold_cases (collected : Collected env data s s' hold portion terms rows) {id : ℕ} {hold' : HoldMoneyRow}
    (found : s'.holds.get id = some hold') :
    (s.holds.get id = some hold' ∧ (id = data.id → isCleared (s.remaining data.id hold - portion) = false)) ∨
      (id = data.id ∧ hold' = { hold with status := .collected } ∧ isCleared (s.remaining data.id hold - portion) = true) := by
  rw [collected.holds] at found
  split_ifs at found with cleared
  · by_cases isIt : id = data.id
    · rw [isIt, Table.get_update_self, collected.found] at found
      exact .inr ⟨isIt, (Option.some.inj found).symm, cleared⟩
    · rw [Table.get_update_of_ne _ _ isIt] at found
      exact .inl ⟨found, fun same => absurd same isIt⟩
  · exact .inl ⟨found, fun _ => Bool.eq_false_iff.mpr cleared⟩

theorem Collected.hold_stays (collected : Collected env data s s' hold portion terms rows) {id : ℕ} {other : HoldMoneyRow}
    (found : s.holds.get id = some other) : ∃ hold', s'.holds.get id = some hold' := by
  rw [collected.holds]
  split_ifs
  · exact ⟨_, Table.get_update_of_get found _ _⟩
  · exact ⟨other, found⟩

theorem Collected.pickup_cases (collected : Collected env data s s' hold portion terms rows) {id : ℕ} {pickup : Pickup}
    (found : s'.pickups.get id = some pickup) :
    s.pickups.get id = some pickup ∨
      id = s.pickups.nextId ∧ pickup = { holdMoneyId := data.id, transactionId := s.transactions.nextId, amount := portion } := by
  rw [collected.pickups] at found
  exact Table.get_insert found

theorem Collected.returned (collected : Collected env data s s' hold portion terms rows) (id : ℕ) :
    s'.returned id = s.returned id + if data.id = id then portion else 0 := by
  unfold Store.returned
  rw [collected.pickups, Table.total_insert]
  unfold liveOf
  simp only [and_true]

theorem Collected.roundedUp (collected : Collected env data s s' hold portion terms rows) {id : ℕ} (old : id < s.pickups.nextId) :
    roundedUp s'.expenses id = HeldRows.roundedUp s.expenses id := by
  rw [collected.expenses]
  split_ifs
  · rw [roundedUp_insert, if_neg old.ne', add_zero]
  · rfl

theorem Collected.roundedUp_new (collected : Collected env data s s' hold portion terms rows) (linked : Linked s) :
    HeldRows.roundedUp s'.expenses s.pickups.nextId = terms.rounding := by
  rw [collected.expenses]
  split_ifs with some'
  · rw [roundedUp_insert, if_pos rfl, PickupRuns.roundedUp_new linked, zero_add]
  · have none := Bool.or_eq_false_iff.mp (Bool.eq_false_iff.mpr some')
    rw [PickupRuns.roundedUp_new linked]
    exact Prod.ext (le_antisymm collected.rounding.1 (not_lt.mp (of_decide_eq_false none.1)))
      (le_antisymm collected.rounding.2 (not_lt.mp (of_decide_eq_false none.2)))

theorem Collected.linked (collected : Collected env data s s' hold portion terms rows) (linked : Linked s) : Linked s' := by
  have recorded := collected.recorded
  refine ⟨recorded.fresh linked, recorded.settled' linked, ?_, recorded.reverses linked (fun t none => by cases none), ?_, ?_, ?_, ?_⟩
  · intro id row found
    rw [collected.pickups, Table.nextId_insert]
    rw [collected.expenses] at found
    split_ifs at found
    · rcases Table.get_insert found with old | ⟨-, rfl⟩
      · exact Nat.lt_succ_of_lt (linked.expenses id row old)
      · exact Nat.lt_succ_self _
    · exact Nat.lt_succ_of_lt (linked.expenses id row found)
  · intro id pickup found
    rcases collected.pickup_cases found with old | ⟨-, rfl⟩
    · obtain ⟨own, there⟩ := linked.holds id pickup old
      exact collected.hold_stays there
    · exact collected.hold_stays collected.found
  · intro id pickup found
    rcases collected.pickup_cases found with old | ⟨-, rfl⟩
    · exact linked.nonneg id pickup old
    · exact collected.asked.nonneg
  · intro id pickup found
    rcases collected.pickup_cases found with old | ⟨-, rfl⟩
    · obtain ⟨t, transaction, isOwn, there, type⟩ := linked.own id pickup old
      exact ⟨t, transaction, isOwn, recorded.get_old there, type⟩
    · exact ⟨_, _, rfl, recorded.get_new, rfl⟩
  · -- a new transaction is not that of an old pickup
    have apart {id : ℕ} {pickup : Pickup} (old : s.pickups.get id = some pickup)
        (same : pickup.transactionId = some s.transactions.nextId) : False := by
      obtain ⟨t, transaction, isOwn, there, -⟩ := linked.own id pickup old
      rw [isOwn] at same
      exact (Table.get_lt there).ne (Option.some.inj same)
    intro id pickup id' pickup' found found' same
    rcases collected.pickup_cases found with old | ⟨rfl, rfl⟩ <;> rcases collected.pickup_cases found' with old' | ⟨rfl, rfl⟩
    · exact linked.once id pickup id' pickup' old old' same
    · exact (apart old same).elim
    · exact (apart old' same.symm).elim
    · rfl

theorem Collected.holdInStep (collected : Collected env data s s' hold portion terms rows) (linked : Linked s)
    (held : ∀ id hold, s.holds.get id = some hold → HoldInStep s id hold) (id : ℕ) (hold' : HoldMoneyRow)
    (found : s'.holds.get id = some hold') : HoldInStep s' id hold' := by
  by_cases isIt : id = data.id
  · rw [isIt] at found ⊢
    have before := held data.id hold collected.found
    have amount : hold'.amount = hold.amount ∧
        (hold'.status = .collected → isCleared (s.remaining data.id hold - portion) = true) := by
      rcases collected.hold_cases found with ⟨old, -⟩ | ⟨-, rfl, cleared⟩
      · rw [collected.found] at old
        obtain rfl := Option.some.inj old
        refine ⟨rfl, fun isCollected => ?_⟩
        rw [collected.held] at isCollected
        cases isCollected
      · exact ⟨rfl, fun _ => cleared⟩
    have remains : s'.remaining data.id hold' = s.remaining data.id hold - portion := by
      unfold Store.remaining
      rw [amount.1, collected.returned, if_pos rfl, sub_add_eq_sub_sub]
    refine ⟨fun c => ?_, notMore_of (collected.linked linked) _ _, fun isCollected => ?_, ?_⟩
    · rw [remains, part_sub]
      linarith [collected.asked.fits c]
    · rw [remains]
      exact amount.2 isCollected
    · rw [amount.1]
      exact before.droppedOff.after collected.recorded
  · rcases collected.hold_cases found with ⟨old, -⟩ | ⟨same, -⟩
    · refine (held id hold' old).after rfl (fun isCollected => isCollected) ?_ fun droppedOff => droppedOff.after collected.recorded
      rw [collected.returned, if_neg (Ne.symm isIt), add_zero]
    · exact absurd same isIt

theorem Collected.paidOut (collected : Collected env data s s' hold portion terms rows) (linked : Linked s) :
    PaidOut s' s.pickups.nextId { holdMoneyId := data.id, transactionId := s.transactions.nextId, amount := portion } := by
  have recorded := collected.recorded
  refine ⟨_, _, (data.common env).rate, rfl, recorded.get_new, rfl, ?_, fun v reversal there => ?_⟩
  · rw [recorded.sumOf_new linked, collected.roundedUp_new linked]
    exact collected.near
  · rcases recorded.get_cases there with before | ⟨-, rfl⟩
    · exact fun isReversed => lt_irrefl _ (linked.reverses v reversal _ before isReversed)
    · exact fun none => by cases none

theorem collectHold_inStep (inv : InStep start s) (done : collectHold env data s = .ok s') : InStep start s' := by
  obtain ⟨linked, held⟩ := inv
  obtain ⟨hold, portion, terms, rows, collected⟩ := collectHold_ok done
  have recorded := collected.recorded
  refine ⟨collected.linked linked, collected.holdInStep linked held.holds, ?_, ?_, ?_, ?_⟩
  · intro id pickup found live
    rcases collected.pickup_cases found with old | ⟨rfl, rfl⟩
    · exact (held.live id pickup old live).after recorded (.inr rfl) (collected.roundedUp (Table.get_lt old))
    · exact collected.paidOut linked
  · intro id pickup found voided
    rcases collected.pickup_cases found with old | ⟨rfl, rfl⟩
    · exact (held.voided id pickup old voided).after recorded (.inr rfl) (collected.roundedUp (Table.get_lt old))
    · cases voided
  · intro drawer cur
    have same : s.pickups.total (pickupMoves s'.payments drawer cur) = s.pickups.total (pickupMoves s.payments drawer cur) :=
      Table.total_congr fun id pickup found => recorded.pickupMoves linked found drawer cur
    have own : pickupMoves s'.payments drawer cur { holdMoneyId := data.id, transactionId := s.transactions.nextId, amount := portion } =
        (rows.map (moves drawer cur)).sum := recorded.sumOf_new linked _
    rw [recorded.balance, recorded.dropOffMoves linked, held.standing.drawers, collected.pickups, Table.total_insert, same, own,
      if_neg (show (data.transaction env hold portion terms.kept).type ≠ .holdMoney by intro same; cases same)]
    ring
  · have same : s.pickups.total (profitOf s'.transactions) = s.pickups.total (profitOf s.transactions) :=
      Table.total_congr fun id pickup found => recorded.profitOf linked found
    have own : profitOf s'.transactions { holdMoneyId := data.id, transactionId := s.transactions.nextId, amount := portion } =
        terms.kept := by
      unfold profitOf
      rw [Option.bind_some, recorded.get_new]
      rfl
    rw [collected.pickups, Table.total_insert, same, own, recorded.transactions, Table.total_insert, held.standing.profit]
    rfl

end

/-! Voiding a pickup. -/

section
variable {env : Setting} {start : String → CurrencyCode → ℚ} {s s' : Store} {id : ℕ} {pickup : Pickup} {hold : HoldMoneyRow}
  {t : ℕ} {original : Transaction} {rows : List Payment}

theorem sum_rowsOf (s : Store) (t : ℕ) (f : Payment → ℚ) : ((s.rowsOf t).map f).sum = sumOf s.payments t f := by
  unfold Store.rowsOf sumOf
  rw [List.map_map]
  have sums := Table.sum_select s.payments (fun row => row.transactionId = t) f
  simp only [decide_eq_true_eq] at sums
  exact sums

theorem rowsOf_settled (linked : Linked s) (t : ℕ) : ∀ row ∈ s.rowsOf t, Settled row := by
  intro row member
  obtain ⟨entry, isRow, rfl⟩ := List.mem_map.mp member
  exact linked.settled entry.1 entry.2 (Table.mem_select.mp isRow).1

/-- What a void has found and written. -/
structure Voided (env : Setting) (s s' : Store) (id : ℕ) (pickup : Pickup) (hold : HoldMoneyRow) (t : ℕ) (original : Transaction)
    (rows : List Payment) : Prop where
  found : s.pickups.get id = some pickup
  live : pickup.isVoided = false
  holdFound : s.holds.get pickup.holdMoneyId = some hold
  own : pickup.transactionId = some t
  originalFound : s.transactions.get t = some original
  recorded : Recorded s s' (voidTransaction env id pickup hold (some original)) rows
  back : ∀ drawer cur, (rows.map (moves drawer cur)).sum = -sumOf s.payments t (moves drawer cur)
  pickups : s'.pickups = s.pickups.update id fun row => { row with isVoided := true }
  expenses : s'.expenses = refundOf id s.expenses
  holds : s'.holds =
    if hold.status = .collected then s.holds.update pickup.holdMoneyId fun row => { row with status := .held } else s.holds

theorem voidPickup_ok (linked : Linked s) (done : voidPickup env id s = .ok s') :
    ∃ pickup hold t original rows, Voided env s s' id pickup hold t original rows := by
  unfold voidPickup at done
  cases found : s.pickups.get id with
  | none =>
    rw [found] at done
    cases done
  | some pickup =>
    rw [found] at done
    obtain ⟨_, live, done⟩ := bind_ok done
    obtain ⟨t, original, own, originalFound, -⟩ := linked.own id pickup found
    obtain ⟨hold, holdFound⟩ := linked.holds id pickup found
    rw [holdFound] at done
    obtain ⟨posted, isPosted, rfl⟩ := map_ok done
    obtain ⟨rows, each, rfl⟩ := postAll_ok isPosted
    have isOriginal : pickup.transactionId.bind s.transactions.get = some original := by
      rw [own]
      exact originalFound
    rw [own, Option.map_some, Option.getD_some] at each
    refine ⟨pickup, hold, t, original, rows, found, refuseIf_ok live, holdFound, own, originalFound, ?_, fun drawer cur => ?_,
      rfl, rfl, rfl⟩
    · rw [← isOriginal]
      exact recorded_of_posted each rfl rfl fun _ _ => rfl
    · rw [sum_mirror each (rowsOf_settled linked t), sum_rowsOf]

/-- A pickup that stands can be voided. -/
theorem voidPickup_done (env : Setting) (linked : Linked s) (found : s.pickups.get id = some pickup) (live : pickup.isVoided = false) :
    ∃ s', voidPickup env id s = .ok s' := by
  obtain ⟨hold, holdFound⟩ := linked.holds id pickup found
  obtain ⟨t, original, own, -, -⟩ := linked.own id pickup found
  have settled : ∀ posting ∈ ((pickup.transactionId.map s.rowsOf).getD []).map mirror,
      postingCurrency posting.drawerName posting.currencyCode = .ok posting.currencyCode := by
    intro posting member
    obtain ⟨row, isRow, rfl⟩ := List.mem_map.mp member
    rw [own] at isRow
    exact rowsOf_settled linked t row isRow
  obtain ⟨posted, done⟩ := postAll_of_settled settled
  refine ⟨recordVoid s posted id pickup hold, ?_⟩
  unfold voidPickup
  rw [found]
  dsimp only
  rw [live, holdFound]
  dsimp only
  rw [done]
  rfl

section
variable (voided : Voided env s s' id pickup hold t original rows)
include voided

theorem Voided.hold_cases {holdId : ℕ} {hold' : HoldMoneyRow} (there : s'.holds.get holdId = some hold') :
    ∃ before, s.holds.get holdId = some before ∧ hold'.amount = before.amount ∧
      (hold'.status = .collected → before.status = .collected ∧ holdId ≠ pickup.holdMoneyId) := by
  rw [voided.holds] at there
  split_ifs at there with wasCollected
  · by_cases isIt : holdId = pickup.holdMoneyId
    · rw [isIt, Table.get_update_self, voided.holdFound] at there
      obtain rfl := Option.some.inj there
      exact ⟨hold, isIt ▸ voided.holdFound, rfl, fun isCollected => by cases isCollected⟩
    · rw [Table.get_update_of_ne _ _ isIt] at there
      exact ⟨hold', there, rfl, fun isCollected => ⟨isCollected, isIt⟩⟩
  · refine ⟨hold', there, rfl, fun isCollected => ⟨isCollected, ?_⟩⟩
    rintro rfl
    rw [voided.holdFound] at there
    exact wasCollected (by rw [Option.some.inj there]; exact isCollected)

theorem Voided.pickup_cases {other : ℕ} {pickup' : Pickup} (there : s'.pickups.get other = some pickup') :
    other = id ∧ pickup' = { pickup with isVoided := true } ∨ other ≠ id ∧ s.pickups.get other = some pickup' := by
  rw [voided.pickups] at there
  by_cases isIt : other = id
  · rw [isIt, Table.get_update_self, voided.found] at there
    exact .inl ⟨isIt, (Option.some.inj there).symm⟩
  · rw [Table.get_update_of_ne _ _ isIt] at there
    exact .inr ⟨isIt, there⟩

theorem Voided.pickup_before {other : ℕ} {pickup' : Pickup} (there : s'.pickups.get other = some pickup') :
    ∃ before, s.pickups.get other = some before ∧ pickup'.holdMoneyId = before.holdMoneyId ∧ pickup'.amount = before.amount ∧
      pickup'.transactionId = before.transactionId := by
  rcases voided.pickup_cases there with ⟨rfl, rfl⟩ | ⟨-, old⟩
  · exact ⟨pickup, voided.found, rfl, rfl, rfl⟩
  · exact ⟨pickup', old, rfl, rfl, rfl⟩

theorem Voided.returned (holdId : ℕ) :
    s'.returned holdId = s.returned holdId - if pickup.holdMoneyId = holdId then pickup.amount else 0 := by
  unfold Store.returned
  rw [voided.pickups, Table.total_update voided.found]
  have counted : liveOf holdId pickup = if pickup.holdMoneyId = holdId then pickup.amount else 0 := by
    unfold liveOf
    simp only [voided.live, and_true]
  have nothing : liveOf holdId { pickup with isVoided := true } = 0 := by
    unfold liveOf
    exact if_neg fun both => by cases both.2
  rw [counted, nothing, add_zero]

theorem Voided.linked (linked : Linked s) : Linked s' := by
  have recorded := voided.recorded
  refine ⟨recorded.fresh linked, recorded.settled' linked, ?_, recorded.reverses linked (fun u same => ?_), ?_, ?_, ?_, ?_⟩
  · intro rowId row there
    rw [voided.expenses] at there
    unfold refundOf at there
    rw [Table.get_updateWhere] at there
    obtain ⟨before, old, rfl⟩ := Option.map_eq_some_iff.mp there
    rw [voided.pickups, Table.nextId_update]
    have bound := linked.expenses rowId before old
    split_ifs
    · exact bound
    · exact bound
  · have isOwn : pickup.transactionId = some u := same
    rw [voided.own] at isOwn
    obtain rfl := Option.some.inj isOwn
    exact Table.get_lt voided.originalFound
  · intro other pickup' there
    obtain ⟨before, old, sameHold, -⟩ := voided.pickup_before there
    obtain ⟨own, holdThere⟩ := linked.holds other before old
    rw [sameHold, voided.holds]
    split_ifs
    · exact ⟨_, Table.get_update_of_get holdThere _ _⟩
    · exact ⟨own, holdThere⟩
  · intro other pickup' there
    obtain ⟨before, old, -, sameAmount, -⟩ := voided.pickup_before there
    rw [sameAmount]
    exact linked.nonneg other before old
  · intro other pickup' there
    obtain ⟨before, old, -, -, sameOwn⟩ := voided.pickup_before there
    obtain ⟨u, transaction, isOwn, found, type⟩ := linked.own other before old
    exact ⟨u, transaction, sameOwn.trans isOwn, recorded.get_old found, type⟩
  · intro first pickup₁ second pickup₂ there₁ there₂ same
    obtain ⟨before₁, old₁, -, -, own₁⟩ := voided.pickup_before there₁
    obtain ⟨before₂, old₂, -, -, own₂⟩ := voided.pickup_before there₂
    exact linked.once first before₁ second before₂ old₁ old₂ (own₁.symm.trans (same.trans own₂))

/-- What was returned is held again. -/
theorem Voided.holdInStep (linked : Linked s) (held : ∀ id hold, s.holds.get id = some hold → HoldInStep s id hold) (holdId : ℕ)
    (hold' : HoldMoneyRow) (there : s'.holds.get holdId = some hold') : HoldInStep s' holdId hold' := by
  obtain ⟨before, old, amount, status⟩ := voided.hold_cases there
  have inStep := held holdId before old
  by_cases isIt : pickup.holdMoneyId = holdId
  · have remains : s'.remaining holdId hold' = s.remaining holdId before + pickup.amount := by
      unfold Store.remaining
      rw [amount, voided.returned, if_pos isIt]
      abel
    refine ⟨fun c => ?_, notMore_of (voided.linked linked) _ _, fun isCollected => absurd isIt.symm (status isCollected).2, ?_⟩
    · have more := part_nonneg (linked.nonneg id pickup voided.found) c
      have sum : part (s.remaining holdId before + pickup.amount) c = part (s.remaining holdId before) c + part pickup.amount c :=
        part_add _ _ c
      rw [remains, sum]
      linarith [inStep.notOver c]
    · rw [amount]
      exact inStep.droppedOff.after voided.recorded
  · refine inStep.after amount (fun isCollected => (status isCollected).1) ?_ fun droppedOff => droppedOff.after voided.recorded
    rw [voided.returned, if_neg isIt, sub_zero]

theorem Voided.takenBack (linked : Linked s) (paidOut : PaidOut s id pickup) : TakenBack s' id { pickup with isVoided := true } := by
  have recorded := voided.recorded
  refine ⟨?_, t, original, _, _, voided.own, recorded.get_old voided.originalFound, recorded.get_new, voided.own, ?_, rfl,
    fun drawer cur => ?_, fun w second there alsoReverses => ?_⟩
  · rw [voided.expenses, roundedUp_refunded]
  · change original.profit + (0 - original.profit) = 0
    abel
  · rw [recorded.sumOf_old (Table.get_lt voided.originalFound), recorded.sumOf_new linked, voided.back, add_neg_cancel]
  · -- nothing took the pickup back before
    rcases recorded.get_cases there with before | ⟨isNew, -⟩
    · obtain ⟨own, -, -, isOwn, -, -, -, notReversed⟩ := paidOut
      obtain rfl := Option.some.inj (isOwn.symm.trans voided.own)
      exact absurd alsoReverses (notReversed w second before)
    · exact isNew

end

theorem voidPickup_inStep (inv : InStep start s) (done : voidPickup env id s = .ok s') : InStep start s' := by
  obtain ⟨linked, held⟩ := inv
  obtain ⟨pickup, hold, t, original, rows, voided⟩ := voidPickup_ok linked done
  have recorded := voided.recorded
  have sameRounding {other : ℕ} (ne : other ≠ id) : roundedUp s'.expenses other = roundedUp s.expenses other := by
    rw [voided.expenses, roundedUp_other _ ne]
  refine ⟨voided.linked linked, voided.holdInStep linked held.holds, ?_, ?_, ?_, ?_⟩
  · intro other pickup' there live
    rcases voided.pickup_cases there with ⟨rfl, rfl⟩ | ⟨ne, old⟩
    · cases live
    · refine (held.live other pickup' old live).after recorded (.inl fun same => ne ?_) (sameRounding ne)
      exact linked.once other pickup' id pickup old voided.found same.symm
  · intro other pickup' there isVoided
    rcases voided.pickup_cases there with ⟨rfl, rfl⟩ | ⟨ne, old⟩
    · exact voided.takenBack linked (held.live other pickup voided.found voided.live)
    · refine (held.voided other pickup' old isVoided).after recorded (.inl fun same => ne ?_) (sameRounding ne)
      exact linked.once other pickup' id pickup old voided.found same.symm
  · intro drawer cur
    have same : s.pickups.total (pickupMoves s'.payments drawer cur) = s.pickups.total (pickupMoves s.payments drawer cur) :=
      Table.total_congr fun other pickup' found => recorded.pickupMoves linked found drawer cur
    have own : pickupMoves s'.payments drawer cur pickup = sumOf s.payments t (moves drawer cur) := by
      unfold pickupMoves
      rw [voided.live, voided.own, if_neg Bool.false_ne_true]
      exact recorded.sumOf_old (Table.get_lt voided.originalFound) _
    have none : pickupMoves s'.payments drawer cur { pickup with isVoided := true } = 0 := if_pos rfl
    rw [recorded.balance, recorded.dropOffMoves linked, held.standing.drawers, voided.pickups, Table.total_update voided.found, same,
      own, none, voided.back, if_neg (show (voidTransaction env id pickup hold (some original)).type ≠ .holdMoney by intro same; cases same)]
    ring
  · have same : s.pickups.total (profitOf s'.transactions) = s.pickups.total (profitOf s.transactions) :=
      Table.total_congr fun other pickup' found => recorded.profitOf linked found
    have own : profitOf s'.transactions pickup = original.profit := by
      unfold profitOf
      rw [voided.live, voided.own, if_neg Bool.false_ne_true, Option.bind_some, recorded.get_old voided.originalFound]
      rfl
    have none : profitOf s'.transactions { pickup with isVoided := true } = 0 := if_pos rfl
    rw [voided.pickups, Table.total_update voided.found, same, own, none, recorded.transactions, Table.total_insert, held.standing.profit]
    change _ + (0 - original.profit) = _
    abel

end

/-! Whole runs. -/

theorem exec_inStep {start : String → CurrencyCode → ℚ} (s : Store) (action : Action) (inv : InStep start s) :
    InStep start (exec s action) := by
  cases action with
  | create env data => exact leaves_invariant inv fun s' => createHold_inStep inv
  | collect env data => exact leaves_invariant inv fun s' => collectHold_inStep inv
  | void env id => exact leaves_invariant inv fun s' => voidPickup_inStep inv

/-- A shop that has held no money yet. -/
def opening (start : String → CurrencyCode → ℚ) : Store where
  balance := start

theorem opening_inStep (start : String → CurrencyCode → ℚ) : InStep start (opening start) := by
  refine ⟨⟨?_, ?_, ?_, ?_, ?_, ?_, ?_, ?_⟩, ?_, ?_, ?_, ?_, ?_⟩
  all_goals try
    intro id row found
    cases (Table.get_empty id).symm.trans found
  · intro v reversal t found
    cases (Table.get_empty v).symm.trans found
  · intro id pickup id' pickup' found
    cases (Table.get_empty id).symm.trans found
  · intro drawer cur
    have noDropOff : dropOffMoves (opening start).transactions (opening start).payments drawer cur = 0 := rfl
    have noPickup : (opening start).pickups.total (pickupMoves (opening start).payments drawer cur) = 0 := rfl
    rw [noDropOff, noPickup, add_zero, add_zero]
    rfl
  · rfl

/-- After any calls, at any rates and with any payment methods, held money is in step; and any pickup that stands can be
voided, after which as much more is held. -/
theorem run_heldInStep (start : String → CurrencyCode → ℚ) (actions : List Action) :
    HeldInStep start (run exec (opening start) actions) ∧
      ∀ env id pickup hold, (run exec (opening start) actions).pickups.get id = some pickup → pickup.isVoided = false →
        (run exec (opening start) actions).holds.get pickup.holdMoneyId = some hold →
        ∃ s' hold', voidPickup env id (run exec (opening start) actions) = .ok s' ∧ HeldInStep start s' ∧
          s'.holds.get pickup.holdMoneyId = some hold' ∧ hold'.status = .held ∧
          s'.remaining pickup.holdMoneyId hold' =
            (run exec (opening start) actions).remaining pickup.holdMoneyId hold + pickup.amount := by
  have inv := run_always (InStep start) exec_inStep (opening_inStep start) actions
  refine ⟨inv.2, fun env id pickup hold found live holdFound => ?_⟩
  obtain ⟨s', done⟩ := voidPickup_done env inv.1 found live
  obtain ⟨own, ownHold, t, original, rows, voided⟩ := voidPickup_ok inv.1 done
  obtain rfl := Option.some.inj (voided.found.symm.trans found)
  obtain rfl := Option.some.inj (voided.holdFound.symm.trans holdFound)
  have isHeld : ∃ hold', s'.holds.get own.holdMoneyId = some hold' ∧ hold'.status = .held ∧ hold'.amount = ownHold.amount := by
    rw [voided.holds]
    split_ifs with wasCollected
    · refine ⟨{ ownHold with status := .held }, ?_, rfl, rfl⟩
      rw [Table.get_update_self, holdFound]
      rfl
    · refine ⟨ownHold, holdFound, ?_, rfl⟩
      cases status : ownHold.status with
      | held => rfl
      | collected => exact absurd status wasCollected
  obtain ⟨hold', there, status, amount⟩ := isHeld
  refine ⟨s', hold', done, (voidPickup_inStep inv done).2, there, status, ?_⟩
  unfold Store.remaining
  rw [amount, voided.returned, if_pos rfl]
  abel

/-- A till with one cash drawer. -/
def counter : Setting where
  drawerName method := if method = "BINANCE" then "Binance" else "General"
  isDrawerAffectingMethod _ := true
  sellRate := dollarRate
  marketRate := 89500
  formatMoneyAmount _ _ := ""
  numberText _ := ""
  derivedText _ _ := ""
  fixed _ := ""
  whole _ := ""

/-- $50.12 are dropped off; $50 are handed back and the rest is kept. -/
def roundPickup : List Action :=
  [.create counter { clientName := "Client", usdAmount := some (5012 / 100) },
    .collect counter { id := 0, payments := some [{ method := "CASH", currencyCode := .usd, amount := 50 }], keptChange := (12 / 100, 0) }]

example :
    let s := run exec (opening fun _ _ => 0) roundPickup
    let after := exec s (.void counter 0)
    s.balance "General" (.known .usd) = 12 / 100 ∧ s.transactions.total (·.profit) = (12 / 100, 0) ∧
      (s.holds.get 0).map (·.status) = some .collected ∧ after.balance "General" (.known .usd) = 5012 / 100 ∧
      after.transactions.total (·.profit) = 0 ∧ (after.holds.get 0).map (·.status) = some .held := by
  decide +kernel

end Liratek.Hold.PickupRuns
