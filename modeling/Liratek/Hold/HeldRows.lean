import Liratek.Hold.PickupTerms

/-! The rows that a drop-off, a pickup and a void write, and what they move. -/

namespace Liratek.Hold.HeldRows
open Lib Lib.Calls Till.KeptChange Till.KeptFunding Till.CustomerLegs Till.Payouts HeldMoney PickupTerms
open Voucher.Vouchers (Currency UsdLbp Rate amountIn usdEquivalent legReconciliationEpsilonUsd)

/-! Rows of one transaction. -/

/-- A row in the currency that its drawer holds. -/
def Settled (row : Payment) : Prop :=
  postingCurrency row.drawerName row.currencyCode = .ok row.currencyCode

def worth (rate : Rate) (row : Payment) : ℚ :=
  worthIn rate row.currencyCode row.amount

def sumOf (payments : Table Payment) (transactionId : ℕ) (f : Payment → ℚ) : ℚ :=
  payments.total fun row => if row.transactionId = transactionId then f row else 0

structure Posted (transactionId : ℕ) (posting : Posting) (row : Payment) : Prop where
  transaction : row.transactionId = transactionId
  drawer : row.drawerName = posting.drawerName
  currency : postingCurrency posting.drawerName posting.currencyCode = .ok row.currencyCode
  amount : row.amount = posting.amount

theorem postingCurrency_cases {drawer : String} {cur posted : CurrencyCode} (done : postingCurrency drawer cur = .ok posted) :
    posted = cur ∨ cur = .known .usd ∧ posted = .other "USDT" := by
  unfold postingCurrency at done
  split_ifs at done with binance
  · exact .inl (Except.ok.inj done).symm
  · rcases cur with (_ | _) | code
    · exact .inr ⟨rfl, (Except.ok.inj done).symm⟩
    · cases done
    · exact .inl (Except.ok.inj done).symm

/-- USDT is posted as it is. -/
theorem postingCurrency_again {drawer : String} {cur posted : CurrencyCode} (done : postingCurrency drawer cur = .ok posted) :
    postingCurrency drawer posted = .ok posted := by
  rcases postingCurrency_cases done with rfl | ⟨-, rfl⟩
  · exact done
  · unfold postingCurrency
    split_ifs <;> rfl

variable {transactionId : ℕ} {posting : Posting} {row : Payment}

theorem Posted.settled (posted : Posted transactionId posting row) : Settled row := by
  unfold Settled
  rw [posted.drawer]
  exact postingCurrency_again posted.currency

/-- One USDT is one dollar. -/
theorem Posted.worth (posted : Posted transactionId posting row) (rate : Rate) :
    worth rate row = worthIn rate posting.currencyCode posting.amount := by
  unfold HeldRows.worth
  rw [posted.amount]
  rcases postingCurrency_cases posted.currency with same | ⟨usd, usdt⟩
  · rw [same]
  · rw [usd, usdt]
    rfl

theorem postAll_ok {s s' : Store} {postings : List Posting} (done : postAll transactionId s postings = .ok s') :
    ∃ rows, List.Forall₂ (Posted transactionId) postings rows ∧
      s' = { s with
        payments := s.payments.insertAll rows
        balance := fun drawer cur => s.balance drawer cur + (rows.map (moves drawer cur)).sum } := by
  induction postings generalizing s with
  | nil =>
    obtain rfl := Except.ok.inj done
    refine ⟨[], .nil, ?_⟩
    have none : (fun drawer cur => s.balance drawer cur + (([] : List Payment).map (moves drawer cur)).sum) = s.balance := by
      funext drawer cur
      exact add_zero _
    rw [none]
    rfl
  | cons posting rest ih =>
    obtain ⟨next, first, others⟩ := bind_ok done
    obtain ⟨cur, currency, rfl⟩ := map_ok first
    obtain ⟨rows, posted, rfl⟩ := ih others
    let row : Payment :=
      { transactionId, method := posting.method, drawerName := posting.drawerName, currencyCode := cur, amount := posting.amount }
    refine ⟨row :: rows, .cons ⟨rfl, rfl, currency, rfl⟩ posted, ?_⟩
    unfold Store.apply
    simp only [List.map_cons, List.sum_cons, add_assoc]
    rfl

theorem postAll_of_settled {s : Store} {postings : List Posting}
    (settled : ∀ posting ∈ postings, postingCurrency posting.drawerName posting.currencyCode = .ok posting.currencyCode) :
    ∃ s', postAll transactionId s postings = .ok s' := by
  induction postings generalizing s with
  | nil => exact ⟨s, rfl⟩
  | cons posting rest ih =>
    obtain ⟨first, others⟩ := List.forall_mem_cons.mp settled
    obtain ⟨s', done⟩ := ih (s := s.apply { transactionId, method := posting.method, drawerName := posting.drawerName
                                            currencyCode := posting.currencyCode, amount := posting.amount }) others
    refine ⟨s', ?_⟩
    unfold postAll each post
    rw [first]
    exact done

theorem sum_worth {postings : List Posting} {rows : List Payment} (posted : List.Forall₂ (Posted transactionId) postings rows) (rate : Rate) :
    (rows.map (worth rate)).sum = (postings.map fun posting => worthIn rate posting.currencyCode posting.amount).sum := by
  induction posted with
  | nil => rfl
  | cons first _ ih => rw [List.map_cons, List.sum_cons, List.map_cons, List.sum_cons, first.worth, ih]

theorem mem_posted {postings : List Posting} {rows : List Payment} (posted : List.Forall₂ (Posted transactionId) postings rows)
    (member : row ∈ rows) : ∃ posting ∈ postings, Posted transactionId posting row := by
  induction posted with
  | nil => cases member
  | cons first _ ih =>
    rcases List.mem_cons.mp member with rfl | later
    · exact ⟨_, List.mem_cons_self, first⟩
    · obtain ⟨posting, isPosting, posted⟩ := ih later
      exact ⟨posting, List.mem_cons_of_mem _ isPosting, posted⟩

/-- The mirror of settled rows moves every drawer back. -/
theorem sum_mirror {rows mirrored : List Payment} (posted : List.Forall₂ (Posted transactionId) (rows.map mirror) mirrored)
    (settled : ∀ row ∈ rows, Settled row) (drawer : String) (cur : CurrencyCode) :
    (mirrored.map (moves drawer cur)).sum = -(rows.map (moves drawer cur)).sum := by
  induction rows generalizing mirrored with
  | nil =>
    cases posted
    exact neg_zero.symm
  | cons row rest ih =>
    cases posted with
    | @cons _ opposite _ others first posted =>
      obtain ⟨here, settled⟩ := List.forall_mem_cons.mp settled
      have back : moves drawer cur opposite = -moves drawer cur row := by
        have drawerSame : opposite.drawerName = row.drawerName := first.drawer
        have amountSame : opposite.amount = -row.amount := first.amount
        have curSame : opposite.currencyCode = row.currencyCode := Except.ok.inj (first.currency.symm.trans here)
        unfold moves
        rw [drawerSame, curSame, amountSame]
        by_cases isThere : row.drawerName = drawer ∧ row.currencyCode = cur
        · rw [if_pos isThere, if_pos isThere]
        · rw [if_neg isThere, if_neg isThere, neg_zero]
      rw [List.map_cons, List.sum_cons, back, ih posted settled, List.map_cons, List.sum_cons, neg_add]

/-! What every store keeps. -/

def roundedUp (expenses : Table RoundingExpense) (pickupId : ℕ) : UsdLbp :=
  expenses.total fun row => if row.pickupId = pickupId ∧ row.isRefunded = false then row.amount else 0

/-- The tables refer to each other's rows. -/
structure Linked (s : Store) : Prop where
  fresh : ∀ id row, s.payments.get id = some row → row.transactionId < s.transactions.nextId
  settled : ∀ id row, s.payments.get id = some row → Settled row
  expenses : ∀ id row, s.expenses.get id = some row → row.pickupId < s.pickups.nextId
  reverses : ∀ v reversal t, s.transactions.get v = some reversal → reversal.reversesId = some t → t < s.transactions.nextId
  holds : ∀ id pickup, s.pickups.get id = some pickup → ∃ hold, s.holds.get pickup.holdMoneyId = some hold
  nonneg : ∀ id pickup, s.pickups.get id = some pickup → 0 ≤ pickup.amount
  own : ∀ id pickup, s.pickups.get id = some pickup → ∃ t transaction, pickup.transactionId = some t ∧
    s.transactions.get t = some transaction ∧ transaction.type = .holdMoneyCollect
  once : ∀ id pickup id' pickup', s.pickups.get id = some pickup → s.pickups.get id' = some pickup' →
    pickup.transactionId = pickup'.transactionId → id = id'

/-- A transaction is written with its rows. -/
structure Recorded (s s' : Store) (transaction : Transaction) (rows : List Payment) : Prop where
  transactions : s'.transactions = s.transactions.insert transaction
  payments : s'.payments = s.payments.insertAll rows
  balance : ∀ drawer cur, s'.balance drawer cur = s.balance drawer cur + (rows.map (moves drawer cur)).sum
  ofNew : ∀ row ∈ rows, row.transactionId = s.transactions.nextId
  settled : ∀ row ∈ rows, Settled row

variable {s s' : Store} {transaction : Transaction} {rows : List Payment}

theorem recorded_of_posted {postings : List Posting} (posted : List.Forall₂ (Posted s.transactions.nextId) postings rows)
    (transactions : s'.transactions = s.transactions.insert transaction) (payments : s'.payments = s.payments.insertAll rows)
    (balance : ∀ drawer cur, s'.balance drawer cur = s.balance drawer cur + (rows.map (moves drawer cur)).sum) :
    Recorded s s' transaction rows := by
  refine ⟨transactions, payments, balance, fun row member => ?_, fun row member => ?_⟩
  · obtain ⟨posting, -, posted⟩ := mem_posted posted member
    exact posted.transaction
  · obtain ⟨posting, -, posted⟩ := mem_posted posted member
    exact posted.settled

section
variable (recorded : Recorded s s' transaction rows)
include recorded

theorem Recorded.sumOf_old {t : ℕ} (old : t < s.transactions.nextId) (f : Payment → ℚ) :
    sumOf s'.payments t f = sumOf s.payments t f := by
  unfold sumOf
  rw [recorded.payments, Table.total_insertAll]
  have none : (rows.map fun row => if row.transactionId = t then f row else 0).sum = 0 := by
    refine List.sum_eq_zero fun x member => ?_
    obtain ⟨row, isRow, rfl⟩ := List.mem_map.mp member
    rw [if_neg fun same => old.ne (same.symm.trans (recorded.ofNew row isRow))]
  rw [none, add_zero]

theorem Recorded.sumOf_new (linked : Linked s) (f : Payment → ℚ) :
    sumOf s'.payments s.transactions.nextId f = (rows.map f).sum := by
  unfold sumOf
  rw [recorded.payments, Table.total_insertAll]
  have none : (s.payments.total fun row => if row.transactionId = s.transactions.nextId then f row else 0) = 0 :=
    Table.total_eq_zero fun id row found => if_neg (linked.fresh id row found).ne
  rw [none, zero_add]
  refine congrArg List.sum (List.map_congr_left fun row isRow => ?_)
  rw [if_pos (recorded.ofNew row isRow)]

theorem Recorded.get_old {t : ℕ} {row : Transaction} (found : s.transactions.get t = some row) :
    s'.transactions.get t = some row := by
  rw [recorded.transactions]
  exact Table.get_insert_of_get found

theorem Recorded.get_new : s'.transactions.get s.transactions.nextId = some transaction := by
  rw [recorded.transactions, Table.get_insert_self]

theorem Recorded.get_cases {t : ℕ} {row : Transaction} (found : s'.transactions.get t = some row) :
    s.transactions.get t = some row ∨ t = s.transactions.nextId ∧ row = transaction := by
  rw [recorded.transactions] at found
  exact Table.get_insert found

theorem Recorded.nextId : s'.transactions.nextId = s.transactions.nextId + 1 := by
  rw [recorded.transactions, Table.nextId_insert]

/-- A row is an old one, or one of those written. -/
theorem Recorded.row_cases {id : ℕ} {row : Payment} (found : s'.payments.get id = some row) :
    s.payments.get id = some row ∨ row ∈ rows := by
  rw [recorded.payments] at found
  exact (Table.get_insertAll found).imp_right And.left

theorem Recorded.fresh (linked : Linked s) (id : ℕ) (row : Payment) (found : s'.payments.get id = some row) :
    row.transactionId < s'.transactions.nextId := by
  rw [recorded.nextId]
  rcases recorded.row_cases found with old | isNew
  · exact Nat.lt_succ_of_lt (linked.fresh id row old)
  · rw [recorded.ofNew row isNew]
    exact Nat.lt_succ_self _

theorem Recorded.settled' (linked : Linked s) (id : ℕ) (row : Payment) (found : s'.payments.get id = some row) : Settled row :=
  (recorded.row_cases found).elim (linked.settled id row) (recorded.settled row)

theorem Recorded.reverses (linked : Linked s) (target : ∀ t, transaction.reversesId = some t → t < s.transactions.nextId) (v : ℕ)
    (reversal : Transaction) (t : ℕ) (found : s'.transactions.get v = some reversal) (isReversed : reversal.reversesId = some t) :
    t < s'.transactions.nextId := by
  rw [recorded.nextId]
  rcases recorded.get_cases found with old | ⟨-, rfl⟩
  · exact Nat.lt_succ_of_lt (linked.reverses v reversal t old isReversed)
  · exact Nat.lt_succ_of_lt (target t isReversed)

end

/-! The drawers. -/

def dropOffMoves (transactions : Table Transaction) (payments : Table Payment) (drawer : String) (cur : CurrencyCode) : ℚ :=
  (transactions.rows.map fun entry => if entry.2.type = .holdMoney then sumOf payments entry.1 (moves drawer cur) else 0).sum

def pickupMoves (payments : Table Payment) (drawer : String) (cur : CurrencyCode) (pickup : Pickup) : ℚ :=
  if pickup.isVoided then 0 else (pickup.transactionId.map fun t => sumOf payments t (moves drawer cur)).getD 0

def profitOf (transactions : Table Transaction) (pickup : Pickup) : UsdLbp :=
  if pickup.isVoided then 0 else ((pickup.transactionId.bind transactions.get).map (·.profit)).getD 0

/-- The drawers and the profit come from the drop-offs and the pickups that stand. -/
structure FromStanding (start : String → CurrencyCode → ℚ) (s : Store) : Prop where
  drawers : ∀ drawer cur, s.balance drawer cur =
    start drawer cur + dropOffMoves s.transactions s.payments drawer cur + s.pickups.total (pickupMoves s.payments drawer cur)
  profit : s.transactions.total (·.profit) = s.pickups.total (profitOf s.transactions)

section
variable (recorded : Recorded s s' transaction rows) (linked : Linked s)
include recorded linked

theorem Recorded.dropOffMoves (drawer : String) (cur : CurrencyCode) :
    dropOffMoves s'.transactions s'.payments drawer cur = HeldRows.dropOffMoves s.transactions s.payments drawer cur +
      if transaction.type = .holdMoney then (rows.map (moves drawer cur)).sum else 0 := by
  unfold HeldRows.dropOffMoves
  rw [recorded.transactions, Table.rows_insert, List.map_append, List.sum_append]
  congr 1
  · refine congrArg List.sum (List.map_congr_left fun entry member => ?_)
    rw [recorded.sumOf_old (Table.get_lt (Table.mem_rows.mp member))]
  · rw [List.map_singleton, List.sum_singleton, recorded.sumOf_new linked]

theorem Recorded.pickupMoves {id : ℕ} {pickup : Pickup} (found : s.pickups.get id = some pickup) (drawer : String) (cur : CurrencyCode) :
    pickupMoves s'.payments drawer cur pickup = HeldRows.pickupMoves s.payments drawer cur pickup := by
  obtain ⟨t, transaction, isOwn, there, -⟩ := linked.own id pickup found
  unfold HeldRows.pickupMoves
  rw [isOwn, Option.map_some, Option.map_some, recorded.sumOf_old (Table.get_lt there)]

theorem Recorded.profitOf {id : ℕ} {pickup : Pickup} (found : s.pickups.get id = some pickup) :
    profitOf s'.transactions pickup = HeldRows.profitOf s.transactions pickup := by
  obtain ⟨t, transaction, isOwn, there, -⟩ := linked.own id pickup found
  unfold HeldRows.profitOf
  rw [isOwn, Option.bind_some, Option.bind_some, there, recorded.get_old there]

end

end Liratek.Hold.HeldRows
