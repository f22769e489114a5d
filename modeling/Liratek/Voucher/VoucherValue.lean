import Liratek.Lib.Runs
import Liratek.Voucher.Vouchers
import Mathlib.Algebra.Order.AbsoluteValue.Basic
import Mathlib.Tactic.FieldSimp
import Mathlib.Tactic.Linarith
import Mathlib.Tactic.Ring

/-! What a voucher is worth, on its owner's account or paid back out of the drawers, and that it is worth that once. -/

namespace Liratek.Voucher.VoucherValue
open Lib Lib.Calls Lib.Runs Vouchers

/-! Amounts in one currency. -/

/-- What sums are worth in a voucher's currency. -/
def inCurrency (currency : Currency) (sums : UsdLbp) (rate : ℚ) : ℚ :=
  match currency with
  | .usd => usdEquivalent sums rate
  | .lbp => lbpEquivalent sums rate

/-- A dollar in the currency. -/
def dollarIn (currency : Currency) (rate : ℚ) : ℚ :=
  match currency with
  | .usd => 1
  | .lbp => rate

def otherPart (currency : Currency) (sums : UsdLbp) : ℚ :=
  match currency with
  | .usd => sums.2
  | .lbp => sums.1

section
variable {currency : Currency} {rate rate' : ℚ} {sums : UsdLbp}

theorem usdEquivalent_add (a b : UsdLbp) (rate : ℚ) : usdEquivalent (a + b) rate = usdEquivalent a rate + usdEquivalent b rate := by
  unfold usdEquivalent
  rw [Prod.fst_add, Prod.snd_add]
  split_ifs
  · ring
  · ring

theorem usdEquivalent_neg (a : UsdLbp) (rate : ℚ) : usdEquivalent (-a) rate = -usdEquivalent a rate := by
  unfold usdEquivalent
  rw [Prod.fst_neg, Prod.snd_neg]
  split_ifs
  · ring
  · ring

theorem usdEquivalent_sub (a b : UsdLbp) (rate : ℚ) : usdEquivalent (a - b) rate = usdEquivalent a rate - usdEquivalent b rate := by
  rw [sub_eq_add_neg, usdEquivalent_add, usdEquivalent_neg, sub_eq_add_neg]

theorem dollarIn_pos (positive : 0 < rate) : 0 < dollarIn currency rate := by
  cases currency
  · exact one_pos
  · exact positive

/-- Whatever the currency, it is the worth in dollars that is told in it. -/
theorem inCurrency_eq (positive : 0 < rate) (sums : UsdLbp) :
    inCurrency currency sums rate = dollarIn currency rate * usdEquivalent sums rate := by
  cases currency
  · exact (one_mul _).symm
  · simp only [inCurrency, dollarIn, lbpEquivalent, usdEquivalent, if_pos positive]
    field_simp
    ring

/-- Sums in the currency itself are worth the same at any rate. -/
theorem inCurrency_any_rate (none : otherPart currency sums = 0) (rate rate' : ℚ) :
    inCurrency currency sums rate = inCurrency currency sums rate' := by
  cases currency
  · simp only [otherPart] at none
    simp [inCurrency, usdEquivalent, none]
  · simp only [otherPart] at none
    simp [inCurrency, lbpEquivalent, none]

theorem inCurrency_own (amount rate : ℚ) : inCurrency currency (amountIn currency amount) rate = amount := by
  cases currency
  · simp [inCurrency, amountIn, usdEquivalent]
  · simp [inCurrency, amountIn, lbpEquivalent]

/-- An amount in dollars that is told in the currency, and back. -/
theorem usdEquivalent_told (positive : 0 < rate) (sums : UsdLbp) :
    usdEquivalent (amountIn currency (inCurrency currency sums rate)) rate = usdEquivalent sums rate := by
  have dollar : 0 < dollarIn currency rate := dollarIn_pos positive
  apply mul_left_cancel₀ dollar.ne'
  rw [← inCurrency_eq positive, inCurrency_own, inCurrency_eq positive]

theorem otherPart_own (amount : ℚ) : otherPart currency (amountIn currency amount) = 0 := by
  cases currency
  · rfl
  · rfl

theorem otherPart_sub (a b : UsdLbp) : otherPart currency (a - b) = otherPart currency a - otherPart currency b := by
  cases currency
  · rfl
  · rfl

theorem amountIn_neg (currency : Currency) (amount : ℚ) : amountIn currency (-amount) = -amountIn currency amount := by
  cases currency
  · simp [amountIn]
  · simp [amountIn]

theorem amountIn_abs_nonneg (currency : Currency) (amount : ℚ) : 0 ≤ amountIn currency |amount| := by
  cases currency
  · exact ⟨abs_nonneg amount, le_rfl⟩
  · exact ⟨le_rfl, abs_nonneg amount⟩

end

/-! What is on a transaction. -/

def worth (row : Payment) : UsdLbp :=
  match row.currencyCode with
  | .usd | .usdt => (row.amount, 0)
  | .lbp => (0, row.amount)

/-- What a transaction put into the drawers. -/
def paidOn (payments : Table Payment) (transactionId : Nat) : UsdLbp :=
  payments.total fun row => if row.transactionId = transactionId then worth row else 0

def NoDrawer (payments : Table Payment) (transactionId : Nat) : Prop :=
  ∀ id row, payments.get id = some row → row.transactionId ≠ transactionId

def chargedOn (debts : Table DebtRow) (transactionId : Nat) : UsdLbp :=
  debts.total fun row => if isVoucherDebtOf transactionId row then row.amount else 0

/-- All that a transaction leaves on a client's account, its reversals too. -/
def owedOn (debts : Table DebtRow) (clientId transactionId : Nat) : UsdLbp :=
  debts.total fun row => if row.transactionId = some transactionId ∧ row.clientId = clientId then row.amount else 0

section
variable {payments : Table Payment} {debts : Table DebtRow} {transactionId other clientId : Nat}

theorem paidOn_insertAll_other {rows : List Payment} (elsewhere : ∀ row ∈ rows, row.transactionId = other)
    (apart : transactionId ≠ other) : paidOn (payments.insertAll rows) transactionId = paidOn payments transactionId := by
  unfold paidOn
  rw [Table.total_insertAll, add_eq_left]
  apply List.sum_eq_zero
  intro amount member
  obtain ⟨row, listed, rfl⟩ := List.mem_map.mp member
  exact if_neg fun same => apart (same.symm.trans (elsewhere row listed))

theorem paidOn_insertAll_own {rows : List Payment} (own : ∀ row ∈ rows, row.transactionId = transactionId)
    (fresh : NoDrawer payments transactionId) : paidOn (payments.insertAll rows) transactionId = (rows.map worth).sum := by
  unfold paidOn
  rw [Table.total_insertAll, Table.total_eq_zero fun id row found => if_neg (fresh id row found), zero_add]
  congr 1
  apply List.map_congr_left
  exact fun row member => if_pos (own row member)

theorem noDrawer_insertAll_other {rows : List Payment} (elsewhere : ∀ row ∈ rows, row.transactionId = other)
    (apart : transactionId ≠ other) : NoDrawer (payments.insertAll rows) transactionId ↔ NoDrawer payments transactionId := by
  constructor
  · exact fun none id row found => none id row (Table.get_insertAll_of_get found)
  · intro none id row found
    rcases Table.get_insertAll found with old | ⟨new, -⟩
    · exact none id row old
    · exact fun same => apart (same.symm.trans (elsewhere row new))

theorem chargedOn_insertAll {rows : List DebtRow} (others : ∀ row ∈ rows, isVoucherDebtOf transactionId row = false) :
    chargedOn (debts.insertAll rows) transactionId = chargedOn debts transactionId := by
  unfold chargedOn
  rw [Table.total_insertAll, add_eq_left]
  apply List.sum_eq_zero
  intro amount member
  obtain ⟨row, listed, rfl⟩ := List.mem_map.mp member
  exact if_neg (by rw [others row listed]; exact Bool.false_ne_true)

theorem chargedOn_insertAll_own {rows : List DebtRow} (own : ∀ row ∈ rows, isVoucherDebtOf transactionId row = true)
    (fresh : ∀ d row, debts.get d = some row → row.transactionId ≠ some transactionId) :
    chargedOn (debts.insertAll rows) transactionId = (rows.map (·.amount)).sum := by
  unfold chargedOn
  rw [Table.total_insertAll, Table.total_eq_zero fun d row found => if_neg (by simp [isVoucherDebtOf, fresh d row found]), zero_add]
  congr 1
  apply List.map_congr_left
  exact fun row member => if_pos (own row member)

theorem owedOn_insertAll {rows : List DebtRow} (others : ∀ row ∈ rows, row.transactionId ≠ some transactionId) :
    owedOn (debts.insertAll rows) clientId transactionId = owedOn debts clientId transactionId := by
  unfold owedOn
  rw [Table.total_insertAll, add_eq_left]
  apply List.sum_eq_zero
  intro amount member
  obtain ⟨row, listed, rfl⟩ := List.mem_map.mp member
  exact if_neg fun inside => others row listed inside.1

/-- Once all that is on a transaction is reversed, it leaves no account anything. -/
theorem owedOn_reversed {p : DebtRow → Bool}
    (all : ∀ d row, debts.get d = some row → (p row = true ↔ row.transactionId = some transactionId)) :
    owedOn (debts.insertAll ((debts.select p).map fun row => debtRefundReversal transactionId row.2)) clientId transactionId = 0 := by
  have taken : (((debts.select p).map fun row => debtRefundReversal transactionId row.2).map fun row =>
      if row.transactionId = some transactionId ∧ row.clientId = clientId then row.amount else 0) =
        (debts.select p).map fun row => -if row.2.clientId = clientId then row.2.amount else 0 := by
    rw [List.map_map]
    apply List.map_congr_left
    intro row _
    by_cases own : row.2.clientId = clientId
    · simp [debtRefundReversal, own]
    · simp [debtRefundReversal, own]
  unfold owedOn
  rw [Table.total_insertAll, taken, Table.sum_select debts p fun row => -if row.clientId = clientId then row.amount else 0,
    ← Table.total_add]
  apply Table.total_eq_zero
  intro d row found
  by_cases chosen : p row = true
  · simp [chosen, (all d row found).mp chosen]
  · simp [chosen, mt (all d row found).mpr chosen]

end

/-! The deposits. -/

/-- A deposit of the voucher's, in no transaction that is reversed. -/
def isStanding (transactions : Table Transaction) (code : String) (row : DebtRow) : Bool :=
  row.transactionType = .creditDeposit && row.note = depositNote code &&
    !(row.transactionId.any fun id => (transactions.get id).any (·.isReversed))

def standing (s : Store) (code : String) : List (Nat × DebtRow) :=
  s.debtLedger.select (isStanding s.transactions code)

/-- A redeemed voucher has the one deposit of its redemption, another one none. -/
structure DepositRight (s : Store) (voucher : VoucherEntity) : Prop where
  none : voucher.status ≠ .redeemed → standing s voucher.code = []
  one : voucher.status = .redeemed →
    ∃ id, standing s voucher.code = [(id, deposit voucher voucher.redeemedTransactionId)]

structure Deposits (s : Store) : Prop where
  codes : ∀ v w a b, s.vouchers.get v = some a → s.vouchers.get w = some b → a.code = b.code → v = w
  noted : ∀ d row, s.debtLedger.get d = some row → row.transactionType = .creditDeposit →
    ∃ v voucher, s.vouchers.get v = some voucher ∧ row.note = depositNote voucher.code
  right : ∀ v voucher, s.vouchers.get v = some voucher → DepositRight s voucher
  below : ∀ d row, s.debtLedger.get d = some row → ∀ x, row.transactionId = some x → x < s.transactions.nextId
  charges : ∀ x row, s.transactions.get x = some row → row.type = .charge → row.sourceId = none
  unreversed : ∀ x row, s.transactions.get x = some row → row.type = .charge → row.isReversed = false →
    ∀ d debt, s.debtLedger.get d = some debt → debt.transactionId = some x → debt.transactionType = .creditDeposit
  reversed : ∀ x row, s.transactions.get x = some row → row.isReversed = true →
    ∀ clientId, owedOn s.debtLedger clientId x = 0

section
variable {s s' : Store} {voucher : VoucherEntity} {transactions : Table Transaction} {row : Transaction}

theorem depositNote_inj {a b : String} (same : depositNote a = depositNote b) : a = b :=
  (String.append_right_inj _).mp same

/-- A new transaction is not reversed. -/
theorem isStanding_insert (transactions : Table Transaction) {row : Transaction} (unreversed : row.isReversed = false) :
    isStanding (transactions.insert row) = isStanding transactions := by
  funext code debt
  unfold isStanding
  congr 2
  rcases debt.transactionId with _ | id
  · rfl
  · rw [Option.any_some, Option.any_some]
    by_cases new : id = transactions.nextId
    · rw [new, Table.get_insert_self, Table.get_of_le le_rfl, Option.any_some, unreversed]
      rfl
    · rw [Table.get_insert_of_ne _ _ new]

theorem DepositRight.same (right : DepositRight s voucher) (rows : standing s' voucher.code = standing s voucher.code) :
    DepositRight s' voucher where
  none redeemed := rows.trans (right.none redeemed)
  one redeemed := by
    rw [rows]
    exact right.one redeemed

end

/-! Redeeming. -/

section
variable {s s' : Store} {params : RedeemVoucherParams}

theorem redeem_ok (done : redeemByCode s params = .ok s') : ∃ id voucher, s.vouchers.get id = some voucher ∧
    voucher.code = params.code ∧ voucher.status = .pending ∧
    s' = { s with
      vouchers := s.vouchers.update id fun voucher =>
        { voucher with status := .redeemed, redeemedTransactionId := params.transactionId }
      debtLedger := s.debtLedger.insert (deposit voucher params.transactionId) } := by
  unfold redeemByCode at done
  rcases first : (s.vouchers.select fun voucher => voucher.code = params.code).head? with _ | ⟨id, voucher⟩
  · rw [first] at done
    cases done
  · rw [first] at done
    dsimp only at done
    obtain ⟨found, named⟩ := Table.mem_select.mp (List.mem_of_mem_head? first)
    rcases status : voucher.status with _ | _ | _ <;> rw [status] at done
    · dsimp only at done
      split_ifs at done
      exact ⟨id, voucher, found, of_decide_eq_true named, status, (Except.ok.inj done).symm⟩
    · cases done
    · cases done

theorem get_changed {vouchers : Table VoucherEntity} {id v : Nat} {voucher a : VoucherEntity} {change : VoucherEntity → VoucherEntity}
    (found : vouchers.get id = some voucher) (there : (vouchers.update id change).get v = some a) :
    v = id ∧ a = change voucher ∨ v ≠ id ∧ vouchers.get v = some a := by
  by_cases same : v = id
  · subst same
    rw [Table.get_update_self, found] at there
    exact Or.inl ⟨rfl, (Option.some.inj there).symm⟩
  · rw [Table.get_update_of_ne _ _ same] at there
    exact Or.inr ⟨same, there⟩

/-- A status changes, no code. -/
theorem codes_update {vouchers : Table VoucherEntity} {id : Nat} {voucher : VoucherEntity} {change : VoucherEntity → VoucherEntity}
    (codes : ∀ v w a b, vouchers.get v = some a → vouchers.get w = some b → a.code = b.code → v = w)
    (found : vouchers.get id = some voucher) (named : (change voucher).code = voucher.code) :
    ∀ v w a b, (vouchers.update id change).get v = some a → (vouchers.update id change).get w = some b →
      a.code = b.code → v = w := by
  intro v w a b inV inW same
  rcases get_changed found inV with ⟨rfl, rfl⟩ | ⟨_, atV⟩ <;> rcases get_changed found inW with ⟨rfl, rfl⟩ | ⟨_, atW⟩
  · rfl
  · exact codes v w voucher b found atW (named.symm.trans same)
  · exact codes v w a voucher atV found (same.trans named)
  · exact codes v w a b atV atW same

theorem Deposits.redeem (deposits : Deposits s) (into : ∀ x, params.transactionId = some x →
    ∃ row, s.transactions.get x = some row ∧ row.type = .charge ∧ row.isReversed = false)
    (done : redeemByCode s params = .ok s') : Deposits s' := by
  obtain ⟨id, voucher, found, -, pending, rfl⟩ := redeem_ok done
  have unreversed : ∀ x, params.transactionId = some x → (s.transactions.get x).any (·.isReversed) = false := by
    intro x inside
    obtain ⟨row, there, -, open'⟩ := into x inside
    rw [there]
    exact open'
  have stands : isStanding s.transactions voucher.code (deposit voucher params.transactionId) = true := by
    have kept : (params.transactionId.any fun x => (s.transactions.get x).any (·.isReversed)) = false := by
      rcases inside : params.transactionId with _ | x
      · rfl
      · exact unreversed x inside
    simp [isStanding, deposit, kept]
  constructor
  · exact codes_update deposits.codes found rfl
  · intro d row there isDeposit
    have still : ∀ v a, s.vouchers.get v = some a → ∃ v b, (s.vouchers.update id fun voucher =>
        { voucher with status := .redeemed, redeemedTransactionId := params.transactionId }).get v = some b ∧ b.code = a.code := by
      intro v a inV
      refine ⟨v, _, Table.get_update_of_get inV id _, ?_⟩
      split_ifs
      · rfl
      · rfl
    rcases Table.get_insert there with old | ⟨-, rfl⟩
    · obtain ⟨v, a, inV, note⟩ := deposits.noted d row old isDeposit
      obtain ⟨w, b, inW, same⟩ := still v a inV
      exact ⟨w, b, inW, by rw [note, same]⟩
    · obtain ⟨w, b, inW, same⟩ := still id voucher found
      exact ⟨w, b, inW, by rw [same]; rfl⟩
  · intro v a there
    rcases get_changed found there with ⟨rfl, rfl⟩ | ⟨apart, inV⟩
    · refine ⟨fun redeemed => absurd rfl redeemed, fun _ => ⟨s.debtLedger.nextId, ?_⟩⟩
      have before := (deposits.right v voucher found).none (by rw [pending]; exact (nomatch ·))
      unfold standing at before ⊢
      rw [Table.select_insert, before, if_pos stands]
      rfl
    · apply (deposits.right v a inV).same
      unfold standing
      rw [Table.select_insert, if_neg, List.append_nil]
      intro both
      simp only [isStanding, Bool.and_eq_true, decide_eq_true_iff] at both
      exact apart (deposits.codes v id a voucher inV found (depositNote_inj both.1.2).symm)
  · intro d row there x inside
    rcases Table.get_insert there with old | ⟨-, rfl⟩
    · exact deposits.below d row old x inside
    · obtain ⟨row, inTransactions, -⟩ := into x inside
      exact Table.get_lt inTransactions
  · exact deposits.charges
  · intro x row there isCharge open' d debt inDebts inside
    rcases Table.get_insert inDebts with old | ⟨-, rfl⟩
    · exact deposits.unreversed x row there isCharge open' d debt old inside
    · rfl
  · intro x row there reversed
    have apart : ∀ debt ∈ [deposit voucher params.transactionId], debt.transactionId ≠ some x := by
      intro debt member inside
      rw [List.mem_singleton.mp member] at inside
      have open' := unreversed x inside
      rw [there, Option.any_some, reversed] at open'
      cases open'
    exact fun clientId => (owedOn_insertAll apart).trans (deposits.reversed x row there reversed clientId)

theorem Deposits.insertTransaction (deposits : Deposits s) {row : Transaction} (unreversed : row.isReversed = false)
    (ofNone : row.type = .charge → row.sourceId = none) : Deposits { s with transactions := s.transactions.insert row } := by
  have rows : ∀ code, standing { s with transactions := s.transactions.insert row } code = standing s code := by
    intro code
    unfold standing
    rw [isStanding_insert _ unreversed]
  refine ⟨deposits.codes, deposits.noted, fun v a there => (deposits.right v a there).same (rows a.code), ?_, ?_, ?_, ?_⟩
  · intro d debt there x inside
    rw [Table.nextId_insert]
    exact (deposits.below d debt there x inside).trans (Nat.lt_succ_self _)
  · intro x found there isCharge
    rcases Table.get_insert there with old | ⟨-, rfl⟩
    · exact deposits.charges x found old isCharge
    · exact ofNone isCharge
  · intro x found there isCharge open' d debt inDebts inside
    rcases Table.get_insert there with old | ⟨rfl, -⟩
    · exact deposits.unreversed x found old isCharge open' d debt inDebts inside
    · exact absurd (deposits.below d debt inDebts _ inside) (lt_irrefl _)
  · intro x found there reversed
    rcases Table.get_insert there with old | ⟨-, rfl⟩
    · exact deposits.reversed x found old reversed
    · rw [unreversed] at reversed
      cases reversed

/-- Rows that are no deposits come to a transaction that is no charge. -/
theorem Deposits.insertDebts (deposits : Deposits s) {rows : List DebtRow} {x : Nat} {sale : Transaction}
    (there : s.transactions.get x = some sale) (notCharge : sale.type ≠ .charge) (unreversed : sale.isReversed = false)
    (own : ∀ row ∈ rows, row.transactionType ≠ .creditDeposit ∧ row.transactionId = some x) :
    Deposits { s with debtLedger := s.debtLedger.insertAll rows } := by
  have none : ∀ code, ∀ row ∈ rows, isStanding s.transactions code row = false := by
    intro code row member
    simp [isStanding, (own row member).1]
  refine ⟨deposits.codes, ?_, ?_, ?_, deposits.charges, ?_, ?_⟩
  · intro d row inDebts isDeposit
    rcases Table.get_insertAll inDebts with old | ⟨new, -⟩
    · exact deposits.noted d row old isDeposit
    · exact absurd isDeposit (own row new).1
  · intro v a inV
    apply (deposits.right v a inV).same
    exact Table.select_insertAll (none a.code)
  · intro d row inDebts y inside
    rcases Table.get_insertAll inDebts with old | ⟨new, -⟩
    · exact deposits.below d row old y inside
    · rw [(own row new).2] at inside
      cases inside
      exact Table.get_lt there
  · intro y row inTransactions isCharge open' d debt inDebts inside
    rcases Table.get_insertAll inDebts with old | ⟨new, -⟩
    · exact deposits.unreversed y row inTransactions isCharge open' d debt old inside
    · rw [(own debt new).2] at inside
      cases inside
      rw [there] at inTransactions
      cases inTransactions
      exact absurd isCharge notCharge
  · intro y row inTransactions reversed clientId
    refine (owedOn_insertAll ?_).trans (deposits.reversed y row inTransactions reversed clientId)
    intro debt member inside
    rw [(own debt member).2] at inside
    cases inside
    rw [there] at inTransactions
    cases inTransactions
    rw [unreversed] at reversed
    cases reversed

/-- No deposit is for a code that no voucher had. -/
theorem Deposits.insertVoucher (deposits : Deposits s) (fresh : (s.vouchers.select fun row => row.code = voucher.code) = [])
    (pending : voucher.status = .pending) : Deposits { s with vouchers := s.vouchers.insert voucher } := by
  have apart : ∀ v a, s.vouchers.get v = some a → a.code ≠ voucher.code := by
    intro v a inV same
    have member : (v, a) ∈ s.vouchers.select fun row => row.code = voucher.code := Table.mem_select.mpr ⟨inV, by simp [same]⟩
    rw [fresh] at member
    cases member
  refine ⟨?_, ?_, ?_, deposits.below, deposits.charges, deposits.unreversed, deposits.reversed⟩
  · intro v w a b inV inW same
    rcases Table.get_insert inV with oldV | ⟨rfl, rfl⟩ <;> rcases Table.get_insert inW with oldW | ⟨rfl, rfl⟩
    · exact deposits.codes v w a b oldV oldW same
    · exact absurd same (apart v a oldV)
    · exact absurd same.symm (apart w b oldW)
    · rfl
  · intro d row there isDeposit
    obtain ⟨v, a, inV, note⟩ := deposits.noted d row there isDeposit
    exact ⟨v, a, Table.get_insert_of_get inV, note⟩
  · intro v a there
    rcases Table.get_insert there with old | ⟨rfl, rfl⟩
    · exact (deposits.right v a old).same rfl
    · refine ⟨fun _ => ?_, fun redeemed => ?_⟩
      · rw [List.eq_nil_iff_forall_not_mem]
        rintro ⟨d, row⟩ member
        obtain ⟨inDebts, stands⟩ := Table.mem_select.mp member
        simp only [isStanding, Bool.and_eq_true, decide_eq_true_iff] at stands
        obtain ⟨v, b, inV, note⟩ := deposits.noted d row inDebts stands.1.1
        exact apart v b inV (depositNote_inj (note.symm.trans stands.1.2))
      · rw [pending] at redeemed
        cases redeemed

/-- A pending voucher has no deposit, so there is none to lose. -/
theorem Deposits.cancel {id : Nat} (deposits : Deposits s) (found : s.vouchers.get id = some voucher)
    (pending : voucher.status = .pending) :
    Deposits { s with vouchers := s.vouchers.update id fun voucher => { voucher with status := .cancelled } } := by
  refine ⟨codes_update deposits.codes found rfl, ?_, ?_, deposits.below, deposits.charges, deposits.unreversed, deposits.reversed⟩
  · intro d row there isDeposit
    obtain ⟨v, a, inV, note⟩ := deposits.noted d row there isDeposit
    refine ⟨v, _, Table.get_update_of_get inV id _, ?_⟩
    split_ifs
    · exact note
    · exact note
  · intro v a there
    rcases get_changed found there with ⟨rfl, rfl⟩ | ⟨-, inV⟩
    · refine ⟨fun _ => ?_, (nomatch ·)⟩
      exact (deposits.right v voucher found).none (by rw [pending]; exact (nomatch ·))
    · exact (deposits.right v a inV).same rfl

end

/-! Reversing the transaction that vouchers were redeemed in. -/

def marked (s : Store) (id : Nat) : Store :=
  { s with transactions := s.transactions.update id fun row => { row with isReversed := true } }

/-- A voucher redeemed in the transaction is pending again. -/
def restored (id : Nat) (voucher : VoucherEntity) : VoucherEntity :=
  if voucher.redeemedTransactionId = some id ∧ voucher.status = .redeemed then
    { voucher with status := .pending, redeemedTransactionId := none }
  else voucher

section
variable {s s' : Store} {id : Nat} {voucher : VoucherEntity}

theorem restored_code (id : Nat) (voucher : VoucherEntity) : (restored id voucher).code = voucher.code := by
  unfold restored
  split_ifs
  · rfl
  · rfl

theorem reverse_ok (done : reverseTransaction s id = .ok s') : ∃ original, s.transactions.get id = some original ∧
    original.type = .charge ∧ original.isReversed = false ∧ s' = cancelDebt (marked s id) id := by
  unfold reverseTransaction at done
  rcases found : s.transactions.get id with _ | original
  · rw [found] at done
    cases done
  · rw [found] at done
    dsimp only at done
    split_ifs at done with other again
    exact ⟨original, rfl, not_not.mp other, (Bool.not_eq_true _).mp again, (Except.ok.inj done).symm⟩

theorem depositRow (right : DepositRight s voucher) (redeemed : voucher.status = .redeemed) :
    ∃ d, s.debtLedger.get d = some (deposit voucher voucher.redeemedTransactionId) := by
  obtain ⟨d, only⟩ := right.one redeemed
  have member : (d, deposit voucher voucher.redeemedTransactionId) ∈ standing s voucher.code := by
    rw [only]
    exact List.mem_cons_self
  exact ⟨d, (Table.mem_select.mp member).1⟩

theorem cancelDebt_debts (s : Store) (id : Nat) : (cancelDebt s id).debtLedger =
    s.debtLedger.insertAll ((s.debtLedger.select (isCancellable id)).map fun row => debtRefundReversal id row.2) := by
  unfold cancelDebt restoreRedeemedByTransaction
  dsimp only
  split
  · rfl
  · rfl

theorem cancelDebt_rest (s : Store) (id : Nat) :
    (cancelDebt s id).transactions = s.transactions ∧ (cancelDebt s id).payments = s.payments := by
  unfold cancelDebt restoreRedeemedByTransaction
  dsimp only
  split
  · exact ⟨rfl, rfl⟩
  · exact ⟨rfl, rfl⟩

theorem cancelDebt_nextId (s : Store) (id : Nat) : (cancelDebt s id).vouchers.nextId = s.vouchers.nextId := by
  unfold cancelDebt restoreRedeemedByTransaction
  dsimp only
  split
  · exact Table.nextId_updateWhere _ _ _
  · rfl

/-- The deposit that is cancelled is the voucher's own, so both halves go together. -/
theorem cancelDebt_vouchers (deposits : Deposits s) (v : Nat) :
    (cancelDebt (marked s id) id).vouchers.get v = (s.vouchers.get v).map (restored id) := by
  rcases inV : s.vouchers.get v with _ | voucher
  · unfold cancelDebt restoreRedeemedByTransaction marked
    dsimp only
    split
    · rw [Table.get_updateWhere, inV]
      rfl
    · exact inV
  rw [Option.map_some]
  by_cases here : voucher.redeemedTransactionId = some id ∧ voucher.status = .redeemed
  · obtain ⟨d, there⟩ := depositRow (deposits.right v voucher inV) here.2
    rw [here.1] at there
    have cancelled : ((marked s id).debtLedger.select (isCancellable id)).any (fun row => row.2.transactionType = .creditDeposit) = true := by
      refine List.any_eq_true.mpr ⟨(d, deposit voucher (some id)), Table.mem_select.mpr ⟨there, ?_⟩, ?_⟩
      · simp [isCancellable, deposit]
      · simp [deposit]
    unfold cancelDebt
    dsimp only
    rw [if_pos cancelled]
    unfold restoreRedeemedByTransaction
    dsimp only
    rw [Table.get_updateWhere, show (marked s id).vouchers.get v = some voucher from inV, Option.map_some, restored, if_pos here,
      if_pos]
    have linked : ((d, deposit voucher (some id)) : Nat × DebtRow) ∈
        (((marked s id).debtLedger.insertAll (((marked s id).debtLedger.select (isCancellable id)).map fun row =>
          debtRefundReversal id row.2)).select fun row => row.transactionId = some id && row.transactionType = .creditDeposit &&
            row.note = depositNote voucher.code) := by
      refine Table.mem_select.mpr ⟨Table.get_insertAll_of_get there, ?_⟩
      simp [deposit]
    simp [here, List.ne_nil_of_mem linked]
  · rw [restored, if_neg here]
    unfold cancelDebt restoreRedeemedByTransaction
    dsimp only
    split
    · rw [Table.get_updateWhere, show (marked s id).vouchers.get v = some voucher from inV, Option.map_some, if_neg]
      intro both
      simp only [Bool.and_eq_true, decide_eq_true_iff] at both
      exact here both.1
    · exact inV

/-- A reversed transaction's deposits no longer stand, the others do. -/
theorem isStanding_marked {original : Transaction} (found : s.transactions.get id = some original) (code : String) (row : DebtRow) :
    isStanding (marked s id).transactions code row = (isStanding s.transactions code row && row.transactionId ≠ some id) := by
  unfold isStanding marked
  dsimp only
  rcases inside : row.transactionId with _ | x
  · simp
  · by_cases same : x = id
    · subst same
      rw [Option.any_some, Table.get_update_self, found]
      simp
    · rw [Option.any_some, Option.any_some, Table.get_update_of_ne _ _ same]
      simp [same]

theorem standing_cancelled {original : Transaction} (found : s.transactions.get id = some original) (code : String) :
    standing (cancelDebt (marked s id) id) code = (standing s code).filter fun entry => entry.2.transactionId ≠ some id := by
  unfold standing
  rw [cancelDebt_debts, (cancelDebt_rest _ _).1, Table.select_insertAll]
  · unfold Table.select
    rw [List.filter_filter]
    congr 1
    funext entry
    rw [isStanding_marked found, Bool.and_comm]
  · intro row member
    obtain ⟨entry, -, rfl⟩ := List.mem_map.mp member
    rfl

theorem Deposits.reverse (deposits : Deposits s) (done : reverseTransaction s id = .ok s') : Deposits s' := by
  obtain ⟨original, found, isCharge, open', rfl⟩ := reverse_ok done
  have inV : ∀ {v a}, (cancelDebt (marked s id) id).vouchers.get v = some a → ∃ b, s.vouchers.get v = some b ∧ a = restored id b := by
    intro v a there
    rw [cancelDebt_vouchers deposits] at there
    obtain ⟨b, inOld, rfl⟩ := Option.map_eq_some_iff.mp there
    exact ⟨b, inOld, rfl⟩
  have onlyOwn : ∀ row ∈ (((marked s id).debtLedger.select (isCancellable id)).map fun row => debtRefundReversal id row.2),
      row.transactionType = .refundReversal ∧ row.transactionId = some id := by
    intro row member
    obtain ⟨entry, -, rfl⟩ := List.mem_map.mp member
    exact ⟨rfl, rfl⟩
  have marks : ∀ {x row}, (cancelDebt (marked s id) id).transactions.get x = some row →
      x = id ∧ row = { original with isReversed := true } ∨ x ≠ id ∧ s.transactions.get x = some row := by
    intro x row there
    rw [(cancelDebt_rest _ _).1] at there
    by_cases same : x = id
    · subst same
      refine Or.inl ⟨rfl, ?_⟩
      rw [marked, Table.get_update_self, found] at there
      exact (Option.some.inj there).symm
    · refine Or.inr ⟨same, ?_⟩
      rwa [marked, Table.get_update_of_ne _ _ same] at there
  constructor
  · intro v w a b inA inB same
    obtain ⟨a, oldA, rfl⟩ := inV inA
    obtain ⟨b, oldB, rfl⟩ := inV inB
    rw [restored_code, restored_code] at same
    exact deposits.codes v w a b oldA oldB same
  · intro d row there isDeposit
    rw [cancelDebt_debts] at there
    rcases Table.get_insertAll there with old | ⟨new, -⟩
    · obtain ⟨v, a, inOld, note⟩ := deposits.noted d row old isDeposit
      refine ⟨v, restored id a, ?_, ?_⟩
      · rw [cancelDebt_vouchers deposits, inOld]
        rfl
      · rw [restored_code, note]
    · rw [(onlyOwn row new).1] at isDeposit
      cases isDeposit
  · intro v a there
    obtain ⟨b, inOld, rfl⟩ := inV there
    have right := deposits.right v b inOld
    have rows := standing_cancelled found b.code
    by_cases here : b.redeemedTransactionId = some id ∧ b.status = .redeemed
    · obtain ⟨d, only⟩ := right.one here.2
      rw [only, here.1] at rows
      unfold restored
      rw [if_pos here]
      refine ⟨fun _ => rows.trans ?_, fun redeemed => ?_⟩
      · simp [deposit]
      · cases redeemed
    · unfold restored
      rw [if_neg here]
      refine ⟨fun notRedeemed => ?_, fun redeemed => ?_⟩
      · rw [rows, right.none notRedeemed]
        rfl
      · obtain ⟨d, only⟩ := right.one redeemed
        have apart : b.redeemedTransactionId ≠ some id := fun same => here ⟨same, redeemed⟩
        refine ⟨d, ?_⟩
        rw [rows, only]
        simp [deposit, apart]
  · intro d row there x inside
    rw [(cancelDebt_rest _ _).1, marked, Table.nextId_update]
    rw [cancelDebt_debts] at there
    rcases Table.get_insertAll there with old | ⟨new, -⟩
    · exact deposits.below d row old x inside
    · rw [(onlyOwn row new).2] at inside
      cases inside
      exact Table.get_lt found
  · intro x row there isCharge'
    rcases marks there with ⟨-, rfl⟩ | ⟨-, old⟩
    · exact deposits.charges id original found isCharge
    · exact deposits.charges x row old isCharge'
  · intro x row there isCharge' unreversed d debt inDebts inside
    rcases marks there with ⟨-, rfl⟩ | ⟨apart, old⟩
    · cases unreversed
    · rw [cancelDebt_debts] at inDebts
      rcases Table.get_insertAll inDebts with oldDebt | ⟨new, -⟩
      · exact deposits.unreversed x row old isCharge' unreversed d debt oldDebt inside
      · rw [(onlyOwn debt new).2] at inside
        exact absurd (Option.some.inj inside).symm apart
  · intro x row there reversed clientId
    rw [cancelDebt_debts]
    rcases marks there with ⟨rfl, -⟩ | ⟨apart, old⟩
    · -- all that is on an open charge is its deposits
      apply owedOn_reversed
      intro d debt inDebts
      by_cases inside : debt.transactionId = some x
      · have isDeposit := deposits.unreversed x original found isCharge open' d debt inDebts inside
        simp [isCancellable, inside, isDeposit]
      · simp [isCancellable, inside]
    · refine (owedOn_insertAll ?_).trans (deposits.reversed x row old reversed clientId)
      intro debt member inside
      rw [(onlyOwn debt member).2] at inside
      exact apart (Option.some.inj inside).symm

end

/-! The sales. -/

def isCancelOf (voucherId : Nat) (row : Transaction) : Bool :=
  row.type = .voucherCancel && row.sourceId = some voucherId

/-- What the legs of a sale and those of its cancel may each miss, and half a cent. -/
def tolerance (currency : Currency) (saleRate cancelRate : ℚ) : ℚ :=
  dollarIn currency saleRate * legReconciliationEpsilonUsd +
    dollarIn currency cancelRate * (legReconciliationEpsilonUsd + voucherEpsilonUsd)

/-- The sale of a voucher, whose legs add up to its price. -/
structure Recorded (s : Store) (v : Nat) (currency : Currency) (x : Nat) (sale : Transaction) : Prop where
  found : s.transactions.get x = some sale
  isSale : isSaleOf v sale = true
  only : ∀ x' sale', s.transactions.get x' = some sale' → isSaleOf v sale' = true → x' = x
  positive : 0 < sale.exchangeRate
  price : ∃ price, sale.amount = amountIn currency price
  near : |usdEquivalent (paidOn s.payments x + chargedOn s.debtLedger x) sale.exchangeRate -
    usdEquivalent sale.amount sale.exchangeRate| ≤ legReconciliationEpsilonUsd
  unreversed : sale.isReversed = false

/-- The voucher's one cancel took the charges of its sale back, and paid out what its drawer legs put in. -/
structure Settled (s : Store) (v : Nat) (currency : Currency) (x : Nat) (saleRate : ℚ) (c : Nat) (cancel : Transaction) : Prop where
  found : s.transactions.get c = some cancel
  isCancel : isCancelOf v cancel = true
  only : ∀ c' cancel', s.transactions.get c' = some cancel' → isCancelOf v cancel' = true → c' = c
  reversed : ∀ clientId, owedOn s.debtLedger clientId x = 0
  paidOut : |inCurrency currency (-paidOn s.payments c) cancel.exchangeRate -
    inCurrency currency (paidOn s.payments x) saleRate| ≤ tolerance currency saleRate cancel.exchangeRate
  noDrawer : NoDrawer s.payments x → NoDrawer s.payments c

/-- How the sale of a voucher stands. -/
structure SaleStands (s : Store) (v : Nat) (voucher : VoucherEntity) (x : Nat) (sale : Transaction) : Prop where
  recorded : Recorded s v voucher.currencyCode x sale
  charged : voucher.status ≠ .cancelled → ∀ d row, s.debtLedger.get d = some row → row.transactionId = some x →
    isVoucherDebtOf x row = true
  uncancelled : voucher.status ≠ .cancelled → ∀ c cancel, s.transactions.get c = some cancel → isCancelOf v cancel = false
  settled : voucher.status = .cancelled → ∃ c cancel, Settled s v voucher.currencyCode x sale.exchangeRate c cancel

/-- What a step does elsewhere leaves the transactions of a voucher, and what is on them. -/
structure Keeps (s s' : Store) (v : Nat) : Prop where
  back : ∀ x row, s'.transactions.get x = some row → row.sourceId = some v → s.transactions.get x = some row
  forth : ∀ x row, s.transactions.get x = some row → row.sourceId = some v → s'.transactions.get x = some row
  paid : ∀ x row, s.transactions.get x = some row → row.sourceId = some v →
    paidOn s'.payments x = paidOn s.payments x ∧ (NoDrawer s'.payments x ↔ NoDrawer s.payments x)
  charged : ∀ x row, s.transactions.get x = some row → row.sourceId = some v →
    chargedOn s'.debtLedger x = chargedOn s.debtLedger x
  owed : ∀ x row, s.transactions.get x = some row → row.sourceId = some v →
    ∀ clientId, owedOn s'.debtLedger clientId x = owedOn s.debtLedger clientId x
  debts : ∀ x row, s.transactions.get x = some row → row.sourceId = some v →
    ∀ d debt, s'.debtLedger.get d = some debt → debt.transactionId = some x → s.debtLedger.get d = some debt

section
variable {s s' : Store} {v x : Nat} {voucher voucher' : VoucherEntity} {sale row : Transaction}

theorem sale_source (isSale : isSaleOf v row = true) : row.type = .voucherSale ∧ row.sourceId = some v := by
  simpa [isSaleOf] using isSale

theorem cancel_source (isCancel : isCancelOf v row = true) : row.type = .voucherCancel ∧ row.sourceId = some v := by
  simpa [isCancelOf] using isCancel

theorem Recorded.keep {currency : Currency} (recorded : Recorded s v currency x sale) (keeps : Keeps s s' v) :
    Recorded s' v currency x sale := by
  have source := (sale_source recorded.isSale).2
  refine ⟨keeps.forth x sale recorded.found source, recorded.isSale, ?_, recorded.positive, recorded.price, ?_,
    recorded.unreversed⟩
  · intro x' sale' there isSale
    exact recorded.only x' sale' (keeps.back x' sale' there (sale_source isSale).2) isSale
  · rw [(keeps.paid x sale recorded.found source).1, keeps.charged x sale recorded.found source]
    exact recorded.near

theorem Settled.keep {currency : Currency} {c : Nat} {cancel : Transaction}
    (settled : Settled s v currency x sale.exchangeRate c cancel) (recorded : Recorded s v currency x sale) (keeps : Keeps s s' v) :
    Settled s' v currency x sale.exchangeRate c cancel := by
  have source := (sale_source recorded.isSale).2
  have cancelSource := (cancel_source settled.isCancel).2
  obtain ⟨paidSale, drawerSale⟩ := keeps.paid x sale recorded.found source
  obtain ⟨paidCancel, drawerCancel⟩ := keeps.paid c cancel settled.found cancelSource
  refine ⟨keeps.forth c cancel settled.found cancelSource, settled.isCancel, ?_, ?_, ?_, ?_⟩
  · intro c' cancel' there isCancel
    exact settled.only c' cancel' (keeps.back c' cancel' there (cancel_source isCancel).2) isCancel
  · intro clientId
    rw [keeps.owed x sale recorded.found source]
    exact settled.reversed clientId
  · rw [paidSale, paidCancel]
    exact settled.paidOut
  · rw [drawerSale, drawerCancel]
    exact settled.noDrawer

theorem SaleStands.keep (stands : SaleStands s v voucher x sale) (keeps : Keeps s s' v)
    (sameCurrency : voucher'.currencyCode = voucher.currencyCode)
    (sameStanding : voucher'.status = .cancelled ↔ voucher.status = .cancelled) : SaleStands s' v voucher' x sale := by
  have source := (sale_source stands.recorded.isSale).2
  constructor
  · rw [sameCurrency]
    exact stands.recorded.keep keeps
  · intro open' d row there inside
    exact stands.charged (mt sameStanding.mpr open') d row (keeps.debts x sale stands.recorded.found source d row there inside) inside
  · intro open' c cancel there
    by_contra isCancel
    rw [Bool.not_eq_false] at isCancel
    have was := stands.uncancelled (mt sameStanding.mpr open') c cancel (keeps.back c cancel there (cancel_source isCancel).2)
    rw [was] at isCancel
    cases isCancel
  · intro cancelled
    obtain ⟨c, cancel, settled⟩ := stands.settled (sameStanding.mp cancelled)
    rw [sameCurrency]
    exact ⟨c, cancel, settled.keep stands.recorded keeps⟩

theorem Keeps.refl (s : Store) (v : Nat) : Keeps s s v :=
  ⟨fun _ _ there _ => there, fun _ _ there _ => there, fun _ _ _ _ => ⟨rfl, Iff.rfl⟩, fun _ _ _ _ => rfl, fun _ _ _ _ _ => rfl,
    fun _ _ _ _ _ _ there _ => there⟩

theorem Keeps.trans {s'' : Store} (first : Keeps s s' v) (second : Keeps s' s'' v) : Keeps s s'' v := by
  refine ⟨?_, ?_, ?_, ?_, ?_, ?_⟩
  · exact fun x row there source => first.back x row (second.back x row there source) source
  · exact fun x row there source => second.forth x row (first.forth x row there source) source
  · intro x row there source
    obtain ⟨paid, drawer⟩ := first.paid x row there source
    obtain ⟨paid', drawer'⟩ := second.paid x row (first.forth x row there source) source
    exact ⟨paid'.trans paid, drawer'.trans drawer⟩
  · intro x row there source
    exact (second.charged x row (first.forth x row there source) source).trans (first.charged x row there source)
  · intro x row there source clientId
    exact (second.owed x row (first.forth x row there source) source clientId).trans (first.owed x row there source clientId)
  · intro x row there source d debt inDebts inside
    exact first.debts x row there source d debt
      (second.debts x row (first.forth x row there source) source d debt inDebts inside) inside

/-- Rows that all are on one transaction, which is not the voucher's. -/
theorem Keeps.insertDebts {rows : List DebtRow} {y : Option Nat} (own : ∀ row ∈ rows, row.transactionId = y)
    (apart : ∀ x row, s.transactions.get x = some row → row.sourceId = some v → y ≠ some x) (vouchers : Table VoucherEntity) :
    Keeps s { s with vouchers := vouchers, debtLedger := s.debtLedger.insertAll rows } v := by
  have elsewhere : ∀ x row, s.transactions.get x = some row → row.sourceId = some v → ∀ row ∈ rows, row.transactionId ≠ some x :=
    fun x row there source debt member => own debt member ▸ apart x row there source
  refine ⟨fun _ _ there _ => there, fun _ _ there _ => there, fun _ _ _ _ => ⟨rfl, Iff.rfl⟩, ?_, ?_, ?_⟩
  · intro x row there source
    apply chargedOn_insertAll
    intro debt member
    simp [isVoucherDebtOf, elsewhere x row there source debt member]
  · exact fun x row there source clientId => owedOn_insertAll (elsewhere x row there source)
  · intro x row there source d debt inDebts inside
    rcases Table.get_insertAll inDebts with old | ⟨new, -⟩
    · exact old
    · exact absurd inside (elsewhere x row there source debt new)

theorem Keeps.insertTransaction (ofOther : row.sourceId ≠ some v) : Keeps s { s with transactions := s.transactions.insert row } v := by
  refine ⟨?_, fun x row there _ => Table.get_insert_of_get there, fun _ _ _ _ => ⟨rfl, Iff.rfl⟩, fun _ _ _ _ => rfl,
    fun _ _ _ _ _ => rfl, fun _ _ _ _ _ _ there _ => there⟩
  intro x found there source
  rcases Table.get_insert there with old | ⟨-, rfl⟩
  · exact old
  · exact absurd source ofOther

theorem Keeps.insertPayments {rows : List Payment} {y : Nat} (own : ∀ row ∈ rows, row.transactionId = y)
    (apart : ∀ x row, s.transactions.get x = some row → row.sourceId = some v → x ≠ y) :
    Keeps s { s with payments := s.payments.insertAll rows } v := by
  refine ⟨fun _ _ there _ => there, fun _ _ there _ => there, ?_, fun _ _ _ _ => rfl, fun _ _ _ _ _ => rfl,
    fun _ _ _ _ _ _ there _ => there⟩
  intro x row there source
  have other := apart x row there source
  exact ⟨paidOn_insertAll_other own other, noDrawer_insertAll_other own other⟩

end

/-! What holds of every store on the way. -/

structure Sound (s : Store) : Prop where
  deposits : Deposits s
  stands : ∀ v voucher, s.vouchers.get v = some voucher → ∃ x sale, SaleStands s v voucher x sale
  worths : ∀ v voucher, s.vouchers.get v = some voucher → 0 < voucher.amount
  sources : ∀ x row, s.transactions.get x = some row → ∀ v, row.sourceId = some v → v < s.vouchers.nextId
  below : ∀ p row, s.payments.get p = some row → row.transactionId < s.transactions.nextId

section
variable {s s' : Store} {params : RedeemVoucherParams} {id : Nat}

theorem Sound.redeem (sound : Sound s) (into : ∀ x, params.transactionId = some x →
    ∃ row, s.transactions.get x = some row ∧ row.type = .charge ∧ row.isReversed = false)
    (done : redeemByCode s params = .ok s') : Sound s' := by
  have deposits := sound.deposits.redeem into done
  obtain ⟨id, voucher, found, -, pending, rfl⟩ := redeem_ok done
  have keeps : ∀ v, Keeps s { s with
      vouchers := s.vouchers.update id fun voucher =>
        { voucher with status := .redeemed, redeemedTransactionId := params.transactionId }
      debtLedger := s.debtLedger.insert (deposit voucher params.transactionId) } v := by
    intro v
    have own : ∀ row ∈ [deposit voucher params.transactionId], row.transactionId = params.transactionId :=
      fun row member => List.mem_singleton.mp member ▸ rfl
    have apart : ∀ x row, s.transactions.get x = some row → row.sourceId = some v → params.transactionId ≠ some x := by
      intro x row there source inside
      obtain ⟨row', inTransactions, isCharge, -⟩ := into x inside
      rw [inTransactions] at there
      cases there
      rw [sound.deposits.charges x row inTransactions isCharge] at source
      cases source
    exact Keeps.insertDebts own apart _
  refine ⟨deposits, ?_, ?_, ?_, sound.below⟩
  · intro v a there
    rcases get_changed found there with ⟨rfl, rfl⟩ | ⟨-, inV⟩
    · obtain ⟨x, sale, stands⟩ := sound.stands v voucher found
      exact ⟨x, sale, stands.keep (keeps v) rfl (by simp [pending])⟩
    · obtain ⟨x, sale, stands⟩ := sound.stands v a inV
      exact ⟨x, sale, stands.keep (keeps v) rfl Iff.rfl⟩
  · intro v a there
    rcases get_changed found there with ⟨rfl, rfl⟩ | ⟨-, inV⟩
    · exact sound.worths v voucher found
    · exact sound.worths v a inV
  · intro x row there v source
    rw [Table.nextId_update]
    exact sound.sources x row there v source

theorem Sound.reverse (sound : Sound s) (done : reverseTransaction s id = .ok s') : Sound s' := by
  have deposits := sound.deposits.reverse done
  obtain ⟨original, found, isCharge, open', rfl⟩ := reverse_ok done
  have ofNone := sound.deposits.charges id original found isCharge
  obtain ⟨transactions, payments⟩ := cancelDebt_rest (marked s id) id
  have marks : ∀ x row, row.sourceId ≠ none → ((cancelDebt (marked s id) id).transactions.get x = some row ↔
      s.transactions.get x = some row) := by
    intro x row source
    rw [transactions, marked]
    by_cases same : x = id
    · subst same
      rw [Table.get_update_self, found]
      constructor
      · intro there
        exact absurd ((Option.some.inj there) ▸ ofNone) source
      · intro there
        exact absurd ((Option.some.inj there) ▸ ofNone) source
    · rw [Table.get_update_of_ne _ _ same]
  have keeps : ∀ v, Keeps s (cancelDebt (marked s id) id) v := by
    intro v
    have own : ∀ row ∈ (((marked s id).debtLedger.select (isCancellable id)).map fun row => debtRefundReversal id row.2),
        row.transactionId = some id := by
      intro row member
      obtain ⟨entry, -, rfl⟩ := List.mem_map.mp member
      rfl
    have apart : ∀ x row, s.transactions.get x = some row → row.sourceId = some v → some id ≠ some x := by
      intro x row there source same
      cases same
      rw [found] at there
      cases there
      rw [ofNone] at source
      cases source
    obtain ⟨back, forth, paid, charged, owed, debts⟩ := Keeps.insertDebts own apart s.vouchers
    refine ⟨?_, ?_, ?_, ?_, ?_, ?_⟩
    · exact fun x row there source => (marks x row (by rw [source]; exact (nomatch ·))).mp there
    · exact fun x row there source => (marks x row (by rw [source]; exact (nomatch ·))).mpr there
    · rw [payments]
      exact paid
    · rw [cancelDebt_debts]
      exact charged
    · rw [cancelDebt_debts]
      exact owed
    · rw [cancelDebt_debts]
      exact debts
  have inV : ∀ v a, (cancelDebt (marked s id) id).vouchers.get v = some a → ∃ b, s.vouchers.get v = some b ∧ a = restored id b := by
    intro v a there
    rw [cancelDebt_vouchers sound.deposits] at there
    obtain ⟨b, inOld, rfl⟩ := Option.map_eq_some_iff.mp there
    exact ⟨b, inOld, rfl⟩
  refine ⟨deposits, ?_, ?_, ?_, ?_⟩
  · intro v a there
    obtain ⟨b, inOld, rfl⟩ := inV v a there
    obtain ⟨x, sale, stands⟩ := sound.stands v b inOld
    refine ⟨x, sale, stands.keep (keeps v) ?_ ?_⟩
    · unfold restored
      split_ifs
      · rfl
      · rfl
    · unfold restored
      split_ifs with here
      · simp [here.2]
      · rfl
  · intro v a there
    obtain ⟨b, inOld, rfl⟩ := inV v a there
    have positive := sound.worths v b inOld
    unfold restored
    split_ifs
    · exact positive
    · exact positive
  · intro x row there v source
    rw [cancelDebt_nextId]
    exact sound.sources x row ((marks x row (by rw [source]; exact (nomatch ·))).mp there) v source
  · intro p row there
    rw [payments] at there
    rw [transactions, marked, Table.nextId_update]
    exact sound.below p row there

theorem Sound.insertCharge (sound : Sound s) : Sound { s with transactions := s.transactions.insert { type := .charge } } := by
  refine ⟨sound.deposits.insertTransaction rfl fun _ => rfl, ?_, sound.worths, ?_, ?_⟩
  · intro v voucher inV
    obtain ⟨x, sale, stands⟩ := sound.stands v voucher inV
    exact ⟨x, sale, stands.keep (Keeps.insertTransaction (Option.some_ne_none v).symm) rfl Iff.rfl⟩
  · intro x row there v source
    rcases Table.get_insert there with old | ⟨-, rfl⟩
    · exact sound.sources x row old v source
    · cases source
  · intro p row there
    rw [Table.nextId_insert]
    exact (sound.below p row there).trans (Nat.lt_succ_self _)

theorem Sound.charge {codes : List String} {inSession : Bool} {day : ℤ} (sound : Sound s)
    (done : Vouchers.charge s codes inSession day = .ok s') : Sound s' := by
  unfold Vouchers.charge at done
  split_ifs at done
  · have keeps : ∀ code ∈ codes, ∀ next next', Sound next →
        redeemByCode next { code, transactionId := none, day } = .ok next' → Sound next' := by
      intro code _ next next' sound redeemed
      apply sound.redeem _ redeemed
      intro x inside
      cases inside
    exact each_invariant keeps sound done
  · -- the transaction stays open while its codes are redeemed
    have keeps : ∀ code ∈ codes, ∀ next next', Sound next ∧ next.transactions.get s.transactions.nextId = some { type := .charge } →
        redeemByCode next { code, transactionId := some s.transactions.nextId, day } = .ok next' →
          Sound next' ∧ next'.transactions.get s.transactions.nextId = some { type := .charge } := by
      intro code _ next next' ⟨sound, open'⟩ redeemed
      refine ⟨sound.redeem ?_ redeemed, ?_⟩
      · intro x inside
        cases inside
        exact ⟨_, open', rfl, rfl⟩
      · obtain ⟨id, voucher, -, -, -, rfl⟩ := redeem_ok redeemed
        exact open'
    exact (each_invariant keeps ⟨sound.insertCharge, Table.get_insert_self _ _⟩ done).1

end

end Liratek.Voucher.VoucherValue
