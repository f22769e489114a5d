import Liratek.Voucher.VoucherValue
import Mathlib.Algebra.Order.Monoid.Prod

/-! Runs of sales, redemptions, reversals and cancels. -/

namespace Liratek.Voucher.VoucherRuns
open Lib Lib.Calls Lib.Runs Vouchers VoucherValue

/-! What legs put into the drawers. -/

section
variable {methods : Methods} {transactionId : Nat} {signed : Leg → ℚ} {legs : List Leg} {rows : List Payment}

theorem drawerRow_ok {leg : Leg} {row : Payment} (posted : drawerRow methods transactionId signed leg = .ok row) :
    row.transactionId = transactionId ∧ worth row = amountIn leg.currencyCode (signed leg) := by
  obtain ⟨currencyCode, posting, rfl⟩ := map_ok posted
  refine ⟨rfl, ?_⟩
  unfold postingCurrency at posting
  rcases currency : leg.currencyCode with _ | _
  · rw [currency] at posting
    dsimp only at posting
    split_ifs at posting
    · cases posting
      rfl
    · cases posting
      rfl
  · rw [currency] at posting
    dsimp only at posting
    split_ifs at posting
    cases posting
    rfl

theorem drawerRows (posted : gather (drawerRow methods transactionId signed) legs = .ok rows) :
    (∀ row ∈ rows, row.transactionId = transactionId) ∧
      (rows.map worth).sum = (legs.map fun leg => amountIn leg.currencyCode (signed leg)).sum := by
  induction legs generalizing rows with
  | nil =>
    cases posted
    exact ⟨fun _ member => absurd member List.not_mem_nil, rfl⟩
  | cons leg rest ih =>
    obtain ⟨row, first, others⟩ := bind_ok posted
    obtain ⟨rows, gathered, rfl⟩ := map_ok others
    obtain ⟨own, same⟩ := drawerRow_ok first
    obtain ⟨owns, sums⟩ := ih gathered
    refine ⟨List.forall_mem_cons.mpr ⟨own, owns⟩, ?_⟩
    rw [List.map_cons, List.sum_cons, same, sums]
    rfl

theorem signedAmount_in (leg : Leg) (inward : leg.isOut = false) : signedAmount leg = |leg.amount| := by
  unfold signedAmount
  rw [inward]
  rfl

theorem signedAmount_out (leg : Leg) (outward : leg.isOut = true) : signedAmount leg = -|leg.amount| := by
  unfold signedAmount
  rw [outward]
  rfl

theorem sumLegsByCurrency_cons (leg : Leg) (rest : List Leg) :
    sumLegsByCurrency (leg :: rest) = amountIn leg.currencyCode |leg.amount| + sumLegsByCurrency rest := rfl

/-- What comes in less the change. -/
theorem sum_partition (legs : List Leg) : sumLegsByCurrency (partitionLegs legs).1 - sumLegsByCurrency (partitionLegs legs).2 =
    (legs.map fun leg => amountIn leg.currencyCode (signedAmount leg)).sum := by
  induction legs with
  | nil => exact sub_self _
  | cons leg rest ih =>
    rw [List.map_cons, List.sum_cons, ← ih]
    unfold partitionLegs
    rcases way : leg.isOut with _ | _
    · simp only [List.filter_cons, way, Bool.not_false, if_true, Bool.false_eq_true, if_false, sumLegsByCurrency_cons,
        signedAmount_in leg way]
      abel
    · simp only [List.filter_cons, way, Bool.not_true, if_true, Bool.false_eq_true, if_false, sumLegsByCurrency_cons,
        signedAmount_out leg way, amountIn_neg]
      abel

/-- Legs on the account are never change, so the drawers and the account share what comes in. -/
theorem sum_account (inward : ∀ leg ∈ legs, isAccountLeg leg = true → leg.isOut = false) :
    ((legs.filter fun leg => !isAccountLeg leg).map fun leg => amountIn leg.currencyCode (signedAmount leg)).sum +
      sumLegsByCurrency (legs.filter isAccountLeg) = (legs.map fun leg => amountIn leg.currencyCode (signedAmount leg)).sum := by
  induction legs with
  | nil => exact add_zero _
  | cons leg rest ih =>
    obtain ⟨first, others⟩ := List.forall_mem_cons.mp inward
    rw [List.map_cons, List.sum_cons, ← ih others]
    rcases account : isAccountLeg leg with _ | _
    · simp only [List.filter_cons, account, Bool.not_false, if_true, Bool.false_eq_true, if_false, List.map_cons, List.sum_cons]
      abel
    · simp only [List.filter_cons, account, Bool.not_true, if_true, Bool.false_eq_true, if_false, sumLegsByCurrency_cons,
        signedAmount_in leg (first account)]
      abel

theorem sumLegsByCurrency_nonneg (legs : List Leg) : 0 ≤ sumLegsByCurrency legs := by
  apply List.sum_nonneg
  intro amount member
  obtain ⟨leg, -, rfl⟩ := List.mem_map.mp member
  exact amountIn_abs_nonneg leg.currencyCode leg.amount

/-- Both currencies are charged in full. -/
theorem sum_voucherDebts (clientId transactionId : Nat) (note : String) {onAccount : UsdLbp} (nonneg : 0 ≤ onAccount) :
    ((voucherDebts clientId transactionId note onAccount).map (·.amount)).sum = onAccount := by
  obtain ⟨usd, lbp⟩ := onAccount
  have usdNonneg : (0 : ℚ) ≤ usd := nonneg.1
  have lbpNonneg : (0 : ℚ) ≤ lbp := nonneg.2
  unfold voucherDebts
  rcases usdNonneg.eq_or_lt with rfl | usdPositive <;> rcases lbpNonneg.eq_or_lt with rfl | lbpPositive
  · rfl
  · simp [lbpPositive]
  · simp [usdPositive]
  · simp [usdPositive, lbpPositive]

theorem reconcileLegs_near {inLegs outLegs : List Leg} {expected : UsdLbp} {exchangeRate : Rate} {tender : Option ℚ}
    (some' : inLegs ≠ []) (fits : reconcileLegs inLegs outLegs expected exchangeRate tender = .ok ()) :
    |usdEquivalent (sumLegsByCurrency inLegs - sumLegsByCurrency outLegs) (resolveStampedExchangeRate exchangeRate tender).value -
      usdEquivalent expected (resolveStampedExchangeRate exchangeRate tender).value| ≤ legReconciliationEpsilonUsd := by
  unfold reconcileLegs at fits
  rw [if_neg some'] at fits
  dsimp only at fits
  rw [usdEquivalent_sub]
  split_ifs at fits with far
  exact not_lt.mp far

end

/-! Selling. -/

/-- The store once the legs are posted. -/
def sold (s : Store) (data : CreateVoucherData) (posted : List Leg) (rate : ℚ) (rows : List Payment) : Store where
  vouchers := s.vouchers.insert
    { code := data.code, clientId := data.clientId, amount := data.amount, currencyCode := data.currencyCode, expiryDate := data.expiryDate }
  transactions := s.transactions.insert
    { type := .voucherSale
      sourceId := some s.vouchers.nextId
      amount := amountIn data.currencyCode data.paid
      exchangeRate := rate }
  payments := s.payments.insertAll rows
  debtLedger := s.debtLedger.insertAll
    (voucherDebts data.clientId s.transactions.nextId ("Voucher sold " ++ data.code) (sumLegsByCurrency (posted.filter isAccountLeg)))

def stampedRate (sellRate : Rate) (tender : Option ℚ) : ℚ :=
  (resolveStampedExchangeRate sellRate tender).value

/-- A sale that is not refused. -/
structure Accepted (methods : Methods) (s : Store) (data : CreateVoucherData) (legs : List Leg) (sellRate : Rate) (tender : Option ℚ)
    (rows : List Payment) : Prop where
  discount : voucherDiscountRefusal data.discountAmount data.amount data.currencyCode = none
  allowed : (liveLegs legs).findSome? (saleLegRefusal data.clientPhone) = none
  fits : reconcileLegs (partitionLegs (liveLegs legs)).1 (partitionLegs (liveLegs legs)).2 (amountIn data.currencyCode data.paid)
    sellRate tender = .ok ()
  fresh : (s.vouchers.select fun voucher => voucher.code = data.code) = []
  posting : gather (drawerRow methods s.transactions.nextId signedAmount)
    ((postLegs data legs).filter fun leg => !isAccountLeg leg) = .ok rows

/-- Legs that pay in, or none. -/
def PaysIn (legs : List Leg) : Prop :=
  liveLegs legs = [] ∨ ∃ leg ∈ liveLegs legs, leg.isOut = false

section
variable {methods : Methods} {s s' : Store} {data : CreateVoucherData} {legs posted : List Leg} {sellRate : Rate} {tender : Option ℚ}
variable {rows : List Payment} {rate : ℚ} {voucher : VoucherEntity} {v : Nat}

theorem sell_ok (done : sellVoucher methods s data legs sellRate tender = .ok s') :
    ∃ rows, Accepted methods s data legs sellRate tender rows ∧
      s' = sold s data (postLegs data legs) (stampedRate sellRate tender) rows := by
  unfold sellVoucher at done
  rcases discount : voucherDiscountRefusal data.discountAmount data.amount data.currencyCode with _ | refusal
  · rw [discount] at done
    dsimp only at done
    rcases allowed : (liveLegs legs).findSome? (saleLegRefusal data.clientPhone) with _ | refusal
    · rw [allowed] at done
      dsimp only at done
      obtain ⟨⟨⟩, fits, rest⟩ := bind_ok done
      split_ifs at rest with taken
      obtain ⟨rows, posting, rfl⟩ := map_ok rest
      exact ⟨rows, ⟨discount, allowed, fits, not_not.mp taken, posting⟩, rfl⟩
    · rw [allowed] at done
      cases done
  · rw [discount] at done
    cases done

theorem Accepted.paid_pos (accepted : Accepted methods s data legs sellRate tender rows) : 0 < data.paid := by
  have positive := data.positive
  have discount := accepted.discount
  unfold CreateVoucherData.paid
  unfold voucherDiscountRefusal at discount
  dsimp only at discount
  split_ifs at discount with none' beyond all
  · rw [max_eq_left none']
    linarith
  · rw [max_eq_right (not_le.mp none').le]
    linarith

theorem Accepted.account_inward (accepted : Accepted methods s data legs sellRate tender rows) :
    ∀ leg ∈ postLegs data legs, isAccountLeg leg = true → leg.isOut = false := by
  intro leg member account
  unfold postLegs at member
  split_ifs at member
  · rw [List.mem_singleton] at member
    rw [member]
  · have allowed := List.findSome?_eq_none_iff.mp accepted.allowed leg member
    by_contra outward
    rw [Bool.not_eq_false] at outward
    have method : leg.method = .customerAccount := of_decide_eq_true account
    simp [saleLegRefusal, method, outward, voucherSaleMethods] at allowed

theorem Accepted.near (accepted : Accepted methods s data legs sellRate tender rows) (paysIn : PaysIn legs) :
    |usdEquivalent (((postLegs data legs).map fun leg => amountIn leg.currencyCode (signedAmount leg)).sum) (stampedRate sellRate tender) -
      usdEquivalent (amountIn data.currencyCode data.paid) (stampedRate sellRate tender)| ≤ legReconciliationEpsilonUsd := by
  unfold postLegs
  split_ifs with none'
  · have single : ([({ method := .cash, currencyCode := data.currencyCode, amount := data.paid } : Leg)].map fun leg =>
        amountIn leg.currencyCode (signedAmount leg)).sum = amountIn data.currencyCode data.paid := by
      rw [List.map_singleton, List.sum_singleton, signedAmount_in _ rfl, abs_of_pos accepted.paid_pos]
    rw [single, sub_self, abs_zero]
    norm_num [legReconciliationEpsilonUsd]
  · rw [← sum_partition]
    obtain ⟨leg, member, inward⟩ := paysIn.resolve_left none'
    have listed : leg ∈ (partitionLegs (liveLegs legs)).1 := List.mem_filter.mpr ⟨member, by rw [inward]; rfl⟩
    exact reconcileLegs_near (List.ne_nil_of_mem listed) accepted.fits

theorem voucherDebts_own {clientId x : Nat} {note : String} {onAccount : UsdLbp} :
    ∀ row ∈ voucherDebts clientId x note onAccount, row.transactionType = .voucherDebt ∧ row.transactionId = some x := by
  intro row member
  obtain ⟨amount, -, rfl⟩ := List.mem_map.mp member
  exact ⟨rfl, rfl⟩

theorem isVoucherDebtOf_own {clientId x : Nat} {note : String} {onAccount : UsdLbp} :
    ∀ row ∈ voucherDebts clientId x note onAccount, isVoucherDebtOf x row = true := by
  intro row member
  obtain ⟨isDebt, inside⟩ := voucherDebts_own row member
  simp [isVoucherDebtOf, isDebt, inside]

/-- What vouchers had before stays theirs. -/
theorem sold_keeps (own : ∀ row ∈ rows, row.transactionId = s.transactions.nextId) (inV : s.vouchers.get v = some voucher) :
    Keeps s (sold s data posted rate rows) v := by
  have other : s.vouchers.nextId ≠ v := (Table.get_lt inV).ne'
  have recorded : Keeps s { s with transactions := (sold s data posted rate rows).transactions } v :=
    Keeps.insertTransaction fun same => other (Option.some.inj same)
  have apart : ∀ x row, (sold s data posted rate rows).transactions.get x = some row → row.sourceId = some v →
      x ≠ s.transactions.nextId := by
    intro x row there source
    rcases Table.get_insert there with old | ⟨-, rfl⟩
    · exact (Table.get_lt old).ne
    · exact absurd (Option.some.inj source) other
  have paid : Keeps { s with transactions := (sold s data posted rate rows).transactions }
      { s with transactions := (sold s data posted rate rows).transactions, payments := s.payments.insertAll rows } v :=
    Keeps.insertPayments own apart
  refine (recorded.trans paid).trans (Keeps.insertDebts (fun row member => (voucherDebts_own row member).2) ?_ _)
  exact fun x row there source same => apart x row there source (Option.some.inj same).symm

/-- The drawers and the account share what the legs bring in. -/
theorem Accepted.shared (accepted : Accepted methods s data legs sellRate tender rows) (sound : Sound s) :
    paidOn (sold s data (postLegs data legs) rate rows).payments s.transactions.nextId +
      chargedOn (sold s data (postLegs data legs) rate rows).debtLedger s.transactions.nextId =
        ((postLegs data legs).map fun leg => amountIn leg.currencyCode (signedAmount leg)).sum := by
  obtain ⟨own, sums⟩ := drawerRows accepted.posting
  have paid : paidOn (sold s data (postLegs data legs) rate rows).payments s.transactions.nextId = (rows.map worth).sum :=
    paidOn_insertAll_own own fun p row there => (sound.below p row there).ne
  have charged : chargedOn (sold s data (postLegs data legs) rate rows).debtLedger s.transactions.nextId =
      sumLegsByCurrency ((postLegs data legs).filter isAccountLeg) := by
    refine (chargedOn_insertAll_own isVoucherDebtOf_own ?_).trans (sum_voucherDebts _ _ _ (sumLegsByCurrency_nonneg _))
    exact fun d row there inside => absurd (sound.deposits.below d row there _ inside) (lt_irrefl _)
  rw [paid, charged, sums]
  exact sum_account accepted.account_inward

theorem sold_stands (sound : Sound s) (paysIn : PaysIn legs) (accepted : Accepted methods s data legs sellRate tender rows)
    (inV : (sold s data (postLegs data legs) (stampedRate sellRate tender) rows).vouchers.get s.vouchers.nextId = some voucher) :
    ∃ sale, SaleStands (sold s data (postLegs data legs) (stampedRate sellRate tender) rows) s.vouchers.nextId voucher
      s.transactions.nextId sale := by
  have noSource : ∀ x row, s.transactions.get x = some row → row.sourceId ≠ some s.vouchers.nextId :=
    fun x row there source => absurd (sound.sources x row there _ source) (lt_irrefl _)
  dsimp only [sold] at inV
  rw [Table.get_insert_self] at inV
  cases inV
  refine ⟨_, ⟨Table.get_insert_self _ _, ?_, ?_, Rate.positive _, ⟨_, rfl⟩, ?_, rfl⟩, ?_, ?_, (nomatch ·)⟩
  · simp [isSaleOf]
  · intro x' sale' there isSale
    rcases Table.get_insert there with old | ⟨last, -⟩
    · exact absurd (sale_source isSale).2 (noSource x' sale' old)
    · exact last
  · rw [accepted.shared sound]
    exact accepted.near paysIn
  · intro _ d row there inside
    rcases Table.get_insertAll there with old | ⟨new, -⟩
    · exact absurd (sound.deposits.below d row old _ inside) (lt_irrefl _)
    · exact isVoucherDebtOf_own row new
  · intro _ c cancel there
    by_contra isCancel
    rw [Bool.not_eq_false] at isCancel
    obtain ⟨type, source⟩ := cancel_source isCancel
    rcases Table.get_insert there with old | ⟨-, rfl⟩
    · exact noSource c cancel old source
    · cases type

theorem sold_deposits (deposits : Deposits s) (fresh : (s.vouchers.select fun voucher => voucher.code = data.code) = []) :
    Deposits (sold s data posted rate rows) := by
  have recorded : Deposits { s with transactions := (sold s data posted rate rows).transactions } :=
    deposits.insertTransaction rfl (nomatch ·)
  have charged : Deposits { s with
      transactions := (sold s data posted rate rows).transactions
      debtLedger := (sold s data posted rate rows).debtLedger } := by
    refine recorded.insertDebts (Table.get_insert_self _ _) (nomatch ·) rfl ?_
    intro row member
    obtain ⟨isDebt, inside⟩ := voucherDebts_own row member
    exact ⟨by rw [isDebt]; exact (nomatch ·), inside⟩
  have listed : Deposits { s with
      vouchers := (sold s data posted rate rows).vouchers
      transactions := (sold s data posted rate rows).transactions
      debtLedger := (sold s data posted rate rows).debtLedger } :=
    charged.insertVoucher fresh rfl
  obtain ⟨codes, noted, right, below, charges, unreversed, reversed⟩ := listed
  exact ⟨codes, noted, fun v a there => (right v a there).same rfl, below, charges, unreversed, reversed⟩

theorem sell_sound (sound : Sound s) (paysIn : PaysIn legs) (done : sellVoucher methods s data legs sellRate tender = .ok s') :
    Sound s' := by
  obtain ⟨rows, accepted, rfl⟩ := sell_ok done
  have own := (drawerRows accepted.posting).1
  refine ⟨sold_deposits sound.deposits accepted.fresh, ?_, ?_, ?_, ?_⟩
  · intro v voucher there
    by_cases last : v = s.vouchers.nextId
    · subst last
      exact ⟨_, sold_stands sound paysIn accepted there⟩
    · have inV : s.vouchers.get v = some voucher := (Table.get_insert_of_ne _ _ last).symm.trans there
      obtain ⟨x, sale, stands⟩ := sound.stands v voucher inV
      exact ⟨x, sale, stands.keep (sold_keeps own inV) rfl Iff.rfl⟩
  · intro v voucher there
    rcases Table.get_insert there with old | ⟨-, rfl⟩
    · exact sound.worths v voucher old
    · exact data.positive
  · intro x row there v source
    dsimp only [sold]
    rw [Table.nextId_insert]
    rcases Table.get_insert there with old | ⟨-, rfl⟩
    · exact (sound.sources x row old v source).trans (Nat.lt_succ_self _)
    · cases source
      exact Nat.lt_succ_self _
  · intro p row there
    dsimp only [sold]
    rw [Table.nextId_insert]
    rcases Table.get_insertAll there with old | ⟨new, -⟩
    · exact (sound.below p row old).trans (Nat.lt_succ_self _)
    · rw [own row new]
      exact Nat.lt_succ_self _

end

/-! Cancelling. -/

/-- What the books say that a sale's drawers took in. -/
def cash (s : Store) (x : Nat) (sale : Transaction) : UsdLbp :=
  sale.amount - chargedOn s.debtLedger x

def saleTotals (s : Store) (x : Nat) (sale : Transaction) : VoucherSaleTotals where
  saleTxnId := some x
  total := sale.amount
  onAccount := chargedOn s.debtLedger x

/-- The store once a sale is cancelled. -/
def cancelled (s : Store) (v x : Nat) (sale : Transaction) (rate : ℚ) (rows : List Payment) : Store where
  vouchers := s.vouchers.update v fun voucher => { voucher with status := .cancelled }
  transactions := s.transactions.insert { type := .voucherCancel, sourceId := some v, amount := sale.amount, exchangeRate := rate }
  payments := s.payments.insertAll rows
  debtLedger := s.debtLedger.insertAll
    ((s.debtLedger.select (isVoucherDebtOf x)).map fun charge => debtRefundReversal x charge.2)

/-- A cancel that is not refused. -/
structure Accords (methods : Methods) (s : Store) (currency : Currency) (x : Nat) (sale : Transaction) (legs : List Leg)
    (sellRate : Rate) (tender : Option ℚ) (rows : List Payment) : Prop where
  some : hasCash (saleTotals s x sale) (resolveStampedExchangeRate sellRate tender) = true ∨ legs = []
  fits : reconcileLegs legs [] (cash s x sale) sellRate tender = .ok ()
  posting : gather (drawerRow methods s.transactions.nextId fun leg => -|leg.amount|)
    (payoutLegs currency (saleTotals s x sale) (resolveStampedExchangeRate sellRate tender) legs) = .ok rows

/-- The cash part is worth the same at both rates, is not below zero by more than the tolerances, and is none
    where no drawer took anything. -/
structure CashStands (s : Store) (currency : Currency) (x : Nat) (sale : Transaction) (cancelRate : ℚ) : Prop where
  sameWorth : otherPart currency (chargedOn s.debtLedger x) = 0 ∨ cancelRate = sale.exchangeRate
  covered : -(legReconciliationEpsilonUsd + voucherEpsilonUsd) ≤ usdEquivalent (cash s x sale) cancelRate
  account : NoDrawer s.payments x → usdEquivalent (cash s x sale) cancelRate ≤ voucherEpsilonUsd

section
variable {methods : Methods} {s s' : Store} {legs : List Leg} {sellRate : Rate} {tender : Option ℚ} {rows : List Payment} {rate : ℚ}
variable {voucher : VoucherEntity} {v w x : Nat} {sale : Transaction} {currency : Currency}

theorem findSaleTotals_eq (recorded : Recorded s v currency x sale) : findSaleTotals s v = saleTotals s x sale := by
  have listed : (x, sale) ∈ s.transactions.select (isSaleOf v) := Table.mem_select.mpr ⟨recorded.found, recorded.isSale⟩
  unfold findSaleTotals
  rcases first : (s.transactions.select (isSaleOf v)).head? with _ | ⟨x', sale'⟩
  · rw [List.head?_eq_none_iff.mp first] at listed
    cases listed
  · obtain ⟨there, isSale⟩ := Table.mem_select.mp (List.mem_of_mem_head? first)
    have same := recorded.only x' sale' there isSale
    subst same
    rw [recorded.found] at there
    cases there
    dsimp only
    rw [Table.sum_select s.debtLedger (isVoucherDebtOf x') (·.amount)]
    rfl

theorem cancel_ok (sound : Sound s) (done : cancelWithRefund methods s v legs sellRate tender = .ok s') :
    ∃ voucher x sale rows, s.vouchers.get v = some voucher ∧ voucher.status = .pending ∧ SaleStands s v voucher x sale ∧
      Accords methods s voucher.currencyCode x sale (liveLegs legs) sellRate tender rows ∧
      s' = cancelled s v x sale (stampedRate sellRate tender) rows := by
  unfold cancelWithRefund at done
  split at done
  · cases done
  · rcases inV : s.vouchers.get v with _ | voucher
    · rw [inV] at done
      cases done
    · obtain ⟨x, sale, stands⟩ := sound.stands v voucher inV
      rw [inV, findSaleTotals_eq stands.recorded] at done
      dsimp only [saleTotals, refundSale] at done
      split_ifs at done with gone noCash
      obtain ⟨⟨⟩, fits, rest⟩ := bind_ok done
      obtain ⟨rows, posting, rfl⟩ := map_ok rest
      refine ⟨voucher, x, sale, rows, rfl, not_not.mp gone, stands, ⟨?_, fits, posting⟩, rfl⟩
      by_contra neither
      push Not at neither
      exact noCash ⟨by simpa [saleTotals] using neither.1, neither.2⟩

theorem hasCash_iff : hasCash (saleTotals s x sale) (resolveStampedExchangeRate sellRate tender) = true ↔
    voucherEpsilonUsd < usdEquivalent (cash s x sale) (stampedRate sellRate tender) :=
  decide_eq_true_iff

/-- Without legs the cash part itself is paid, in the voucher's currency. -/
theorem sum_payoutLegs_none {totals : VoucherSaleTotals} {stamped : Rate} (some' : hasCash totals stamped = true) :
    sumLegsByCurrency (payoutLegs currency totals stamped []) = amountIn currency |inCurrency currency totals.cash stamped.value| := by
  unfold payoutLegs
  rw [if_neg (not_not.mpr rfl), if_pos some']
  cases currency
  · exact add_zero _
  · exact add_zero _

/-- Whichever legs are paid out, they are near what the books say. -/
theorem Accords.near (accords : Accords methods s currency x sale legs sellRate tender rows)
    (covered : -(legReconciliationEpsilonUsd + voucherEpsilonUsd) ≤ usdEquivalent (cash s x sale) (stampedRate sellRate tender)) :
    |usdEquivalent (sumLegsByCurrency
        (payoutLegs currency (saleTotals s x sale) (resolveStampedExchangeRate sellRate tender) legs)) (stampedRate sellRate tender) -
      usdEquivalent (cash s x sale) (stampedRate sellRate tender)| ≤ legReconciliationEpsilonUsd + voucherEpsilonUsd := by
  have positive : 0 < stampedRate sellRate tender := (resolveStampedExchangeRate sellRate tender).positive
  have leg : (0 : ℚ) ≤ legReconciliationEpsilonUsd := by norm_num [legReconciliationEpsilonUsd]
  have half : (0 : ℚ) ≤ voucherEpsilonUsd := by norm_num [voucherEpsilonUsd]
  by_cases given : legs = []
  · subst given
    by_cases some' : hasCash (saleTotals s x sale) (resolveStampedExchangeRate sellRate tender) = true
    · have more := half.trans_lt (hasCash_iff.mp some')
      have nonneg : 0 ≤ inCurrency currency (cash s x sale) (stampedRate sellRate tender) := by
        rw [inCurrency_eq positive]
        exact mul_nonneg (dollarIn_pos positive).le more.le
      rw [sum_payoutLegs_none some', show (saleTotals s x sale).cash = cash s x sale from rfl]
      change |usdEquivalent (amountIn currency |inCurrency currency (cash s x sale) (stampedRate sellRate tender)|) _ - _| ≤ _
      rw [abs_of_nonneg nonneg, usdEquivalent_told positive, sub_self, abs_zero]
      linarith
    · have less := not_lt.mp (mt hasCash_iff.mpr some')
      have nothing : usdEquivalent (sumLegsByCurrency []) (stampedRate sellRate tender) = 0 := by
        simp [sumLegsByCurrency, usdEquivalent]
      unfold payoutLegs
      rw [if_neg (not_not.mpr rfl), if_neg some', nothing, zero_sub, abs_neg, abs_le]
      exact ⟨covered, by linarith⟩
  · unfold payoutLegs
    rw [if_pos given]
    have near := reconcileLegs_near given accords.fits
    rw [show sumLegsByCurrency [] = 0 from rfl, sub_zero] at near
    exact near.trans (le_add_of_nonneg_right half)

/-- Between the sale and the cancel, the cash part keeps its worth in the voucher's currency. -/
theorem CashStands.same_worth (stands : CashStands s currency x sale rate) (recorded : Recorded s v currency x sale) :
    inCurrency currency (cash s x sale) rate = inCurrency currency (cash s x sale) sale.exchangeRate := by
  rcases stands.sameWorth with own | sameRate
  · obtain ⟨price, inOwn⟩ := recorded.price
    apply inCurrency_any_rate
    rw [cash, otherPart_sub, inOwn, otherPart_own, own, sub_zero]
  · rw [sameRate]

/-- What the books say, the drawers took in, but for the tolerance of the sale's legs. -/
theorem cash_near (recorded : Recorded s v currency x sale) :
    |inCurrency currency (cash s x sale) sale.exchangeRate - inCurrency currency (paidOn s.payments x) sale.exchangeRate| ≤
      dollarIn currency sale.exchangeRate * legReconciliationEpsilonUsd := by
  have dollar : 0 < dollarIn currency sale.exchangeRate := dollarIn_pos recorded.positive
  have near := recorded.near
  rw [inCurrency_eq recorded.positive, inCurrency_eq recorded.positive, ← mul_sub, abs_mul, abs_of_pos dollar]
  apply mul_le_mul_of_nonneg_left _ dollar.le
  have same : usdEquivalent (paidOn s.payments x) sale.exchangeRate - usdEquivalent (cash s x sale) sale.exchangeRate =
      usdEquivalent (paidOn s.payments x + chargedOn s.debtLedger x) sale.exchangeRate -
        usdEquivalent sale.amount sale.exchangeRate := by
    rw [cash, usdEquivalent_sub, usdEquivalent_add]
    ring
  rw [abs_sub_comm, same]
  exact near

theorem reversals_own {charges : List (Nat × DebtRow)} : ∀ row ∈ charges.map fun charge => debtRefundReversal x charge.2,
    row.transactionType = .refundReversal ∧ row.transactionId = some x := by
  intro row member
  obtain ⟨charge, -, rfl⟩ := List.mem_map.mp member
  exact ⟨rfl, rfl⟩

theorem cancelled_keeps (own : ∀ row ∈ rows, row.transactionId = s.transactions.nextId) (found : s.transactions.get x = some sale)
    (ofOther : sale.sourceId = some v) (other : v ≠ w) : Keeps s (cancelled s v x sale rate rows) w := by
  have recorded : Keeps s { s with transactions := (cancelled s v x sale rate rows).transactions } w :=
    Keeps.insertTransaction fun same => other (Option.some.inj same)
  have apart : ∀ y row, (cancelled s v x sale rate rows).transactions.get y = some row → row.sourceId = some w →
      y ≠ s.transactions.nextId ∧ some x ≠ some y := by
    intro y row there source
    rcases Table.get_insert there with old | ⟨-, rfl⟩
    · refine ⟨(Table.get_lt old).ne, ?_⟩
      intro same
      cases same
      rw [found] at old
      cases old
      exact other (Option.some.inj (ofOther.symm.trans source))
    · exact absurd (Option.some.inj source) other
  have paid : Keeps { s with transactions := (cancelled s v x sale rate rows).transactions }
      { s with transactions := (cancelled s v x sale rate rows).transactions, payments := s.payments.insertAll rows } w :=
    Keeps.insertPayments own fun y row there source => (apart y row there source).1
  refine (recorded.trans paid).trans (Keeps.insertDebts (fun row member => (reversals_own row member).2) ?_ _)
  exact fun y row there source => (apart y row there source).2

theorem cancelled_deposits (deposits : Deposits s) (found : s.vouchers.get v = some voucher) (pending : voucher.status = .pending)
    (stands : SaleStands s v voucher x sale) : Deposits (cancelled s v x sale rate rows) := by
  obtain ⟨isSale, -⟩ := sale_source stands.recorded.isSale
  have recorded : Deposits { s with transactions := (cancelled s v x sale rate rows).transactions } :=
    deposits.insertTransaction rfl (nomatch ·)
  have reversed : Deposits { s with
      transactions := (cancelled s v x sale rate rows).transactions
      debtLedger := (cancelled s v x sale rate rows).debtLedger } := by
    refine recorded.insertDebts (Table.get_insert_of_get stands.recorded.found) (by rw [isSale]; exact (nomatch ·))
      stands.recorded.unreversed ?_
    intro row member
    obtain ⟨isReversal, inside⟩ := reversals_own row member
    exact ⟨by rw [isReversal]; exact (nomatch ·), inside⟩
  have flipped : Deposits { s with
      vouchers := (cancelled s v x sale rate rows).vouchers
      transactions := (cancelled s v x sale rate rows).transactions
      debtLedger := (cancelled s v x sale rate rows).debtLedger } :=
    reversed.cancel found pending
  obtain ⟨codes, noted, right, below, charges, unreversed, reversed⟩ := flipped
  exact ⟨codes, noted, fun v a there => (right v a there).same rfl, below, charges, unreversed, reversed⟩

theorem cancelled_paid (own : ∀ row ∈ rows, row.transactionId = s.transactions.nextId) (found : s.transactions.get x = some sale) :
    paidOn (cancelled s v x sale rate rows).payments x = paidOn s.payments x :=
  paidOn_insertAll_other own (Table.get_lt found).ne

theorem cancelled_recorded (own : ∀ row ∈ rows, row.transactionId = s.transactions.nextId) (recorded : Recorded s v currency x sale) :
    Recorded (cancelled s v x sale rate rows) v currency x sale := by
  have charged : chargedOn (cancelled s v x sale rate rows).debtLedger x = chargedOn s.debtLedger x := by
    apply chargedOn_insertAll
    intro row member
    simp [isVoucherDebtOf, (reversals_own row member).1]
  refine ⟨Table.get_insert_of_get recorded.found, recorded.isSale, ?_, recorded.positive, recorded.price, ?_, recorded.unreversed⟩
  · intro x' sale' there isSale
    rcases Table.get_insert there with old | ⟨-, rfl⟩
    · exact recorded.only x' sale' old isSale
    · cases (sale_source isSale).1
  · rw [cancelled_paid own recorded.found, charged]
    exact recorded.near

theorem sum_out (legs : List Leg) :
    (legs.map fun leg => amountIn leg.currencyCode (-|leg.amount|)).sum = -sumLegsByCurrency legs := by
  unfold sumLegsByCurrency
  rw [List.sum_neg, List.map_map]
  congr 1
  apply List.map_congr_left
  exact fun leg _ => amountIn_neg leg.currencyCode |leg.amount|

/-- Where no drawer took anything, none pays. -/
theorem Accords.noDrawer (accords : Accords methods s currency x sale legs sellRate tender rows)
    (less : usdEquivalent (cash s x sale) (stampedRate sellRate tender) ≤ voucherEpsilonUsd) : rows = [] := by
  have noCash : ¬hasCash (saleTotals s x sale) (resolveStampedExchangeRate sellRate tender) = true :=
    fun some' => absurd (hasCash_iff.mp some') (not_lt.mpr less)
  have posting := accords.posting
  rw [accords.some.resolve_left noCash] at posting
  unfold payoutLegs at posting
  rw [if_neg (not_not.mpr rfl), if_neg noCash] at posting
  exact (Except.ok.inj posting).symm

theorem cancelled_settled (sound : Sound s) (stands : SaleStands s v voucher x sale) (pending : voucher.status = .pending)
    (accords : Accords methods s voucher.currencyCode x sale legs sellRate tender rows)
    (cashStands : CashStands s voucher.currencyCode x sale (stampedRate sellRate tender)) :
    ∃ cancel, Settled (cancelled s v x sale (stampedRate sellRate tender) rows) v voucher.currencyCode x sale.exchangeRate
      s.transactions.nextId cancel := by
  have positive : 0 < stampedRate sellRate tender := (resolveStampedExchangeRate sellRate tender).positive
  have open' : voucher.status ≠ .cancelled := by
    rw [pending]
    exact (nomatch ·)
  obtain ⟨own, sums⟩ := drawerRows accords.posting
  have fresh : NoDrawer s.payments s.transactions.nextId := fun p row there => (sound.below p row there).ne
  refine ⟨_, Table.get_insert_self _ _, by simp [isCancelOf], ?_, ?_, ?_, ?_⟩
  · intro c' cancel' there isCancel
    rcases Table.get_insert there with old | ⟨last, -⟩
    · rw [stands.uncancelled open' c' cancel' old] at isCancel
      cases isCancel
    · exact last
  · intro clientId
    apply owedOn_reversed
    intro d row there
    constructor
    · intro isDebt
      simp only [isVoucherDebtOf, Bool.and_eq_true, decide_eq_true_iff] at isDebt
      exact isDebt.2
    · exact stands.charged open' d row there
  · have out : -paidOn (s.payments.insertAll rows) s.transactions.nextId = sumLegsByCurrency
        (payoutLegs voucher.currencyCode (saleTotals s x sale) (resolveStampedExchangeRate sellRate tender) legs) := by
      rw [paidOn_insertAll_own own fresh, sums, sum_out, neg_neg]
    have dollar : 0 < dollarIn voucher.currencyCode (stampedRate sellRate tender) := dollarIn_pos positive
    have near : |inCurrency voucher.currencyCode (-paidOn (s.payments.insertAll rows) s.transactions.nextId) (stampedRate sellRate tender) -
        inCurrency voucher.currencyCode (cash s x sale) (stampedRate sellRate tender)| ≤
          dollarIn voucher.currencyCode (stampedRate sellRate tender) * (legReconciliationEpsilonUsd + voucherEpsilonUsd) := by
      rw [out, inCurrency_eq positive, inCurrency_eq positive, ← mul_sub, abs_mul, abs_of_pos dollar]
      exact mul_le_mul_of_nonneg_left (accords.near cashStands.covered) dollar.le
    rw [cancelled_paid own stands.recorded.found, tolerance, add_comm]
    refine (abs_sub_le _ (inCurrency voucher.currencyCode (cash s x sale) (stampedRate sellRate tender)) _).trans (add_le_add near ?_)
    rw [cashStands.same_worth stands.recorded]
    exact cash_near stands.recorded
  · intro none'
    have none := (noDrawer_insertAll_other own (Table.get_lt stands.recorded.found).ne).mp none'
    rw [accords.noDrawer (cashStands.account none)]
    exact fresh

theorem cancel_sound (sound : Sound s)
    (cashStands : ∀ voucher, s.vouchers.get v = some voucher → voucher.status = .pending →
      ∀ sale ∈ s.transactions.select (isSaleOf v), CashStands s voucher.currencyCode sale.1 sale.2 (stampedRate sellRate tender))
    (done : cancelWithRefund methods s v legs sellRate tender = .ok s') : Sound s' := by
  obtain ⟨voucher, x, sale, rows, found, pending, stands, accords, rfl⟩ := cancel_ok sound done
  have own := (drawerRows accords.posting).1
  have source := (sale_source stands.recorded.isSale).2
  refine ⟨cancelled_deposits sound.deposits found pending stands, ?_, ?_, ?_, ?_⟩
  · intro w a there
    rcases get_changed found there with ⟨rfl, rfl⟩ | ⟨other, inW⟩
    · refine ⟨x, sale, cancelled_recorded own stands.recorded, fun still => absurd rfl still, fun still => absurd rfl still, fun _ => ?_⟩
      obtain ⟨cancel, settled⟩ := cancelled_settled sound stands pending accords
        (cashStands voucher found pending (x, sale) (Table.mem_select.mpr ⟨stands.recorded.found, stands.recorded.isSale⟩))
      exact ⟨_, cancel, settled⟩
    · obtain ⟨y, other', standsOther⟩ := sound.stands w a inW
      exact ⟨y, other', standsOther.keep (cancelled_keeps own stands.recorded.found source other.symm) rfl Iff.rfl⟩
  · intro w a there
    rcases get_changed found there with ⟨rfl, rfl⟩ | ⟨-, inW⟩
    · exact sound.worths w voucher found
    · exact sound.worths w a inW
  · intro y row there w sourceOf
    dsimp only [cancelled]
    rw [Table.nextId_update]
    rcases Table.get_insert there with old | ⟨-, rfl⟩
    · exact sound.sources y row old w sourceOf
    · cases sourceOf
      exact Table.get_lt found
  · intro p row there
    dsimp only [cancelled]
    rw [Table.nextId_insert]
    rcases Table.get_insertAll there with old | ⟨new, -⟩
    · exact (sound.below p row old).trans (Nat.lt_succ_self _)
    · rw [own row new]
      exact Nat.lt_succ_self _

end

/-! Runs. -/

/-- Sales whose legs pay in, and cancels whose cash part stands as it was sold. -/
def Admitted (s : Store) : Action → Prop
  | .sellVoucher _ legs _ _ => PaysIn legs
  | .cancelWithRefund v _ sellRate tender => ∀ voucher, s.vouchers.get v = some voucher → voucher.status = .pending →
      ∀ sale ∈ s.transactions.select (isSaleOf v), CashStands s voucher.currencyCode sale.1 sale.2 (stampedRate sellRate tender)
  | .charge .. => True
  | .reverseTransaction _ => True

structure ValueOnce (s : Store) : Prop where
  none : ∀ v voucher, s.vouchers.get v = some voucher → voucher.status ≠ .redeemed → standing s voucher.code = []
  one : ∀ v voucher, s.vouchers.get v = some voucher → voucher.status = .redeemed →
    ∃ d row, standing s voucher.code = [(d, row)] ∧ row.amount = -faceValue voucher ∧ row.clientId = voucher.clientId
  reversed : ∀ x row, s.transactions.get x = some row → row.isReversed = true → ∀ clientId, owedOn s.debtLedger clientId x = 0
  settled : ∀ v voucher, s.vouchers.get v = some voucher → voucher.status = .cancelled → ∃ x sale c cancel,
    Recorded s v voucher.currencyCode x sale ∧ Settled s v voucher.currencyCode x sale.exchangeRate c cancel

theorem deposit_amount {voucher : VoucherEntity} (positive : 0 < voucher.amount) (transactionId : Option Nat) :
    (deposit voucher transactionId).amount = -faceValue voucher := by
  unfold deposit faceValue
  rcases voucher.currencyCode with _ | _
  · simp [amountIn, abs_of_pos positive]
  · simp [amountIn, abs_of_pos positive]

theorem sound_empty : Sound {} := by
  refine ⟨⟨?_, ?_, ?_, ?_, ?_, ?_, ?_⟩, ?_, ?_, ?_, ?_⟩
  all_goals
    intro id
    intros
    simp_all

theorem valueOnce_of_sound {s : Store} (sound : Sound s) : ValueOnce s := by
  refine ⟨?_, ?_, sound.deposits.reversed, ?_⟩
  · exact fun v voucher inV => (sound.deposits.right v voucher inV).none
  · intro v voucher inV redeemed
    obtain ⟨d, only⟩ := (sound.deposits.right v voucher inV).one redeemed
    exact ⟨d, _, only, deposit_amount (sound.worths v voucher inV) _, rfl⟩
  · intro v voucher inV cancelled
    obtain ⟨x, sale, stands⟩ := sound.stands v voucher inV
    obtain ⟨c, cancel, settled⟩ := stands.settled cancelled
    exact ⟨x, sale, c, cancel, stands.recorded, settled⟩

/-- Whatever is done with vouchers, their value is there once. -/
theorem value_once (methods : Methods) (actions : List Action) (admitted : Meets (exec methods) Admitted {} actions) :
    ValueOnce (run (exec methods) {} actions) := by
  have keeps : ∀ s action, Sound s → Admitted s action → Sound (exec methods s action) := by
    intro s action sound admitted
    cases action with
    | sellVoucher data legs sellRate tender => exact leaves_invariant sound fun s' done => sell_sound sound admitted done
    | cancelWithRefund v legs sellRate tender => exact leaves_invariant sound fun s' done => cancel_sound sound admitted done
    | charge codes inSession day => exact leaves_invariant sound fun s' done => sound.charge done
    | reverseTransaction id => exact leaves_invariant sound fun s' done => sound.reverse done
  exact valueOnce_of_sound (run_invariant keeps sound_empty admitted)

def seededMethods : Methods where
  drawerName
    | .omt => "OMT_App"
    | .whish => "Whish_App"
    | .binance => "Binance"
    | _ => "General"
  affectsDrawer
    | .cash | .omt | .whish | .binance => true
    | _ => false

theorem hundredDollars_pos : (0 : ℚ) < 100 := by norm_num

theorem ninetyThousand_pos : (0 : ℚ) < 90000 := by norm_num

def soldHalfOnAccount : Action :=
  .sellVoucher
    { code := "AB12", clientId := 7, clientPhone := some "70123456", amount := 100, currencyCode := .usd, discountAmount := some 4,
      positive := hundredDollars_pos }
    [{ method := .cash, currencyCode := .lbp, amount := 5400000 }, { method := .customerAccount, currencyCode := .usd, amount := 40 },
      { method := .cash, currencyCode := .usd, amount := 4, isOut := true }]
    ⟨90000, ninetyThousand_pos⟩ none

def redeemedAndReversed : List Action :=
  [soldHalfOnAccount, .charge ["AB12"] false 10, .reverseTransaction 1]

def cancelledLater : Action :=
  .cancelWithRefund 0 [] ⟨100000, by norm_num⟩ none

/-- Sold half on account, redeemed, reversed and cancelled at another rate. -/
theorem redeemed_reversed_cancelled :
    ValueOnce (run (exec seededMethods) {} (redeemedAndReversed ++ [cancelledLater])) ∧
      paidOn (run (exec seededMethods) {} (redeemedAndReversed ++ [cancelledLater])).payments 2 = (-56, 0) := by
  have found : (run (exec seededMethods) {} redeemedAndReversed).vouchers.get 0 =
      some { code := "AB12", clientId := 7, amount := 100, currencyCode := .usd, expiryDate := none } := by
    decide +kernel
  have sales : (run (exec seededMethods) {} redeemedAndReversed).transactions.select (isSaleOf 0) =
      [(0, { type := .voucherSale, sourceId := some 0, amount := (96, 0), exchangeRate := 90000 })] := by
    decide +kernel
  have charged : chargedOn (run (exec seededMethods) {} redeemedAndReversed).debtLedger 0 = (40, 0) := by
    decide +kernel
  have drawer : (run (exec seededMethods) {} redeemedAndReversed).payments.get 0 =
      some { transactionId := 0, method := .cash, drawerName := "General", currencyCode := .lbp, amount := 5400000 } := by
    decide +kernel
  refine ⟨value_once seededMethods _ (meets_append.mpr ⟨⟨?_, trivial, trivial, trivial⟩, ?_, trivial⟩), ?_⟩
  · exact Or.inr ⟨{ method := .cash, currencyCode := .lbp, amount := 5400000 }, by decide +kernel, rfl⟩
  · intro voucher inV _ sale listed
    rw [found] at inV
    cases inV
    rw [sales, List.mem_singleton] at listed
    subst listed
    refine ⟨Or.inl ?_, ?_, ?_⟩
    · rw [charged]
      rfl
    · rw [cash, charged]
      decide +kernel
    · exact fun none => absurd rfl (none 0 _ drawer)
  · decide +kernel

def soldOnAccount : Action :=
  .sellVoucher { code := "AB12", clientId := 7, clientPhone := some "70123456", amount := 100, currencyCode := .usd, positive := hundredDollars_pos }
    [{ method := .customerAccount, currencyCode := .lbp, amount := 9000000 }] ⟨90000, ninetyThousand_pos⟩ none

/-- A dollar voucher wholly on account in lira, cancelled once the lira fell, pays ten dollars. -/
theorem account_pays_cash : ¬ValueOnce (run (exec seededMethods) {} [soldOnAccount, cancelledLater]) := by
  intro once
  have found : (run (exec seededMethods) {} [soldOnAccount, cancelledLater]).vouchers.get 0 =
      some { code := "AB12", clientId := 7, amount := 100, currencyCode := .usd, expiryDate := none, status := .cancelled } := by
    decide +kernel
  have sales : (run (exec seededMethods) {} [soldOnAccount, cancelledLater]).transactions.select (isSaleOf 0) =
      [(0, { type := .voucherSale, sourceId := some 0, amount := (100, 0), exchangeRate := 90000 })] := by
    decide +kernel
  have cancels : (run (exec seededMethods) {} [soldOnAccount, cancelledLater]).transactions.select (isCancelOf 0) =
      [(1, { type := .voucherCancel, sourceId := some 0, amount := (100, 0), exchangeRate := 100000 })] := by
    decide +kernel
  have taken : paidOn (run (exec seededMethods) {} [soldOnAccount, cancelledLater]).payments 0 = (0, 0) := by
    decide +kernel
  have paidOut : paidOn (run (exec seededMethods) {} [soldOnAccount, cancelledLater]).payments 1 = (-10, 0) := by
    decide +kernel
  obtain ⟨x, sale, c, cancel, recorded, settled⟩ := once.settled 0 _ found rfl
  have isSale := Table.mem_select.mpr ⟨recorded.found, recorded.isSale⟩
  have isCancel := Table.mem_select.mpr ⟨settled.found, settled.isCancel⟩
  rw [sales, List.mem_singleton] at isSale
  rw [cancels, List.mem_singleton] at isCancel
  cases isSale
  cases isCancel
  have near := settled.paidOut
  rw [taken, paidOut] at near
  revert near
  decide +kernel

end Liratek.Voucher.VoucherRuns
