import Liratek.Basket.ReturnedOnce

/-! A basket given back as a whole nets to nothing after any item refunds of whole amounts, as long as no refund that took
something was undone. -/

namespace Liratek.Basket.BasketClosed
open Lib Lib.Calls Lib.Rounding Lib.Runs Members MemberOwed ItemRefund AccountFirst RefundLegs BasketReversal ReturnedOnce
open Checkout (currencyCode)

/-! What the drawers and the account hold of a basket. -/

/-- A refund of the basket, or the undo of one. -/
def ofBasket (s : Store) (sessionId : Nat) (transactionId : Option Nat) : Bool :=
  ((transactionId.bind s.transactions.get).bind (·.metadata)).any fun metadata => metadata.sessionId = some sessionId

/-- What the basket moved in the drawers. -/
def basketMoney (s : Store) (sessionId : Nat) : Amounts :=
  fun currency => s.payments.total fun p =>
    if (p.sessionId = some sessionId || ofBasket s sessionId p.transactionId) && p.currencyCode = currencyCode currency then
      p.amount
    else 0

/-- The basket's rows on the account. -/
def basketAccount (s : Store) (sessionId : Nat) : Amounts :=
  fun currency => s.debts.total fun row => if row.sessionId = some sessionId then row.amount currency else 0

def itemRefunds (s : Store) (sessionId : Nat) : ℚ :=
  s.links.total fun link => if link.sessionId = sessionId ∧ link.transactionType = sessionItemRefundLinkType then 1 else 0

section
variable {s : Store} {sessionId : Nat} {c : CoverageCurrency}

/-! The pooled money, given back. -/

def pooledIn (s : Store) (sessionId : Nat) (c : CoverageCurrency) : List (Nat × Payment) :=
  (pooledPayments s sessionId).filter fun p => p.2.currencyCode = currencyCode c

theorem unitOf_currency (c : CoverageCurrency) : unitOf (currencyCode c) = unit c := by
  cases c with
  | usd => rfl
  | lbp => exact (div_one 1).symm

theorem whole_abs_zero {x : ℚ} (whole : WholeIn c x) (small : |x| < unit c) : x = 0 := by
  have wholeAbs : WholeIn c |x| := by
    rcases abs_choice x with same | opposite
    · rwa [same]
    · rw [opposite]
      exact whole.neg
  exact abs_eq_zero.mp (dropped_zero (abs_nonneg x) wholeAbs small)

/-- A leg goes back but for what went back already. -/
theorem reversalPayment_amount {p : Payment} (inCurrency : p.currencyCode = currencyCode c) (whole : WholeIn c p.amount)
    {reduceBy : ℚ} (nonneg : 0 ≤ reduceBy) (reduceWhole : WholeIn c reduceBy) :
    ((reversalPayment reduceBy p).map (·.amount)).getD 0 = reduceBy - p.amount := by
  have amount : reversedAmount reduceBy p = reduceBy - p.amount := by
    rw [reversedAmount, inCurrency, unitOf_currency, roundToUnit_whole (whole.sub reduceWhole)]
    split_ifs with some
    · exact neg_sub _ _
    · rw [le_antisymm (not_lt.mp some) nonneg, zero_sub]
  rw [reversalPayment, amount, inCurrency, unitOf_currency]
  split_ifs with small
  · have nothing := whole_abs_zero (reduceWhole.sub whole) (small.trans (half_lt_self (unit_pos c)))
    exact nothing.symm
  · rfl

/-- Each leg finds its own share. -/
theorem lookup_shares {ids : List Nat} (distinct : ids.Nodup) {shares : List ℚ} (length : shares.length = ids.length) :
    ids.map (fun id => ((ids.zip shares).lookup id).getD 0) = shares := by
  induction ids generalizing shares with
  | nil => exact (List.length_eq_zero_iff.mp length).symm
  | cons id rest ih =>
    rcases shares with _ | ⟨share, others⟩
    · cases length
    · obtain ⟨fresh, distinct⟩ := List.nodup_cons.mp distinct
      rw [List.zip_cons_cons, List.map_cons, List.lookup_cons_self, Option.getD_some]
      congr 1
      refine (List.map_congr_left fun other member => ?_).trans (ih distinct (Nat.succ.inj length))
      have ne : other ≠ id := fun same => fresh (same ▸ member)
      rw [List.lookup_cons, beq_eq_false_iff_ne.mpr ne]

/-- What went back already of one currency, shared out over its legs. -/
def reduceByIn (s : Store) (sessionId : Nat) (c : CoverageCurrency) : List (Nat × ℚ) :=
  let group := positiveLegs s sessionId c
  let weights := group.map (·.2.amount)
  let already := min (priorPoolAttributed s sessionId c) weights.sum
  if already ≤ 0 then [] else (group.map (·.1)).zip (allocateExact already weights (unit c))

theorem reduceByForLeg_eq (s : Store) (sessionId : Nat) :
    reduceByForLeg s sessionId = reduceByIn s sessionId .usd ++ reduceByIn s sessionId .lbp := by
  unfold reduceByForLeg
  rw [List.flatMap_cons, List.flatMap_singleton]
  rfl

theorem reduceByIn_other {id : Nat} (other : id ∉ (positiveLegs s sessionId c).map (·.1)) :
    (reduceByIn s sessionId c).lookup id = none := by
  rw [List.lookup_eq_none_iff]
  rintro ⟨key, share⟩ member
  unfold reduceByIn at member
  dsimp only at member
  split_ifs at member
  · cases member
  · refine bne_iff_ne.mpr fun same => other ?_
    rw [same]
    exact (List.of_mem_zip member).1

/-- A leg is in one currency only. -/
theorem positiveLegs_apart {c' : CoverageCurrency} (apart : c ≠ c') {entry : Nat × Payment}
    (member : entry ∈ positiveLegs s sessionId c) : entry.1 ∉ (positiveLegs s sessionId c').map (·.1) := by
  intro listed
  obtain ⟨other, member', same⟩ := List.mem_map.mp listed
  obtain ⟨pooled, kept⟩ := List.mem_filter.mp member
  obtain ⟨pooled', kept'⟩ := List.mem_filter.mp member'
  have one : other = entry := List.inj_on_of_nodup_map (Table.select_nodup _ _) pooled' pooled same
  simp only [Bool.and_eq_true, decide_eq_true_eq] at kept kept'
  rw [one, kept.2] at kept'
  exact apart (currencyCode_inj kept'.2)

theorem reduceByForLeg_lookup {entry : Nat × Payment} (member : entry ∈ positiveLegs s sessionId c) :
    (reduceByForLeg s sessionId).lookup entry.1 = (reduceByIn s sessionId c).lookup entry.1 := by
  rw [reduceByForLeg_eq, List.lookup_append]
  cases c with
  | usd =>
    have apart : CoverageCurrency.usd ≠ .lbp := by decide
    rw [reduceByIn_other (positiveLegs_apart apart member), Option.or_none]
  | lbp =>
    have apart : CoverageCurrency.lbp ≠ .usd := by decide
    rw [reduceByIn_other (positiveLegs_apart apart member), Option.none_or]

/-- The pool gave back no more than it took. -/
structure PoolWithin (s : Store) (sessionId : Nat) : Prop where
  prior : InUnits (priorPoolAttributed s sessionId)
  le : ∀ c, priorPoolAttributed s sessionId c ≤ ((positiveLegs s sessionId c).map (·.2.amount)).sum

theorem reduceBy_sharedOut (within : PoolWithin s sessionId) (c : CoverageCurrency) :
    SharedOut c (priorPoolAttributed s sessionId c)
      ((positiveLegs s sessionId c).map fun entry => ((reduceByForLeg s sessionId).lookup entry.1).getD 0) := by
  have own : ((positiveLegs s sessionId c).map fun entry => ((reduceByForLeg s sessionId).lookup entry.1).getD 0) =
      ((positiveLegs s sessionId c).map (·.1)).map fun id => ((reduceByIn s sessionId c).lookup id).getD 0 := by
    rw [List.map_map]
    exact List.map_congr_left fun entry member => by rw [reduceByForLeg_lookup member]; rfl
  obtain ⟨nonneg, whole⟩ := within.prior c
  rw [own]
  unfold reduceByIn
  dsimp only
  rw [min_eq_left (within.le c)]
  split_ifs with none
  · have zeros : ∀ x ∈ ((positiveLegs s sessionId c).map (·.1)).map fun id =>
        (([] : List (Nat × ℚ)).lookup id).getD 0, x = 0 := fun x member => by
      obtain ⟨-, -, rfl⟩ := List.mem_map.mp member
      rfl
    exact ⟨(List.sum_eq_zero zeros).trans (le_antisymm none nonneg).symm, fun x member => (zeros x member).ge,
      fun x member => zeros x member ▸ whole_zero _⟩
  · have weights : ∀ w ∈ (positiveLegs s sessionId c).map (·.2.amount), 0 ≤ w := fun w member => by
      obtain ⟨entry, inside, rfl⟩ := List.mem_map.mp member
      have kept := (List.mem_filter.mp inside).2
      simp only [Bool.and_eq_true, decide_eq_true_eq] at kept
      exact kept.1.le
    rw [lookup_shares]
    · exact allocateExact_sharedOut whole nonneg weights ((not_le.mp none).trans_le (within.le c))
    · exact (Table.select_nodup _ _).sublist (List.filter_sublist.map _)
    · rw [length_allocateExact, List.length_map, List.length_map]

/-- The legs of one currency that were taken in or given out. -/
def pooledSum (s : Store) (sessionId : Nat) (c : CoverageCurrency) : ℚ :=
  ((pooledIn s sessionId c).map (·.2.amount)).sum

theorem sum_filterMap {α β : Type*} (items : List α) (f : α → Option β) (g : β → ℚ) :
    ((items.filterMap f).map g).sum = (items.map fun item => ((f item).map g).getD 0).sum := by
  induction items with
  | nil => rfl
  | cons item rest ih =>
    rw [List.map_cons, List.sum_cons, ← ih]
    rcases chosen : f item with _ | b
    · rw [List.filterMap_cons_none chosen]
      exact (zero_add _).symm
    · rw [List.filterMap_cons_some chosen]
      rfl

/-- What goes back already of a leg, before the whole basket does. -/
def reduceBy (s : Store) (sessionId : Nat) (entry : Nat × Payment) : ℚ :=
  if 0 < entry.2.amount then ((reduceByForLeg s sessionId).lookup entry.1).getD 0 else 0

theorem reduceBy_inUnits (within : PoolWithin s sessionId) {entry : Nat × Payment} (member : entry ∈ pooledIn s sessionId c) :
    0 ≤ reduceBy s sessionId entry ∧ WholeIn c (reduceBy s sessionId entry) := by
  unfold reduceBy
  split_ifs with positive
  · obtain ⟨pooled, inCurrency⟩ := List.mem_filter.mp member
    have isPositive : entry ∈ positiveLegs s sessionId c :=
      List.mem_filter.mpr ⟨pooled, by rw [decide_eq_true positive, Bool.true_and]; exact inCurrency⟩
    have shared := reduceBy_sharedOut within c
    have listed : ((reduceByForLeg s sessionId).lookup entry.1).getD 0 ∈
        (positiveLegs s sessionId c).map fun entry => ((reduceByForLeg s sessionId).lookup entry.1).getD 0 :=
      List.mem_map_of_mem isPositive
    exact ⟨shared.nonneg _ listed, shared.whole _ listed⟩
  · exact ⟨le_rfl, whole_zero _⟩

theorem sum_reduceBy (within : PoolWithin s sessionId) (c : CoverageCurrency) :
    ((pooledIn s sessionId c).map (reduceBy s sessionId)).sum = priorPoolAttributed s sessionId c := by
  have positive : (pooledIn s sessionId c).filter (fun entry => 0 < entry.2.amount) = positiveLegs s sessionId c := by
    rw [pooledIn, List.filter_filter]
    rfl
  rw [← (reduceBy_sharedOut within c).sum, ← positive, ← Table.sum_filter_ite]
  refine congrArg List.sum (List.map_congr_left fun entry _ => ?_)
  simp only [reduceBy, decide_eq_true_eq]

/-- Of each currency the whole basket gives back what it still holds. -/
theorem reverseSessionPooledPayments_money (recorded : Recorded s) (within : PoolWithin s sessionId) (c : CoverageCurrency) :
    basketMoney { s with payments := reverseSessionPooledPayments s sessionId } sessionId c =
      basketMoney s sessionId c - (pooledSum s sessionId c - priorPoolAttributed s sessionId c) := by
  have each (entry : Nat × Payment) (member : entry ∈ pooledPayments s sessionId) :
      (((reversalPayment (reduceBy s sessionId entry) entry.2).map fun p =>
        if (p.sessionId = some sessionId || ofBasket s sessionId p.transactionId) && p.currencyCode = currencyCode c then
          p.amount
        else 0).getD 0) =
      if decide (entry.2.currencyCode = currencyCode c) then reduceBy s sessionId entry - entry.2.amount else 0 := by
    have isPooled := (Table.mem_select.mp member).2
    rw [Bool.and_eq_true, decide_eq_true_eq] at isPooled
    split_ifs with inCurrency
    · have isIn : entry ∈ pooledIn s sessionId c := List.mem_filter.mpr ⟨member, inCurrency⟩
      have units := reduceBy_inUnits within isIn
      have whole := recorded.payments entry.1 entry.2 (Table.mem_select.mp member).1 c (of_decide_eq_true inCurrency)
      rw [← reversalPayment_amount (of_decide_eq_true inCurrency) whole units.1 units.2]
      unfold reversalPayment
      split_ifs
      · rfl
      · simp [isPooled.2, of_decide_eq_true inCurrency]
    · unfold reversalPayment
      split_ifs
      · rfl
      · simp [of_decide_eq_false (Bool.eq_false_of_not_eq_true inCurrency)]
  have parts : ((pooledIn s sessionId c).map fun entry => reduceBy s sessionId entry - entry.2.amount).sum =
      priorPoolAttributed s sessionId c - pooledSum s sessionId c := by
    rw [← sum_reduceBy within c]
    refine eq_sub_of_add_eq ?_
    rw [pooledSum, ← List.sum_map_add]
    exact congrArg List.sum (List.map_congr_left fun entry _ => sub_add_cancel _ _)
  have total : basketMoney { s with payments := reverseSessionPooledPayments s sessionId } sessionId c =
      basketMoney s sessionId c +
        (((pooledPayments s sessionId).filterMap fun entry => reversalPayment (reduceBy s sessionId entry) entry.2).map fun p =>
          if (p.sessionId = some sessionId || ofBasket s sessionId p.transactionId) && p.currencyCode = currencyCode c then
            p.amount
          else 0).sum :=
    Table.total_insertAll _ _ _
  rw [total, sum_filterMap, List.map_congr_left each, Table.sum_filter_ite]
  change _ + ((pooledIn s sessionId c).map fun entry => reduceBy s sessionId entry - entry.2.amount).sum = _
  rw [parts]
  ring

/-! The charge, cancelled. -/

theorem cancelCharges_sum (sessionId : Nat) {rows : List DebtRow} (nonneg : ∀ row ∈ rows, InUnits row.amount) {attributed : Amounts}
    (units : InUnits attributed) (le : ∀ c, attributed c ≤ (rows.map (·.amount c)).sum) (c : CoverageCurrency) :
    ((cancelCharges sessionId attributed rows).map (·.amount c)).sum = attributed c - (rows.map (·.amount c)).sum := by
  induction rows generalizing attributed with
  | nil =>
    have none : attributed c = 0 := le_antisymm (le c) (units c).1
    rw [none]
    exact (sub_zero 0).symm
  | cons row rest ih =>
    obtain ⟨here, others⟩ := List.forall_mem_cons.mp nonneg
    have taken (c : CoverageCurrency) : 0 ≤ attributed c - min (row.amount c) (attributed c) :=
      sub_nonneg.mpr (min_le_right _ _)
    have left : InUnits (attributed - fun c => min (row.amount c) (attributed c)) := fun c =>
      ⟨taken c, (units c).2.sub ((here c).2.min (units c).2)⟩
    have fits (c : CoverageCurrency) : (attributed - fun c => min (row.amount c) (attributed c)) c ≤
        (rest.map (·.amount c)).sum := by
      have restNonneg : 0 ≤ (rest.map (·.amount c)).sum := List.sum_nonneg fun x member => by
        obtain ⟨other, inside, rfl⟩ := List.mem_map.mp member
        exact (others other inside c).1
      have all := le c
      rw [List.map_cons, List.sum_cons] at all
      change attributed c - min (row.amount c) (attributed c) ≤ _
      rcases min_choice (row.amount c) (attributed c) with isRow | isAttributed
      · rw [isRow]
        linarith
      · rw [isAttributed, sub_self]
        exact restNonneg
    have charge : roundToUnit (max 0 (row.amount c - min (row.amount c) (attributed c))) (unit c) =
        row.amount c - min (row.amount c) (attributed c) := by
      rw [max_eq_right (sub_nonneg.mpr (min_le_left _ _))]
      exact roundToUnit_whole ((here c).2.sub ((here c).2.min (units c).2))
    have tail := ih others left fits
    have rest' : (attributed - fun c => min (row.amount c) (attributed c)) c =
      attributed c - min (row.amount c) (attributed c) := rfl
    rw [rest'] at tail
    rw [cancelCharges, List.map_cons, List.sum_cons, List.map_cons, List.sum_cons, tail]
    change -roundToUnit _ _ + _ = _
    rw [charge]
    ring

def depositSum (s : Store) (sessionId : Nat) (c : CoverageCurrency) : ℚ :=
  ((creditDepositRows s sessionId).map (·.2.amount c)).sum

/-- The refunds attributed to the account no more than its charges. -/
structure ChargeWithin (s : Store) (sessionId : Nat) : Prop where
  charges : ∀ entry ∈ sessionDebtRows s sessionId, InUnits entry.2.amount
  prior : InUnits (priorAccountAttributed s sessionId)
  le : ∀ c, priorAccountAttributed s sessionId c ≤ grossCharge s sessionId c

theorem cancelCharges_session (attributed : Amounts) (rows : List DebtRow) :
    ∀ row ∈ cancelCharges sessionId attributed rows, row.sessionId = some sessionId := by
  induction rows generalizing attributed with
  | nil => exact List.forall_mem_nil _
  | cons row rest ih => exact List.forall_mem_cons.mpr ⟨rfl, ih _⟩

theorem depositReversals_sum (s : Store) (sessionId : Nat) (c : CoverageCurrency) :
    (((creditDepositRows s sessionId).map fun row => reversalRow sessionId row.2 row.2.amount).map (·.amount c)).sum =
      -depositSum s sessionId c := by
  refine eq_neg_of_add_eq_zero_left ?_
  rw [depositSum, List.map_map, ← List.sum_map_add]
  refine List.sum_eq_zero fun x member => ?_
  obtain ⟨row, -, rfl⟩ := List.mem_map.mp member
  exact neg_add_cancel _

/-- The account's charges and deposits go, but for the part of the charges that the refunds took. -/
theorem cancelSessionDebt_account (within : ChargeWithin s sessionId) (c : CoverageCurrency) :
    basketAccount { s with debts := cancelSessionDebt s sessionId } sessionId c =
      basketAccount s sessionId c - (grossCharge s sessionId c - priorAccountAttributed s sessionId c) -
        depositSum s sessionId c := by
  have own : ∀ row ∈ cancelCharges sessionId (priorAccountAttributed s sessionId)
      ((sessionDebtRows s sessionId).map (·.2)) ++
        (creditDepositRows s sessionId).map fun row => reversalRow sessionId row.2 row.2.amount,
      (if row.sessionId = some sessionId then row.amount c else 0) = row.amount c := by
    intro row member
    refine if_pos ?_
    rcases List.mem_append.mp member with charge | deposit
    · exact cancelCharges_session _ _ row charge
    · obtain ⟨entry, -, rfl⟩ := List.mem_map.mp deposit
      rfl
  have charges (c : CoverageCurrency) : (((sessionDebtRows s sessionId).map (·.2)).map (·.amount c)).sum =
      grossCharge s sessionId c := by
    rw [List.map_map]
    rfl
  have cancelled := cancelCharges_sum sessionId (List.forall_mem_map.mpr within.charges) within.prior
    (fun c => (within.le c).trans_eq (charges c).symm) c
  have total : basketAccount { s with debts := cancelSessionDebt s sessionId } sessionId c = basketAccount s sessionId c +
      ((cancelCharges sessionId (priorAccountAttributed s sessionId) ((sessionDebtRows s sessionId).map (·.2)) ++
        (creditDepositRows s sessionId).map fun row => reversalRow sessionId row.2 row.2.amount).map fun row =>
          if row.sessionId = some sessionId then row.amount c else 0).sum :=
    Table.total_insertAll _ _ _
  rw [total, List.map_congr_left own, List.map_append, List.sum_append, cancelled, charges, depositReversals_sum]
  ring

/-! The start. -/

/-- A basket that was paid, of which nothing was given back yet. -/
structure PaidBasket (s : Store) (sessionId : Nat) : Prop where
  recorded : Recorded s
  noRefunds : NoItemRefunds s sessionId
  fresh : ∀ id transaction metadata, s.transactions.get id = some transaction → transaction.metadata = some metadata →
    metadata.sessionId ≠ some sessionId
  pooled : ∀ id p, s.payments.get id = some p → p.sessionId = some sessionId → p.transactionId = none
  paymentKeys : ∀ id p transactionId, s.payments.get id = some p → p.transactionId = some transactionId →
    transactionId < s.transactions.nextId
  debts : ∀ id row, s.debts.get id = some row → row.sessionId = some sessionId → row.transactionId = none ∧
    (row.transactionType = sessionDebtType ∧ (∀ c, 0 ≤ row.amount c) ∨ row.transactionType = creditDepositType)
  debtKeys : ∀ id row transactionId, s.debts.get id = some row → row.transactionId = some transactionId →
    transactionId < s.transactions.nextId

theorem PaidBasket.notOfBasket (paid : PaidBasket s sessionId) (transactionId : Option Nat) :
    ofBasket s sessionId transactionId = false := by
  unfold ofBasket
  rcases found : (transactionId.bind s.transactions.get).bind (·.metadata) with _ | metadata
  · rfl
  · obtain ⟨transaction, stored, isMetadata⟩ := Option.bind_eq_some_iff.mp found
    obtain ⟨id, -, stored⟩ := Option.bind_eq_some_iff.mp stored
    exact decide_eq_false (paid.fresh id transaction metadata stored isMetadata)

theorem PaidBasket.money (paid : PaidBasket s sessionId) (c : CoverageCurrency) :
    basketMoney s sessionId c = pooledSum s sessionId c := by
  rw [pooledSum, pooledIn, ← Table.sum_filter_ite]
  refine Eq.trans ?_ (Table.sum_select s.payments _ fun p =>
    if decide (p.currencyCode = currencyCode c) then p.amount else 0).symm
  refine Table.total_congr fun id p found => ?_
  rw [paid.notOfBasket, Bool.or_false]
  by_cases own : p.sessionId = some sessionId
  · rw [paid.pooled id p found own]
    simp [own]
  · simp [own]

theorem PaidBasket.account (paid : PaidBasket s sessionId) (c : CoverageCurrency) :
    basketAccount s sessionId c = grossCharge s sessionId c + depositSum s sessionId c := by
  have charges := Table.sum_select s.debts (fun row => row.sessionId = some sessionId && row.transactionId.isNone &&
    row.transactionType = sessionDebtType) fun row => row.amount c
  have deposits := Table.sum_select s.debts (fun row => row.sessionId = some sessionId && row.transactionId.isNone &&
    row.transactionType = creditDepositType) fun row => row.amount c
  have apart : sessionDebtType ≠ creditDepositType := by decide
  unfold grossCharge depositSum sessionDebtRows creditDepositRows
  rw [charges, deposits, ← Table.total_add]
  refine Table.total_congr fun id row found => ?_
  by_cases own : row.sessionId = some sessionId
  · obtain ⟨noTransaction, ⟨isCharge, -⟩ | isDeposit⟩ := paid.debts id row found own
    · simp [own, noTransaction, isCharge, apart]
    · simp [own, noTransaction, isDeposit, apart.symm]
  · simp [own]

/-! A transaction more. -/

section
variable {s' : Store} {transaction : Transaction}

theorem ofBasket_old (transactions : s'.transactions = s.transactions.insert transaction) {id : Nat}
    (old : id < s.transactions.nextId) : ofBasket s' sessionId (some id) = ofBasket s sessionId (some id) := by
  unfold ofBasket
  rw [transactions, Option.bind_some, Option.bind_some, Table.get_insert_of_ne _ _ old.ne]

theorem ofBasket_new (transactions : s'.transactions = s.transactions.insert transaction) {metadata : Metadata}
    (isMetadata : transaction.metadata = some metadata) :
    ofBasket s' sessionId (some s.transactions.nextId) = decide (metadata.sessionId = some sessionId) := by
  unfold ofBasket
  rw [transactions, Option.bind_some, Table.get_insert_self, Option.bind_some, isMetadata]
  rfl

/-- The payments of a new transaction move the basket's money when it is the basket's. -/
theorem basketMoney_insert (s' : Store) {transaction : Transaction} (keys : ∀ id p transactionId, s.payments.get id = some p → p.transactionId = some transactionId →
      transactionId < s.transactions.nextId)
    (transactions : s'.transactions = s.transactions.insert transaction) {metadata : Metadata}
    (isMetadata : transaction.metadata = some metadata) {rows : List Payment}
    (payments : s'.payments = s.payments.insertAll rows)
    (fresh : ∀ p ∈ rows, p.sessionId = none ∧ p.transactionId = some s.transactions.nextId) (c : CoverageCurrency) :
    basketMoney s' sessionId c = basketMoney s sessionId c +
      if metadata.sessionId = some sessionId then
        (rows.map fun p => if p.currencyCode = currencyCode c then p.amount else 0).sum
      else 0 := by
  have total : basketMoney s' sessionId c = (s.payments.total fun p =>
      if (p.sessionId = some sessionId || ofBasket s' sessionId p.transactionId) && p.currencyCode = currencyCode c then
        p.amount
      else 0) + (rows.map fun p =>
      if (p.sessionId = some sessionId || ofBasket s' sessionId p.transactionId) && p.currencyCode = currencyCode c then
        p.amount
      else 0).sum := by
    rw [basketMoney, payments]
    exact Table.total_insertAll _ _ _
  rw [total]
  congr 1
  · refine Table.total_congr fun id p found => ?_
    rcases names : p.transactionId with _ | transactionId
    · rfl
    · rw [ofBasket_old transactions (keys id p transactionId found names)]
  · split_ifs with own
    · refine congrArg List.sum (List.map_congr_left fun p member => ?_)
      obtain ⟨noSession, isNew⟩ := fresh p member
      rw [noSession, isNew, ofBasket_new transactions isMetadata, own]
      simp
    · refine List.sum_eq_zero fun x member => ?_
      obtain ⟨p, inside, rfl⟩ := List.mem_map.mp member
      obtain ⟨noSession, isNew⟩ := fresh p inside
      rw [noSession, isNew, ofBasket_new transactions isMetadata, decide_eq_false own]
      rfl

theorem basketAccount_insertAll {rows : List DebtRow} (debts : s'.debts = s.debts.insertAll rows) (c : CoverageCurrency) :
    basketAccount s' sessionId c = basketAccount s sessionId c +
      (rows.map fun row => if row.sessionId = some sessionId then row.amount c else 0).sum := by
  rw [basketAccount, debts]
  exact Table.total_insertAll _ _ _

/-- Rows of a transaction are none of the basket's pooled rows. -/
theorem pooledPayments_insertAll (s' : Store) {rows : List Payment} (payments : s'.payments = s.payments.insertAll rows)
    (owned : ∀ p ∈ rows, p.transactionId.isNone = false) : pooledPayments s' sessionId = pooledPayments s sessionId := by
  unfold pooledPayments
  rw [payments]
  exact Table.select_insertAll fun p member => by rw [owned p member, Bool.false_and]

theorem sessionDebtRows_insertAll (s' : Store) (sessionId : Nat) {rows : List DebtRow} (debts : s'.debts = s.debts.insertAll rows)
    (other : ∀ row ∈ rows, row.transactionId.isNone = false ∨ row.sessionId = none) :
    sessionDebtRows s' sessionId = sessionDebtRows s sessionId ∧ creditDepositRows s' sessionId = creditDepositRows s sessionId := by
  unfold sessionDebtRows creditDepositRows
  rw [debts]
  refine ⟨Table.select_insertAll fun row member => ?_, Table.select_insertAll fun row member => ?_⟩
  · rcases other row member with owned | noBasket
    · rw [owned, Bool.and_false, Bool.false_and]
    · rw [noBasket]
      rfl
  · rcases other row member with owned | noBasket
    · rw [owned, Bool.and_false, Bool.false_and]
    · rw [noBasket]
      rfl

end

/-! Rows by their transactions. -/

/-- The rows name transactions that exist. -/
structure Keyed (s : Store) (sessionId : Nat) : Prop where
  paymentKeys : ∀ id p transactionId, s.payments.get id = some p → p.transactionId = some transactionId →
    transactionId < s.transactions.nextId
  debtKeys : ∀ id row transactionId, s.debts.get id = some row → row.transactionId = some transactionId →
    transactionId < s.transactions.nextId
  /-- what a refund that took nothing, or an undo, wrote -/
  idle : ∀ transactionId transaction metadata, s.transactions.get transactionId = some transaction →
    transaction.metadata = some metadata → metadata.sessionId = some sessionId →
    metadata.accountAttributed = 0 → metadata.poolSplit = 0 →
      (∀ id p, s.payments.get id = some p → p.transactionId = some transactionId → p.amount = 0) ∧
        ∀ id row, s.debts.get id = some row → row.transactionId = some transactionId → row.amount = 0
  owned : ∀ id row transactionId, s.debts.get id = some row → row.sessionId = some sessionId →
    row.transactionId = some transactionId → ofBasket s sessionId (some transactionId) = true

/-- The rows of a new transaction. -/
theorem Keyed.insert (keyed : Keyed s sessionId) (s' : Store) {transaction : Transaction} {metadata : Metadata}
    {payments : List Payment} {rows : List DebtRow} (transactions : s'.transactions = s.transactions.insert transaction)
    (isMetadata : transaction.metadata = some metadata) (isPayments : s'.payments = s.payments.insertAll payments)
    (isDebts : s'.debts = s.debts.insertAll rows) (newPayments : ∀ p ∈ payments, p.transactionId = some s.transactions.nextId)
    (newRows : ∀ row ∈ rows, row.transactionId = some s.transactions.nextId)
    (ownRows : ∀ row ∈ rows, row.sessionId = some sessionId → metadata.sessionId = some sessionId)
    (nothing : metadata.sessionId = some sessionId → metadata.accountAttributed = 0 → metadata.poolSplit = 0 →
      (∀ p ∈ payments, p.amount = 0) ∧ ∀ row ∈ rows, row.amount = 0) : Keyed s' sessionId := by
  have next : s'.transactions.nextId = s.transactions.nextId + 1 := by rw [transactions, Table.nextId_insert]
  refine ⟨fun id p transactionId found names => ?_, fun id row transactionId found names => ?_,
    fun transactionId transaction' metadata' found isMetadata' own noAccount noPool => ?_,
    fun id row transactionId found own names => ?_⟩
  · rw [next]
    rw [isPayments] at found
    rcases Table.get_insertAll found with old | ⟨new, -⟩
    · exact Nat.lt_succ_of_lt (keyed.paymentKeys id p transactionId old names)
    · rw [← Option.some.inj ((newPayments p new).symm.trans names)]
      exact Nat.lt_succ_self _
  · rw [next]
    rw [isDebts] at found
    rcases Table.get_insertAll found with old | ⟨new, -⟩
    · exact Nat.lt_succ_of_lt (keyed.debtKeys id row transactionId old names)
    · rw [← Option.some.inj ((newRows row new).symm.trans names)]
      exact Nat.lt_succ_self _
  · rw [isPayments, isDebts]
    rw [transactions] at found
    rcases Table.get_insert found with old | ⟨rfl, rfl⟩
    · obtain ⟨noPayments, noRows⟩ := keyed.idle transactionId transaction' metadata' old isMetadata' own noAccount noPool
      have older := (Table.get_lt old).ne'
      refine ⟨fun id p there names => ?_, fun id row there names => ?_⟩
      · rcases Table.get_insertAll there with was | ⟨new, -⟩
        · exact noPayments id p was names
        · exact absurd (Option.some.inj ((newPayments p new).symm.trans names)) older
      · rcases Table.get_insertAll there with was | ⟨new, -⟩
        · exact noRows id row was names
        · exact absurd (Option.some.inj ((newRows row new).symm.trans names)) older
    · obtain rfl := Option.some.inj (isMetadata.symm.trans isMetadata')
      obtain ⟨noPayments, noRows⟩ := nothing own noAccount noPool
      refine ⟨fun id p there names => ?_, fun id row there names => ?_⟩
      · rcases Table.get_insertAll there with was | ⟨new, -⟩
        · exact absurd (keyed.paymentKeys id p _ was names) (lt_irrefl _)
        · exact noPayments p new
      · rcases Table.get_insertAll there with was | ⟨new, -⟩
        · exact absurd (keyed.debtKeys id row _ was names) (lt_irrefl _)
        · exact noRows row new
  · rw [isDebts] at found
    rcases Table.get_insertAll found with old | ⟨new, -⟩
    · rw [ofBasket_old transactions (keyed.debtKeys id row transactionId old names)]
      exact keyed.owned id row transactionId old own names
    · rw [← Option.some.inj ((newRows row new).symm.trans names), ofBasket_new transactions isMetadata]
      exact decide_eq_true (ownRows row new own)

/-! Before the basket is given back. -/

/-- What the drawers and the account hold of a basket, with what its refunds took from the pool and from the charge: the same
as at the start, but for a pound for each refund. -/
structure Closing (start s : Store) (sessionId : Nat) : Prop where
  recorded : Recorded s
  pooled : pooledPayments s sessionId = pooledPayments start sessionId
  charges : sessionDebtRows s sessionId = sessionDebtRows start sessionId
  deposits : creditDepositRows s sessionId = creditDepositRows start sessionId
  account_le : ∀ c, priorAccountAttributed s sessionId c ≤ grossCharge start sessionId c
  pool_le : ∀ c, priorPoolAttributed s sessionId c ≤ ((positiveLegs start sessionId c).map (·.2.amount)).sum
  lower : ∀ c, pooledSum start sessionId c + grossCharge start sessionId c + depositSum start sessionId c ≤
    basketMoney s sessionId c + basketAccount s sessionId c + priorPoolAttributed s sessionId c +
      priorAccountAttributed s sessionId c
  upper : ∀ c, basketMoney s sessionId c + basketAccount s sessionId c + priorPoolAttributed s sessionId c +
      priorAccountAttributed s sessionId c ≤
    pooledSum start sessionId c + grossCharge start sessionId c + depositSum start sessionId c +
      pair 0 (itemRefunds s sessionId) c
  keyed : Keyed s sessionId

theorem PaidBasket.charges (paid : PaidBasket s sessionId) :
    ∀ entry ∈ sessionDebtRows s sessionId, InUnits entry.2.amount := by
  intro entry member c
  obtain ⟨found, kept⟩ := Table.mem_select.mp member
  simp only [Bool.and_eq_true, decide_eq_true_eq] at kept
  refine ⟨?_, paid.recorded.debts entry.1 entry.2 found c⟩
  obtain ⟨-, ⟨-, nonneg⟩ | isDeposit⟩ := paid.debts entry.1 entry.2 found kept.1.1
  · exact nonneg c
  · rw [kept.2] at isDeposit
    exact absurd isDeposit (by decide)

theorem PaidBasket.keyed (paid : PaidBasket s sessionId) : Keyed s sessionId where
  paymentKeys := paid.paymentKeys
  debtKeys := paid.debtKeys
  idle transactionId transaction metadata found isMetadata own :=
    absurd own (paid.fresh transactionId transaction metadata found isMetadata)
  owned id row transactionId found own names := by
    rw [(paid.debts id row found own).1] at names
    cases names

theorem itemRefunds_none (none : NoItemRefunds s sessionId) : itemRefunds s sessionId = 0 :=
  Table.total_eq_zero fun id link found => if_neg (none id link found)

theorem PaidBasket.closing (paid : PaidBasket s sessionId) : Closing s s sessionId := by
  have account (c : CoverageCurrency) : priorAccountAttributed s sessionId c = 0 := sumPrior_none paid.noRefunds _ c
  have pool (c : CoverageCurrency) : priorPoolAttributed s sessionId c = 0 := sumPrior_none paid.noRefunds _ c
  have nothing (c : CoverageCurrency) : pair 0 (itemRefunds s sessionId) c = 0 := by
    rw [itemRefunds_none paid.noRefunds]
    cases c <;> rfl
  have sums (c : CoverageCurrency) : basketMoney s sessionId c + basketAccount s sessionId c +
      priorPoolAttributed s sessionId c + priorAccountAttributed s sessionId c =
      pooledSum s sessionId c + grossCharge s sessionId c + depositSum s sessionId c := by
    rw [paid.money, paid.account, account, pool]
    ring
  exact
    { recorded := paid.recorded
      pooled := rfl
      charges := rfl
      deposits := rfl
      account_le := fun c => by
        rw [account]
        refine List.sum_nonneg fun x member => ?_
        obtain ⟨entry, inside, rfl⟩ := List.mem_map.mp member
        exact (paid.charges entry inside c).1
      pool_le := fun c => by
        rw [pool]
        refine List.sum_nonneg fun x member => ?_
        obtain ⟨entry, inside, rfl⟩ := List.mem_map.mp member
        have kept := (List.mem_filter.mp inside).2
        simp only [Bool.and_eq_true, decide_eq_true_eq] at kept
        exact kept.1.le
      lower := fun c => (sums c).ge
      upper := fun c => by rw [sums, nothing, add_zero]
      keyed := paid.keyed }

/-! One refund, one undo, one repayment. -/

variable {start : Store} {isDrawerAffectingMethod : String → Bool} {cashDrawer : String} {input : RefundItem}

theorem refundLegs_sum (planned : Planned s isDrawerAffectingMethod input
      (planSessionItemRefund isDrawerAffectingMethod s input)) (transactionId : Nat) (c : CoverageCurrency) :
    (((planDefaultLegs isDrawerAffectingMethod s cashDrawer input.sessionId
        (planSessionItemRefund isDrawerAffectingMethod s input)).map (refundPayment transactionId)).map fun p =>
          if p.currencyCode = currencyCode c then p.amount else 0).sum =
      -((planSessionItemRefund isDrawerAffectingMethod s input).poolSplit c +
        cashBack (planSessionItemRefund isDrawerAffectingMethod s input).repaidBack c) := by
  rw [← (planned.legs cashDrawer).2 c, List.map_map]
  refine eq_neg_of_add_eq_zero_left ?_
  rw [legSum, ← List.sum_map_add]
  refine List.sum_eq_zero fun x member => ?_
  obtain ⟨leg, -, rfl⟩ := List.mem_map.mp member
  change (if (refundPayment transactionId leg).currencyCode = currencyCode c then -leg.amount else 0) + amountIn c leg = 0
  unfold amountIn
  by_cases same : leg.currency = c
  · have codes : (refundPayment transactionId leg).currencyCode = currencyCode c := congrArg currencyCode same
    rw [if_pos same, if_pos codes, neg_add_cancel]
  · have codes : (refundPayment transactionId leg).currencyCode ≠ currencyCode c := fun codes => same (currencyCode_inj codes)
    rw [if_neg same, if_neg codes, add_zero]

/-- A charge is always a client's. -/
theorem reduction_none (recorded : Recorded s) (planned : Planned s isDrawerAffectingMethod input
      (planSessionItemRefund isDrawerAffectingMethod s input))
    (noClient : (planSessionItemRefund isDrawerAffectingMethod s input).debtClientId = none) (c : CoverageCurrency) :
    (planSessionItemRefund isDrawerAffectingMethod s input).accountReduction c = 0 := by
  have noRows : sessionDebtRows s input.sessionId = [] := by
    have none := (Option.or_eq_none_iff.mp noClient).1
    rw [Option.map_eq_none_iff, List.head?_eq_none_iff] at none
    exact none
  have prior : InUnits (priorAccountAttributed s input.sessionId) := recorded.sumPrior fun _ figures => figures.accountAttributed
  have uncharged : basketChargeRemaining s input.sessionId c = 0 := by
    have gross : grossCharge s input.sessionId c = 0 := by rw [grossCharge, noRows]; rfl
    rw [basketChargeRemaining, gross, zero_sub]
    exact max_eq_left (neg_nonpos.mpr (prior c).1)
  have parts := planned.parts c
  linarith [planned.account_le c, (planned.reduction c).1, (planned.repaid c).1]

theorem refundCredit_sum (recorded : Recorded s) (planned : Planned s isDrawerAffectingMethod input
      (planSessionItemRefund isDrawerAffectingMethod s input)) (transactionId : Nat) (c : CoverageCurrency) :
    ((refundCredit transactionId input (planSessionItemRefund isDrawerAffectingMethod s input)).map fun row =>
        if row.sessionId = some sessionId then row.amount c else 0).sum =
      if input.sessionId = sessionId then -(planSessionItemRefund isDrawerAffectingMethod s input).accountReduction c else 0 := by
  have least (c : CoverageCurrency) : (1 / 10000 : ℚ) < unit c := by
    cases c <;> norm_num [unit, scale]
  unfold refundCredit
  split
  · split_ifs with some own own
    · subst own
      exact List.sum_singleton.trans (if_pos rfl)
    · exact List.sum_singleton.trans (if_neg fun same => own (Option.some.inj same))
    · have small : (planSessionItemRefund isDrawerAffectingMethod s input).accountReduction c ≤ 1 / 10000 := by
        obtain ⟨usd, lbp⟩ := not_or.mp some
        cases c with
        | usd => exact not_lt.mp usd
        | lbp => exact not_lt.mp lbp
      rw [dropped_zero (planned.reduction c).1 (planned.reduction c).2 (small.trans_lt (least c)), neg_zero]
      rfl
    · rfl
  · rename_i noClient
    rw [reduction_none recorded planned noClient, neg_zero, ite_self]
    rfl

theorem pair_add (x y : ℚ) (c : CoverageCurrency) : pair 0 (x + y) c = pair 0 x c + pair 0 y c := by
  cases c with
  | usd => exact (add_zero 0).symm
  | lbp => rfl

theorem pair_zero (c : CoverageCurrency) : pair 0 0 c = 0 := by
  cases c <;> rfl

/-- What is not handed back of what the client had paid is at most a pound. -/
theorem cashBack_near {repaidBack : Amounts} (units : InUnits repaidBack) (c : CoverageCurrency) :
    0 ≤ repaidBack c - cashBack repaidBack c ∧ repaidBack c - cashBack repaidBack c ≤ pair 0 1 c := by
  unfold cashBack
  split_ifs with some
  · rw [sub_self]
    cases c <;> norm_num [pair]
  · rw [sub_zero]
    refine ⟨(units c).1, ?_⟩
    cases c with
    | usd =>
      have least : dust .usd < unit .usd := by norm_num [dust, pair, unit, scale]
      exact (dropped_zero (units .usd).1 (units .usd).2 ((not_lt.mp some).trans_lt least)).le
    | lbp => exact not_lt.mp some

theorem itemRefunds_refunded : itemRefunds (refunded isDrawerAffectingMethod cashDrawer s input) sessionId =
    itemRefunds s sessionId + if input.sessionId = sessionId then 1 else 0 := by
  refine (Table.total_insert _ _ _).trans ?_
  congr 1
  simp

/-- The pool's net is within what was taken in. -/
theorem pool_net_le (s : Store) (sessionId : Nat) (isDrawerAffectingMethod : String → Bool) (c : CoverageCurrency) :
    (sessionPool s sessionId isDrawerAffectingMethod).net c ≤ ((positiveLegs s sessionId c).map (·.2.amount)).sum := by
  have out : 0 ≤ sessionPooledOutLegsTotal s sessionId isDrawerAffectingMethod c :=
    List.sum_nonneg fun x member => by
      obtain ⟨p, -, rfl⟩ := List.mem_map.mp member
      exact abs_nonneg _
  have legs : (sessionPooledInLegs s sessionId isDrawerAffectingMethod c).map (·.amount) =
      ((positiveLegs s sessionId c).filter fun entry => isDrawerAffectingMethod entry.2.method).map (·.2.amount) := by
    rw [sessionPooledInLegs, List.filter_map, List.map_map, positiveLegs, List.filter_filter]
    refine congrArg (List.map _) (List.filter_congr fun entry _ => ?_)
    simp only [Function.comp_apply, Bool.and_comm]
  have within : ((sessionPooledInLegs s sessionId isDrawerAffectingMethod c).map (·.amount)).sum ≤
      ((positiveLegs s sessionId c).map (·.2.amount)).sum := by
    rw [legs]
    refine (List.filter_sublist.map _).sum_le_sum fun x member => ?_
    obtain ⟨entry, inside, rfl⟩ := List.mem_map.mp member
    have kept := (List.mem_filter.mp inside).2
    simp only [Bool.and_eq_true, decide_eq_true_eq] at kept
    exact kept.1.le
  exact (sub_le_self _ out).trans within

/-- A refund that took nothing wrote rows of nothing. -/
theorem idle_refund (planned : Planned s isDrawerAffectingMethod input
      (planSessionItemRefund isDrawerAffectingMethod s input))
    (noAccount : (planSessionItemRefund isDrawerAffectingMethod s input).accountAttributed = 0)
    (noPool : (planSessionItemRefund isDrawerAffectingMethod s input).poolSplit = 0) :
    (∀ p ∈ (planDefaultLegs isDrawerAffectingMethod s cashDrawer input.sessionId
        (planSessionItemRefund isDrawerAffectingMethod s input)).map (refundPayment s.transactions.nextId), p.amount = 0) ∧
      ∀ row ∈ refundCredit s.transactions.nextId input (planSessionItemRefund isDrawerAffectingMethod s input),
        row.amount = 0 := by
  have nothing (c : CoverageCurrency) : (planSessionItemRefund isDrawerAffectingMethod s input).accountReduction c = 0 ∧
      (planSessionItemRefund isDrawerAffectingMethod s input).repaidBack c = 0 := by
    have parts := planned.parts c
    rw [noAccount] at parts
    have reduction := (planned.reduction c).1
    have repaid := (planned.repaid c).1
    change _ + _ = (0 : ℚ) at parts
    constructor
    · linarith
    · linarith
  refine ⟨fun p member => ?_, fun row member => ?_⟩
  · obtain ⟨leg, isLeg, rfl⟩ := List.mem_map.mp member
    obtain ⟨units, sums⟩ := planned.legs cashDrawer
    have noCash : cashBack (planSessionItemRefund isDrawerAffectingMethod s input).repaidBack leg.currency = 0 := by
      rw [cashBack, (nothing leg.currency).2, ite_self]
    have none : legSum (planDefaultLegs isDrawerAffectingMethod s cashDrawer input.sessionId
        (planSessionItemRefund isDrawerAffectingMethod s input)) leg.currency = 0 := by
      rw [sums, noPool, noCash]
      exact add_zero _
    have least : amountIn leg.currency leg ≤ legSum (planDefaultLegs isDrawerAffectingMethod s cashDrawer input.sessionId
        (planSessionItemRefund isDrawerAffectingMethod s input)) leg.currency := by
      refine List.single_le_sum (fun x inside => ?_) _ (List.mem_map_of_mem isLeg)
      obtain ⟨other, listed, rfl⟩ := List.mem_map.mp inside
      unfold amountIn
      split_ifs
      · exact (units other listed).1
      · exact le_rfl
    rw [none, amountIn, if_pos rfl] at least
    exact neg_eq_zero.mpr (le_antisymm least (units leg isLeg).1)
  · rw [(refundCredit_row member).1]
    funext c
    exact neg_eq_zero.mpr (nothing c).1

/-- The store after the whole basket is given back. -/
def reversed (s : Store) (sessionId : Nat) : Store :=
  { s with
    payments := reverseSessionPooledPayments s sessionId
    debts := cancelSessionDebt s sessionId }

theorem refundSessionBasket_ok {s' : Store} (done : refundSessionBasket s sessionId = .ok s') : s' = reversed s sessionId := by
  unfold refundSessionBasket at done
  split_ifs at done
  exact (Except.ok.inj done).symm

section
variable (closing : Closing start s sessionId)
include closing

theorem Closing.gross (c : CoverageCurrency) : grossCharge s sessionId c = grossCharge start sessionId c := by
  rw [grossCharge, grossCharge, closing.charges]

theorem Closing.positive (c : CoverageCurrency) : positiveLegs s sessionId c = positiveLegs start sessionId c := by
  rw [positiveLegs, positiveLegs, closing.pooled]

/-- What a refund takes from the charge and from the pool of its basket leaves both within their bounds. -/
theorem Closing.taken (planned : Planned s isDrawerAffectingMethod input
      (planSessionItemRefund isDrawerAffectingMethod s input)) (own : input.sessionId = sessionId) (c : CoverageCurrency) :
    priorAccountAttributed s sessionId c + (planSessionItemRefund isDrawerAffectingMethod s input).accountAttributed c ≤
        grossCharge start sessionId c ∧
      priorPoolAttributed s sessionId c + (planSessionItemRefund isDrawerAffectingMethod s input).poolSplit c ≤
        ((positiveLegs start sessionId c).map (·.2.amount)).sum := by
  subst own
  have account := planned.account_le c
  have pool := planned.split_le c
  have net := pool_net_le s input.sessionId isDrawerAffectingMethod c
  rw [closing.positive] at net
  rw [basketChargeRemaining, closing.gross, max_eq_right (sub_nonneg.mpr (closing.account_le c))] at account
  refine ⟨le_sub_iff_add_le'.mp account, ?_⟩
  change _ ≤ max 0 ((sessionPool s input.sessionId isDrawerAffectingMethod).net c -
    priorPoolAttributed s input.sessionId c) at pool
  rcases max_choice 0 ((sessionPool s input.sessionId isDrawerAffectingMethod).net c -
    priorPoolAttributed s input.sessionId c) with spent | left
  · rw [spent] at pool
    linarith [closing.pool_le c]
  · rw [left] at pool
    linarith

/-- The sums after a refund. -/
theorem Closing.refunded_sums (planned : Planned s isDrawerAffectingMethod input
      (planSessionItemRefund isDrawerAffectingMethod s input)) (cashDrawer : String) (c : CoverageCurrency) :
    basketMoney (refunded isDrawerAffectingMethod cashDrawer s input) sessionId c +
        basketAccount (refunded isDrawerAffectingMethod cashDrawer s input) sessionId c +
        priorPoolAttributed (refunded isDrawerAffectingMethod cashDrawer s input) sessionId c +
        priorAccountAttributed (refunded isDrawerAffectingMethod cashDrawer s input) sessionId c =
      basketMoney s sessionId c + basketAccount s sessionId c + priorPoolAttributed s sessionId c +
        priorAccountAttributed s sessionId c +
        if input.sessionId = sessionId then
          (planSessionItemRefund isDrawerAffectingMethod s input).repaidBack c -
            cashBack (planSessionItemRefund isDrawerAffectingMethod s input).repaidBack c
        else 0 := by
  have money : basketMoney (refunded isDrawerAffectingMethod cashDrawer s input) sessionId c = basketMoney s sessionId c +
      if some input.sessionId = some sessionId then
        -((planSessionItemRefund isDrawerAffectingMethod s input).poolSplit c +
          cashBack (planSessionItemRefund isDrawerAffectingMethod s input).repaidBack c)
      else 0 := by
    rw [← refundLegs_sum planned s.transactions.nextId c]
    refine basketMoney_insert (refunded isDrawerAffectingMethod cashDrawer s input) closing.keyed.paymentKeys rfl rfl rfl (fun p member => ?_) c
    obtain ⟨leg, -, rfl⟩ := List.mem_map.mp member
    exact ⟨rfl, rfl⟩
  have account : basketAccount (refunded isDrawerAffectingMethod cashDrawer s input) sessionId c =
      basketAccount s sessionId c + if input.sessionId = sessionId then
        -(planSessionItemRefund isDrawerAffectingMethod s input).accountReduction c else 0 := by
    rw [← refundCredit_sum closing.recorded planned s.transactions.nextId c]
    exact basketAccount_insertAll rfl c
  have parts := planned.parts c
  rw [money, account, priorPoolAttributed, priorPoolAttributed, priorAccountAttributed, priorAccountAttributed,
    sumPrior_refunded closing.recorded, sumPrior_refunded closing.recorded]
  by_cases own : input.sessionId = sessionId
  · rw [if_pos own, if_pos own, if_pos own, if_pos own, if_pos (congrArg some own)]
    change _ + -(_ + _) + (_ + -_) + (_ + (planSessionItemRefund isDrawerAffectingMethod s input).poolSplit c) +
      (_ + (planSessionItemRefund isDrawerAffectingMethod s input).accountAttributed c) = _
    linarith
  · have other : ¬some input.sessionId = some sessionId := fun same => own (Option.some.inj same)
    rw [if_neg own, if_neg own, if_neg own, if_neg own, if_neg other]
    ring

theorem Closing.refunded (inUnits : InUnits input.amount) :
    Closing start (refunded isDrawerAffectingMethod cashDrawer s input) sessionId := by
  have planned : Planned s isDrawerAffectingMethod input (planSessionItemRefund isDrawerAffectingMethod s input) :=
    planSessionItemRefund_planned closing.recorded inUnits
  have sums := closing.refunded_sums planned cashDrawer
  have near (c : CoverageCurrency) := cashBack_near planned.repaid c
  obtain ⟨charges, deposits⟩ := sessionDebtRows_insertAll
    (ReturnedOnce.refunded isDrawerAffectingMethod cashDrawer s input) sessionId rfl fun row member =>
      Or.inl (by rw [(refundCredit_row member).2.2]; rfl)
  have taken (c : CoverageCurrency) (own : input.sessionId = sessionId) := closing.taken planned own c
  exact
    { recorded := closing.recorded.refunded inUnits
      pooled := by
        refine Eq.trans (pooledPayments_insertAll _ rfl fun p member => ?_) closing.pooled
        obtain ⟨leg, -, rfl⟩ := List.mem_map.mp member
        rfl
      charges := charges.trans closing.charges
      deposits := deposits.trans closing.deposits
      account_le := fun c => by
        rw [priorAccountAttributed, sumPrior_refunded closing.recorded]
        split_ifs with own
        · exact (taken c own).1
        · rw [add_zero]
          exact closing.account_le c
      pool_le := fun c => by
        rw [priorPoolAttributed, sumPrior_refunded closing.recorded]
        split_ifs with own
        · exact (taken c own).2
        · rw [add_zero]
          exact closing.pool_le c
      lower := fun c => by
        rw [sums]
        split_ifs
        · linarith [closing.lower c, (near c).1]
        · linarith [closing.lower c]
      upper := fun c => by
        rw [sums, itemRefunds_refunded]
        rw [pair_add]
        split_ifs
        · linarith [closing.upper c, (near c).2]
        · rw [pair_zero]
          linarith [closing.upper c]
      keyed := by
        refine closing.keyed.insert _ rfl rfl rfl rfl (fun p member => ?_) (fun row member => (refundCredit_row member).2.2)
          (fun row member own => (refundCredit_row member).2.1.symm.trans own) fun _ noAccount noPool =>
            idle_refund planned noAccount noPool
        obtain ⟨leg, -, rfl⟩ := List.mem_map.mp member
        rfl }

/-- A step that moves nothing of the basket. -/
theorem Closing.same {s' : Store} (recorded : Recorded s') (keyed : Keyed s' sessionId)
    (pooled : pooledPayments s' sessionId = pooledPayments s sessionId)
    (rows : sessionDebtRows s' sessionId = sessionDebtRows s sessionId ∧
      creditDepositRows s' sessionId = creditDepositRows s sessionId)
    (links : s'.links = s.links)
    (prior : ∀ figure c, sumPriorSessionItemRefundMeta s' sessionId figure c = sumPriorSessionItemRefundMeta s sessionId figure c)
    (money : ∀ c, basketMoney s' sessionId c = basketMoney s sessionId c)
    (account : ∀ c, basketAccount s' sessionId c = basketAccount s sessionId c) : Closing start s' sessionId where
  recorded := recorded
  pooled := pooled.trans closing.pooled
  charges := rows.1.trans closing.charges
  deposits := rows.2.trans closing.deposits
  account_le c := (prior _ c).trans_le (closing.account_le c)
  pool_le c := (prior _ c).trans_le (closing.pool_le c)
  lower c := by
    rw [money, account, priorPoolAttributed, priorAccountAttributed, prior, prior]
    exact closing.lower c
  upper c := by
    rw [money, account, priorPoolAttributed, priorAccountAttributed, prior, prior, itemRefunds, links]
    exact closing.upper c
  keyed := keyed

/-- An undo of a refund that took nothing, or of another basket's. -/
theorem Closing.undone {refundTransactionId basket : Nat} {refund : Transaction} {metadata : Metadata}
    (found : s.transactions.get refundTransactionId = some refund) (isMetadata : refund.metadata = some metadata)
    (isBasket : metadata.sessionId = some basket)
    (nothing : metadata.sessionId = some sessionId → metadata.accountAttributed = 0 ∧ metadata.poolSplit = 0) :
    Closing start (undone s refundTransactionId basket) sessionId := by
  have own {credit : Nat × DebtRow} (isCredit : credit ∈ s.debts.select fun row =>
        row.transactionId = some refundTransactionId && row.transactionType = sessionItemRefundCreditType)
      (ours : credit.2.sessionId = some sessionId) : some basket = some sessionId := by
    obtain ⟨there, names⟩ := Table.mem_select.mp isCredit
    simp only [Bool.and_eq_true, decide_eq_true_eq] at names
    have owned := closing.keyed.owned credit.1 credit.2 refundTransactionId there ours names.1
    unfold ofBasket at owned
    rw [Option.bind_some, found, Option.bind_some, isMetadata] at owned
    exact isBasket.symm.trans (of_decide_eq_true owned)
  have zero (ours : some basket = some sessionId) :
      (∀ p ∈ (s.payments.select fun p => p.transactionId = some refundTransactionId).map fun p =>
          undoPayment s.transactions.nextId p.2, p.amount = 0) ∧
        ∀ row ∈ (s.debts.select fun row =>
            row.transactionId = some refundTransactionId && row.transactionType = sessionItemRefundCreditType).map fun row =>
              rechargeRow s.transactions.nextId row.2, row.amount = 0 := by
    obtain ⟨noAccount, noPool⟩ := nothing (isBasket.trans ours)
    obtain ⟨noPayments, noRows⟩ :=
      closing.keyed.idle refundTransactionId refund metadata found isMetadata (isBasket.trans ours) noAccount noPool
    refine ⟨fun p member => ?_, fun row member => ?_⟩
    · obtain ⟨entry, inside, rfl⟩ := List.mem_map.mp member
      obtain ⟨there, names⟩ := Table.mem_select.mp inside
      exact neg_eq_zero.mpr (noPayments entry.1 entry.2 there (of_decide_eq_true names))
    · obtain ⟨entry, inside, rfl⟩ := List.mem_map.mp member
      obtain ⟨there, names⟩ := Table.mem_select.mp inside
      simp only [Bool.and_eq_true, decide_eq_true_eq] at names
      exact neg_eq_zero.mpr (noRows entry.1 entry.2 there names.1)
  have money (c : CoverageCurrency) : basketMoney (ReturnedOnce.undone s refundTransactionId basket) sessionId c =
      basketMoney s sessionId c := by
    refine (basketMoney_insert _ closing.keyed.paymentKeys rfl rfl rfl (fun p member => ?_) c).trans ?_
    · obtain ⟨entry, -, rfl⟩ := List.mem_map.mp member
      exact ⟨rfl, rfl⟩
    · split_ifs with ours
      · rw [List.sum_eq_zero, add_zero]
        intro x member
        obtain ⟨p, inside, rfl⟩ := List.mem_map.mp member
        rw [(zero ours).1 p inside, ite_self]
      · exact add_zero _
  have account (c : CoverageCurrency) : basketAccount (ReturnedOnce.undone s refundTransactionId basket) sessionId c =
      basketAccount s sessionId c := by
    refine (basketAccount_insertAll rfl c).trans ?_
    rw [List.sum_eq_zero, add_zero]
    intro x member
    obtain ⟨row, inside, rfl⟩ := List.mem_map.mp member
    split_ifs with ours
    · obtain ⟨credit, isCredit, rfl⟩ := List.mem_map.mp inside
      rw [(zero (own isCredit ours)).2 _ inside]
      rfl
    · rfl
  have prior (figure : Metadata → Amounts) (c : CoverageCurrency) :
      sumPriorSessionItemRefundMeta (ReturnedOnce.undone s refundTransactionId basket) sessionId figure c =
        sumPriorSessionItemRefundMeta s sessionId figure c :=
    sumPrior_insert closing.recorded (ReturnedOnce.undone s refundTransactionId basket) rfl rfl sessionId figure c
  refine closing.same (closing.recorded.undone _ _) ?_ ?_ ?_ rfl prior money account
  · refine closing.keyed.insert _ rfl rfl rfl rfl (fun p member => ?_) (fun row member => ?_) (fun row member ours => ?_)
      fun ours _ _ => zero ours
    · obtain ⟨entry, -, rfl⟩ := List.mem_map.mp member
      rfl
    · obtain ⟨entry, -, rfl⟩ := List.mem_map.mp member
      rfl
    · obtain ⟨credit, isCredit, rfl⟩ := List.mem_map.mp member
      exact own isCredit ours
  · refine pooledPayments_insertAll _ rfl fun p member => ?_
    obtain ⟨entry, -, rfl⟩ := List.mem_map.mp member
    rfl
  · refine sessionDebtRows_insertAll _ _ rfl fun row member => Or.inl ?_
    obtain ⟨entry, -, rfl⟩ := List.mem_map.mp member
    rfl

/-- A row that is no basket's. -/
theorem Closing.bookRow {row : DebtRow} (whole : ∀ c, WholeIn c (row.amount c)) (noBasket : row.sessionId = none)
    (noTransaction : row.transactionId = none) : Closing start { s with debts := s.debts.insert row } sessionId := by
  refine closing.same (closing.recorded.bookRow whole) ?_ rfl ?_ rfl (fun _ _ => rfl) (fun _ => rfl) fun c => ?_
  · refine ⟨closing.keyed.paymentKeys, fun id other transactionId found names => ?_,
      fun transactionId transaction metadata found isMetadata own noAccount noPool => ?_,
      fun id other transactionId found own names => ?_⟩
    · rcases Table.get_insert found with old | ⟨-, rfl⟩
      · exact closing.keyed.debtKeys id other transactionId old names
      · rw [noTransaction] at names
        cases names
    · obtain ⟨noPayments, noRows⟩ :=
        closing.keyed.idle transactionId transaction metadata found isMetadata own noAccount noPool
      refine ⟨noPayments, fun id other there names => ?_⟩
      rcases Table.get_insert there with old | ⟨-, rfl⟩
      · exact noRows id other old names
      · rw [noTransaction] at names
        cases names
    · rcases Table.get_insert found with old | ⟨-, rfl⟩
      · exact closing.keyed.owned id other transactionId old own names
      · rw [noTransaction] at names
        cases names
  · have booked : ({ s with debts := s.debts.insert row } : Store).debts = s.debts.insertAll [row] := rfl
    exact sessionDebtRows_insertAll _ _ booked (List.forall_mem_singleton.mpr (Or.inr noBasket))
  · refine (Table.total_insert _ _ _).trans ?_
    rw [noBasket]
    exact add_zero _

/-- What remains after the whole basket is given back: the pounds that the refunds did not hand back. -/
theorem Closing.closed (paid : PaidBasket start sessionId) {s' : Store} (done : refundSessionBasket s sessionId = .ok s')
    (c : CoverageCurrency) :
    |basketMoney s' sessionId c + basketAccount s' sessionId c| ≤ pair 0 (itemRefunds s' sessionId) c := by
  have pool : PoolWithin s sessionId :=
    ⟨closing.recorded.sumPrior fun _ figures => figures.poolSplit, fun c => by
      rw [closing.positive]
      exact closing.pool_le c⟩
  have charge : ChargeWithin s sessionId :=
    ⟨closing.charges.symm ▸ paid.charges, closing.recorded.sumPrior fun _ figures => figures.accountAttributed, fun c => by
      rw [closing.gross]
      exact closing.account_le c⟩
  have pooled : pooledSum s sessionId c = pooledSum start sessionId c := by
    rw [pooledSum, pooledSum, pooledIn, pooledIn, closing.pooled]
  have deposits : depositSum s sessionId c = depositSum start sessionId c := by
    rw [depositSum, depositSum, closing.deposits]
  have money := reverseSessionPooledPayments_money closing.recorded pool c
  have account := cancelSessionDebt_account charge c
  rw [pooled] at money
  rw [closing.gross, deposits] at account
  obtain rfl := refundSessionBasket_ok done
  have moneyLeft : basketMoney (reversed s sessionId) sessionId c = _ := money
  have accountLeft : basketAccount (reversed s sessionId) sessionId c = _ := account
  rw [moneyLeft, accountLeft, abs_of_nonneg]
  · change _ ≤ pair 0 (itemRefunds s sessionId) c
    linarith [closing.upper c]
  · linarith [closing.lower c]

end

/-! The whole life of a basket. -/

/-- Rows are booked in whole units, on accounts that are no basket's. -/
def Admitted : BasketAction → Prop
  | .bookRow row => (∀ c, WholeIn c (row.amount c)) ∧ row.sessionId = none ∧ row.transactionId = none
  | _ => True

/-- What an item refund gives back is whole cents and pounds: the part of a discounted line need not be. -/
def WholeAmount : BasketAction → Prop
  | .refundItem input => InUnits input.amount
  | _ => True

/-- No refund is undone that took something off the basket's charge or out of its pool. -/
def UndoesNothing (sessionId : Nat) (s : Store) : BasketAction → Prop
  | .undoItemRefund refundTransactionId => ∀ refund metadata, s.transactions.get refundTransactionId = some refund →
      refund.metadata = some metadata → metadata.sessionId = some sessionId →
      metadata.accountAttributed = 0 ∧ metadata.poolSplit = 0
  | _ => True

theorem undoableBasket_ok {refundTransactionId basket : Nat} (undoable : undoableBasket s refundTransactionId = .ok basket) :
    ∃ refund metadata, s.transactions.get refundTransactionId = some refund ∧ refund.metadata = some metadata ∧
      metadata.sessionId = some basket := by
  unfold undoableBasket at undoable
  rcases found : s.transactions.get refundTransactionId with _ | refund
  · rw [found] at undoable
    cases undoable
  · rw [found] at undoable
    dsimp only at undoable
    rcases isBasket : (refund.metadata.getD {}).sessionId with _ | basket'
    · rw [isBasket] at undoable
      dsimp only at undoable
      split_ifs at undoable
    · rw [isBasket] at undoable
      dsimp only at undoable
      split_ifs at undoable
      obtain rfl := Except.ok.inj undoable
      rcases isMetadata : refund.metadata with _ | metadata
      · rw [isMetadata] at isBasket
        cases isBasket
      · rw [isMetadata] at isBasket
        exact ⟨refund, metadata, rfl, isMetadata, isBasket⟩

theorem Closing.perform (closing : Closing start s sessionId) {action : BasketAction} (admitted : Admitted action)
    (wholeAmount : WholeAmount action) (undoes : UndoesNothing sessionId s action) :
    Closing start (perform isDrawerAffectingMethod cashDrawer s action) sessionId := by
  obtain same | ⟨input, rfl, -, same⟩ | ⟨refundTransactionId, basket, rfl, undoable, same⟩ | ⟨row, rfl, same⟩ :=
    perform_cases isDrawerAffectingMethod cashDrawer s action
  · rwa [same]
  · rw [same]
    exact closing.refunded wholeAmount
  · rw [same]
    obtain ⟨refund, metadata, found, isMetadata, isBasket⟩ := undoableBasket_ok undoable
    exact closing.undone found isMetadata isBasket (undoes refund metadata found isMetadata)
  · rw [same]
    exact closing.bookRow admitted.1 admitted.2.1 admitted.2.2

/-- Through every order of item refunds of whole amounts, repayments and undos of refunds that took nothing, the basket given
back as a whole leaves nothing in a drawer or on the account, but for a pound for each item refund. -/
theorem refundSessionBasket_closes (isDrawerAffectingMethod : String → Bool) (cashDrawer : String)
    (paid : PaidBasket start sessionId) {actions : List BasketAction}
    (meets : Meets (perform isDrawerAffectingMethod cashDrawer)
      (fun s action => Admitted action ∧ WholeAmount action ∧ UndoesNothing sessionId s action) start actions) {s' : Store}
    (done : refundSessionBasket (run (perform isDrawerAffectingMethod cashDrawer) start actions) sessionId = .ok s')
    (c : CoverageCurrency) :
    |basketMoney s' sessionId c + basketAccount s' sessionId c| ≤ pair 0 (itemRefunds s' sessionId) c := by
  have closing : Closing start (run (perform isDrawerAffectingMethod cashDrawer) start actions) sessionId :=
    run_invariant (fun s action (closing : Closing start s sessionId)
      (ok : Admitted action ∧ WholeAmount action ∧ UndoesNothing sessionId s action) =>
        closing.perform ok.1 ok.2.1 ok.2.2) paid.closing meets
  exact closing.closed paid done c

end

/-! The basket of $140. -/

theorem paidBasket_paid : PaidBasket paidBasket 1 where
  recorded := paidBasket_recorded
  noRefunds id link found := by
    rw [paidBasket, Table.get_empty] at found
    cases found
  fresh id transaction metadata found := by
    rw [paidBasket, Table.get_empty] at found
    cases found
  pooled id p found _ := by
    rw [Table.get_only found]
  paymentKeys id p transactionId found names := by
    rw [Table.get_only found] at names
    cases names
  debts id row found own := by
    rcases List.mem_pair.mp (List.mem_of_getElem? (Table.slot_of_get found)) with same | same
    · rw [Option.some.inj same] at own
      cases own
    · rw [Option.some.inj same]
      exact ⟨rfl, Or.inl ⟨rfl, fun c => by cases c <;> norm_num [pair]⟩⟩
  debtKeys id row transactionId found names := by
    rcases List.mem_pair.mp (List.mem_of_getElem? (Table.slot_of_get found)) with same | same
    · rw [Option.some.inj same] at names
      cases names
    · rw [Option.some.inj same] at names
      cases names

/-- A line of a sale in the basket. -/
def saleLine (usd : ℚ) : RefundItem :=
  { refundOf usd with lines := [{ saleItemId := 0, quantity := 1 }] }

def repayment (usd : ℚ) : DebtRow where
  clientId := 1
  sessionId := none
  transactionType := "Repayment"
  transactionId := none
  amount := pair (-usd) 0

theorem reversed_of_open {s : Store} (isOpen : basketReversed s 1 = false) :
    refundSessionBasket s 1 = .ok (reversed s 1) :=
  if_neg (Bool.eq_false_iff.mp isOpen)

theorem refundSessionBasket_closes_paidBasket : ∃ s', refundSessionBasket
    (run (perform cashOnly "General") paidBasket [.refundItem (saleLine 50), .bookRow (repayment 30), .refundItem (saleLine 60)])
      1 = .ok s' ∧ itemRefunds s' 1 = 2 ∧
    |basketMoney s' 1 .usd + basketAccount s' 1 .usd| ≤ pair 0 (itemRefunds s' 1) .usd := by
  have opened := reversed_of_open (s := run (perform cashOnly "General") paidBasket
    [.refundItem (saleLine 50), .bookRow (repayment 30), .refundItem (saleLine 60)]) (by decide +kernel)
  refine ⟨_, opened, by decide +kernel, refundSessionBasket_closes cashOnly "General" paidBasket_paid ?_ opened .usd⟩
  exact ⟨⟨trivial, refundOf_inUnits 50, trivial⟩, ⟨⟨fun c => whole_dollars (-30) c, rfl, rfl⟩, trivial, trivial⟩,
    ⟨trivial, refundOf_inUnits 60, trivial⟩, trivial⟩

/-- An undone refund of $120 still counts as given back: the whole basket returns $20 of its $140 and no more. -/
theorem refundSessionBasket_afterUndo : ¬∀ (start : Store) (sessionId : Nat) (actions : List BasketAction) (s' : Store),
    PaidBasket start sessionId → (∀ action ∈ actions, Admitted action ∧ WholeAmount action) →
    refundSessionBasket (run (perform cashOnly "General") start actions) sessionId = .ok s' →
    ∀ c, |basketMoney s' sessionId c + basketAccount s' sessionId c| ≤ pair 0 (itemRefunds s' sessionId) c := by
  intro closes
  have opened := reversed_of_open (s := run (perform cashOnly "General") paidBasket
    [.refundItem (saleLine 120), .undoItemRefund 0]) (by decide +kernel)
  have left := closes paidBasket 1 _ _ paidBasket_paid (fun action member => ?_) opened .usd
  · exact absurd left (by decide +kernel)
  · rcases List.mem_pair.mp member with rfl | rfl
    · exact ⟨trivial, refundOf_inUnits 120⟩
    · exact ⟨trivial, trivial⟩

/-- Two of three units of $10, sold with a dollar off, give back $9.67 each, and only twice $9.66… counts as given back: a cent
too much is taken off the account, with nothing undone. -/
theorem refundSessionBasket_afterThirds : ¬∀ (start : Store) (sessionId : Nat) (actions : List BasketAction) (s' : Store),
    PaidBasket start sessionId → (∀ s, ∀ action ∈ actions, Admitted action ∧ UndoesNothing sessionId s action) →
    refundSessionBasket (run (perform cashOnly "General") start actions) sessionId = .ok s' →
    ∀ c, |basketMoney s' sessionId c + basketAccount s' sessionId c| ≤ pair 0 (itemRefunds s' sessionId) c := by
  intro closes
  have opened := reversed_of_open (s := run (perform cashOnly "General") paidBasket
    [.refundItem (saleLine (29 / 3)), .refundItem (saleLine (29 / 3))]) (by decide +kernel)
  have left := closes paidBasket 1 _ _ paidBasket_paid (fun s action member => ?_) opened .usd
  · exact absurd left (by decide +kernel)
  · rcases List.mem_pair.mp member with rfl | rfl
    · exact ⟨trivial, trivial⟩
    · exact ⟨trivial, trivial⟩

end Liratek.Basket.BasketClosed
