import Liratek.Basket.BasketReversal
import Liratek.Basket.RefundLegs
import Liratek.Lib.Runs

/-! An item refund gives the worth of the item back once, and the refunds of a basket together give no more of the credit the
client had before than there was. -/

namespace Liratek.Basket.ReturnedOnce
open Lib Lib.Calls Lib.Rounding Lib.Runs Members MemberOwed ItemRefund AccountFirst RefundLegs BasketReversal
open Carrier.ResaleLines (sqlRound2 sqlRound2_cents)
open Checkout (currencyCode)

/-- Amounts of nothing or more, in whole units. -/
def InUnits (amounts : Amounts) : Prop :=
  ∀ c, 0 ≤ amounts c ∧ WholeIn c (amounts c)

theorem inUnits_zero : InUnits 0 :=
  fun _ => ⟨le_rfl, whole_zero _⟩

theorem InUnits.add {a b : Amounts} (left : InUnits a) (right : InUnits b) : InUnits (a + b) :=
  fun c => ⟨add_nonneg (left c).1 (right c).1, (left c).2.add (right c).2⟩

/-- The figures a refund leaves for the refunds after it. -/
structure FiguresInUnits (metadata : Metadata) : Prop where
  accountAttributed : InUnits metadata.accountAttributed
  poolSplit : InUnits metadata.poolSplit
  restored : InUnits metadata.restoredFromPreexistingCredit

/-- The rows are in whole units, and the links name rows that exist. -/
structure Recorded (s : Store) : Prop where
  payments : ∀ id payment, s.payments.get id = some payment → ∀ c, payment.currencyCode = currencyCode c →
    WholeIn c payment.amount
  debts : ∀ id row, s.debts.get id = some row → ∀ c, WholeIn c (row.amount c)
  figures : ∀ id transaction metadata, s.transactions.get id = some transaction →
    transaction.metadata = some metadata → FiguresInUnits metadata
  links : ∀ id link transactionId, s.links.get id = some link → link.unifiedTransactionId = some transactionId →
    transactionId < s.transactions.nextId

section
variable {s : Store} {sessionId : Nat} {c : CoverageCurrency}

/-! What the refund reads, in whole units. -/

theorem Recorded.grossCharge (recorded : Recorded s) : WholeIn c (grossCharge s sessionId c) := by
  refine whole_sum fun x member => ?_
  obtain ⟨entry, inside, rfl⟩ := List.mem_map.mp member
  exact recorded.debts entry.1 entry.2 (Table.mem_select.mp inside).1 c

/-- What the refund of a link counts for. -/
def linkedFigure (s : Store) (figure : Metadata → Amounts) (link : SessionTransaction) : Amounts :=
  match (link.unifiedTransactionId.bind s.transactions.get).bind (·.metadata) with
  | some metadata => figure metadata
  | none => 0

theorem sumPrior_eq (s : Store) (sessionId : Nat) (figure : Metadata → Amounts) (c : CoverageCurrency) :
    sumPriorSessionItemRefundMeta s sessionId figure c = s.links.total fun link =>
      if link.sessionId = sessionId ∧ link.transactionType = sessionItemRefundLinkType then linkedFigure s figure link c
      else 0 := by
  unfold sumPriorSessionItemRefundMeta linkedFigure
  congr 1
  funext link
  split_ifs
  · rcases (link.unifiedTransactionId.bind s.transactions.get).bind (·.metadata) with _ | metadata
    · rfl
    · rfl
  · rfl

theorem Recorded.linkedFigure (recorded : Recorded s) {figure : Metadata → Amounts}
    (each : ∀ metadata, FiguresInUnits metadata → InUnits (figure metadata)) (link : SessionTransaction) :
    InUnits (linkedFigure s figure link) := by
  unfold ReturnedOnce.linkedFigure
  rcases found : (link.unifiedTransactionId.bind s.transactions.get).bind (·.metadata) with _ | metadata
  · exact inUnits_zero
  · obtain ⟨transaction, stored, isMetadata⟩ := Option.bind_eq_some_iff.mp found
    obtain ⟨id, -, stored⟩ := Option.bind_eq_some_iff.mp stored
    exact each metadata (recorded.figures id transaction metadata stored isMetadata)

/-- A figure of the refunds, added up. -/
theorem Recorded.sumPrior (recorded : Recorded s) {figure : Metadata → Amounts}
    (each : ∀ metadata, FiguresInUnits metadata → InUnits (figure metadata)) :
    InUnits (sumPriorSessionItemRefundMeta s sessionId figure) := by
  intro c
  rw [sumPrior_eq]
  refine ⟨Table.total_nonneg fun id link _ => ?_,
    Table.total_closed (whole_zero _) (fun x y left right => left.add right) fun id link _ => ?_⟩
  · split_ifs
    · exact (recorded.linkedFigure each link c).1
    · exact le_rfl
  · split_ifs
    · exact (recorded.linkedFigure each link c).2
    · exact whole_zero _

theorem Recorded.chargeRemaining (recorded : Recorded s) : InUnits (basketChargeRemaining s sessionId) :=
  fun c => ⟨le_max_left _ _, (whole_zero _).max (recorded.grossCharge.sub
    (recorded.sumPrior (fun _ figures => figures.accountAttributed) c).2)⟩

theorem Recorded.pooled (recorded : Recorded s) {keep : Payment → Bool} {f : Payment → ℚ}
    (whole : ∀ p, keep p = true → p.currencyCode = currencyCode c ∧ (WholeIn c p.amount → WholeIn c (f p))) :
    WholeIn c ((((pooledPayments s sessionId).map (·.2)).filter keep).map f).sum := by
  refine whole_sum fun x member => ?_
  obtain ⟨p, inside, rfl⟩ := List.mem_map.mp member
  obtain ⟨listed, kept⟩ := List.mem_filter.mp inside
  obtain ⟨entry, pooled, rfl⟩ := List.mem_map.mp listed
  obtain ⟨inCurrency, still⟩ := whole entry.2 kept
  exact still (recorded.payments entry.1 entry.2 (Table.mem_select.mp pooled).1 c inCurrency)

theorem Recorded.pool (recorded : Recorded s) (isDrawerAffectingMethod : String → Bool) :
    PoolInUnits (sessionPool s sessionId isDrawerAffectingMethod) := by
  have prior : InUnits (priorPoolAttributed s sessionId) := recorded.sumPrior fun _ figures => figures.poolSplit
  refine ⟨fun c => le_max_left _ _, fun c => (whole_zero _).max (Whole.sub (Whole.sub ?_ ?_) (prior c).2), fun c none => ?_⟩
  · refine recorded.pooled fun p kept => ?_
    simp only [Bool.and_eq_true, decide_eq_true_eq] at kept
    exact ⟨kept.1.1, id⟩
  · refine recorded.pooled fun p kept => ?_
    simp only [Bool.and_eq_true, decide_eq_true_eq] at kept
    refine ⟨kept.1.1.1, fun whole => ?_⟩
    rw [abs_of_neg kept.1.1.2]
    exact whole.neg
  · have out : 0 ≤ sessionPooledOutLegsTotal s sessionId isDrawerAffectingMethod c :=
      List.sum_nonneg fun x member => by
        obtain ⟨p, -, rfl⟩ := List.mem_map.mp member
        exact abs_nonneg _
    have net : (sessionPool s sessionId isDrawerAffectingMethod).net c =
      (sessionPool s sessionId isDrawerAffectingMethod).totalIn c -
        sessionPooledOutLegsTotal s sessionId isDrawerAffectingMethod c := rfl
    have spent : (sessionPool s sessionId isDrawerAffectingMethod).net c - priorPoolAttributed s sessionId c ≤ 0 := by
      linarith [(prior c).1]
    exact max_eq_left spent

/-- A balance in whole units is not rounded. -/
theorem Recorded.clientBalance (recorded : Recorded s) (clientId : Nat) : WholeIn c (clientBalance s clientId c) := by
  have whole : WholeIn c (s.debts.total fun row => if row.clientId = clientId then row.amount c else 0) :=
    Table.total_closed (whole_zero _) (fun x y left right => left.add right) fun id row found => by
      split_ifs
      · exact recorded.debts id row found c
      · exact whole_zero _
  have cents : Whole (100 : ℚ) (s.debts.total fun row => if row.clientId = clientId then row.amount c else 0) := by
    cases c with
    | usd => exact whole
    | lbp =>
      obtain ⟨units, same⟩ := whole
      refine ⟨100 * units, ?_⟩
      rw [same, scale, Int.cast_mul, Int.cast_ofNat]
      ring
  rw [ItemRefund.clientBalance, sqlRound2_cents cents]
  exact whole

theorem Recorded.stillOwed (recorded : Recorded s) (input : RefundItem) : InUnits (stillOwedBucket s input) := by
  refine fun c => ⟨le_max_left _ _, (whole_zero _).max ?_⟩
  rcases debtClientId s input with _ | clientId
  · exact whole_zero _
  · exact recorded.clientBalance clientId

/-- The credit the client had before the basket's first charge. -/
def creditBefore (s : Store) (sessionId : Nat) : Amounts :=
  fun currency =>
    match (sessionDebtRows s sessionId).head? with
    | some row => max 0 (-clientBalanceBeforeRow s row.2.clientId row.1 currency)
    | none => 0

theorem Recorded.creditBefore (recorded : Recorded s) : InUnits (creditBefore s sessionId) := by
  intro c
  unfold ReturnedOnce.creditBefore
  rcases (sessionDebtRows s sessionId).head? with _ | row
  · exact inUnits_zero c
  · refine ⟨le_max_left _ _, (whole_zero _).max (Whole.neg (whole_sum fun x member => ?_))⟩
    obtain ⟨entry, inside, rfl⟩ := List.mem_map.mp member
    exact recorded.debts entry.1 entry.2 (Table.mem_rows.mp (List.mem_filter.mp inside).1) c

theorem preexistingBucket_eq (s : Store) (input : RefundItem) (c : CoverageCurrency) :
    preexistingBucket s input c =
      max 0 (creditBefore s input.sessionId c - priorPreexistingCreditUsed s input.sessionId c) := by
  unfold preexistingBucket creditBefore debtClientId balanceBefore
  rcases (sessionDebtRows s input.sessionId).head? with _ | row
  · rcases input.clientId with _ | clientId
    · simp
    · simp
  · rfl

theorem Recorded.preexisting (recorded : Recorded s) (input : RefundItem) : InUnits (preexistingBucket s input) := by
  intro c
  rw [preexistingBucket_eq]
  exact ⟨le_max_left _ _, (whole_zero _).max ((recorded.creditBefore c).2.sub
    (recorded.sumPrior (fun _ figures => figures.restored) c).2)⟩

/-! One refund. -/

/-- What a plan takes, within what there is to take. -/
structure Planned (s : Store) (isDrawerAffectingMethod : String → Bool) (input : RefundItem) (plan : Plan) : Prop where
  account : InUnits plan.accountAttributed
  account_le : ∀ c, plan.accountAttributed c ≤ basketChargeRemaining s input.sessionId c
  reduction : InUnits plan.accountReduction
  repaid : InUnits plan.repaidBack
  parts : ∀ c, plan.accountReduction c + plan.repaidBack c = plan.accountAttributed c
  split : InUnits plan.poolSplit
  split_le : ∀ c, plan.poolSplit c ≤ (sessionPool s input.sessionId isDrawerAffectingMethod).available c
  restored : InUnits plan.restoredFromPreexistingCredit
  drawn : ∀ c, plan.restoredFromPreexistingCredit c = max 0 (plan.accountReduction c - stillOwedBucket s input c)
  restored_le : ∀ c, plan.restoredFromPreexistingCredit c ≤ preexistingBucket s input c

variable {isDrawerAffectingMethod : String → Bool} {input : RefundItem}

theorem Recorded.accountFirst (recorded : Recorded s) (inUnits : InUnits input.amount) :
    Attributed input.rate input.amount (basketChargeRemaining s input.sessionId)
        (accountFirst input.rate input.amount (basketChargeRemaining s input.sessionId)) ∧
      LeavesRest input.rate (accountFirst input.rate input.amount (basketChargeRemaining s input.sessionId)) :=
  have charge : InUnits (basketChargeRemaining s input.sessionId) := recorded.chargeRemaining
  accountFirst_attributed input.ratePositive (fun c => (inUnits c).1) (fun c => (inUnits c).2) (fun c => (charge c).1)
    fun c => (charge c).2

theorem accountAttributed_eq (s : Store) (isDrawerAffectingMethod : String → Bool) (input : RefundItem) :
    (planSessionItemRefund isDrawerAffectingMethod s input).accountAttributed =
      (accountFirst input.rate input.amount (basketChargeRemaining s input.sessionId)).account := rfl

theorem poolSplit_eq (s : Store) (isDrawerAffectingMethod : String → Bool) (input : RefundItem) :
    (planSessionItemRefund isDrawerAffectingMethod s input).poolSplit =
      splitAcrossPoolCurrencyMix (sessionPool s input.sessionId isDrawerAffectingMethod) input.rate
        (askedOfPool input.rate (accountFirst input.rate input.amount (basketChargeRemaining s input.sessionId))) := rfl

theorem accountAttributed_whole (recorded : Recorded s) (inUnits : InUnits input.amount) :
    InUnits (planSessionItemRefund isDrawerAffectingMethod s input).accountAttributed := by
  obtain ⟨attributed, -⟩ := recorded.accountFirst inUnits
  intro c
  have same := eq_sub_of_add_eq (attributed.charge c)
  refine ⟨attributed.account c, ?_⟩
  change WholeIn c ((accountFirst input.rate input.amount (basketChargeRemaining s input.sessionId)).account c)
  rw [same]
  exact (recorded.chargeRemaining c).2.sub (attributed.whole c)

theorem accountReduction_eq (recorded : Recorded s) (inUnits : InUnits input.amount) (c : CoverageCurrency) :
    (planSessionItemRefund isDrawerAffectingMethod s input).accountReduction c =
      min ((planSessionItemRefund isDrawerAffectingMethod s input).accountAttributed c)
        (stillOwedBucket s input c + preexistingBucket s input c) := by
  have account : InUnits (planSessionItemRefund isDrawerAffectingMethod s input).accountAttributed :=
    accountAttributed_whole recorded inUnits
  exact (roundToUnit_unit c _).trans (roundAmount_of_whole
    ((account c).2.min ((recorded.stillOwed input c).2.add (recorded.preexisting input c).2)))

theorem poolSplit_givenBack (recorded : Recorded s) (isDrawerAffectingMethod : String → Bool) (input : RefundItem) :
    GivenBack input.rate (sessionPool s input.sessionId isDrawerAffectingMethod).available
      (askedOfPool input.rate (accountFirst input.rate input.amount (basketChargeRemaining s input.sessionId)))
      (planSessionItemRefund isDrawerAffectingMethod s input).poolSplit := by
  rw [poolSplit_eq]
  exact splitAcrossPoolCurrencyMix_givenBack input.ratePositive (recorded.pool isDrawerAffectingMethod)

theorem planSessionItemRefund_planned (recorded : Recorded s) (inUnits : InUnits input.amount) :
    Planned s isDrawerAffectingMethod input (planSessionItemRefund isDrawerAffectingMethod s input) := by
  obtain ⟨attributed, -⟩ := recorded.accountFirst inUnits
  have account : InUnits (planSessionItemRefund isDrawerAffectingMethod s input).accountAttributed :=
    accountAttributed_whole recorded inUnits
  have given := poolSplit_givenBack recorded isDrawerAffectingMethod input
  have owed := recorded.stillOwed input
  have credit := recorded.preexisting input
  have reduced (c : CoverageCurrency) :
      (planSessionItemRefund isDrawerAffectingMethod s input).accountReduction c =
        min ((planSessionItemRefund isDrawerAffectingMethod s input).accountAttributed c)
          (stillOwedBucket s input c + preexistingBucket s input c) :=
    accountReduction_eq recorded inUnits c
  have reduction : InUnits (planSessionItemRefund isDrawerAffectingMethod s input).accountReduction := by
    intro c
    rw [reduced]
    exact ⟨le_min (account c).1 (add_nonneg (owed c).1 (credit c).1), (account c).2.min ((owed c).2.add (credit c).2)⟩
  have rest (c : CoverageCurrency) : 0 ≤ (planSessionItemRefund isDrawerAffectingMethod s input).accountAttributed c -
      (planSessionItemRefund isDrawerAffectingMethod s input).accountReduction c := by
    rw [reduced]
    exact sub_nonneg.mpr (min_le_left _ _)
  have repaid (c : CoverageCurrency) : (planSessionItemRefund isDrawerAffectingMethod s input).repaidBack c =
      (planSessionItemRefund isDrawerAffectingMethod s input).accountAttributed c -
        (planSessionItemRefund isDrawerAffectingMethod s input).accountReduction c := max_eq_right (rest c)
  have drawn (c : CoverageCurrency) :
      (planSessionItemRefund isDrawerAffectingMethod s input).restoredFromPreexistingCredit c =
        max 0 ((planSessionItemRefund isDrawerAffectingMethod s input).accountReduction c - stillOwedBucket s input c) := by
    have within := (reduced c).trans_le (min_le_right _ _)
    exact min_eq_left (max_le (credit c).1 (sub_le_iff_le_add'.mpr within))
  exact
    { account := account
      account_le := fun c => (le_add_of_nonneg_right (attributed.leftoverCharge c)).trans_eq (attributed.charge c)
      reduction := reduction
      repaid := fun c => by
        rw [repaid]
        exact ⟨rest c, (account c).2.sub (reduction c).2⟩
      parts := fun c => by
        rw [repaid]
        exact add_sub_cancel _ _
      split := fun c => ⟨given.nonneg c, given.whole c⟩
      split_le := given.le
      restored := fun c => by
        rw [drawn]
        exact ⟨le_max_left _ _, (whole_zero _).max ((reduction c).2.sub (owed c).2)⟩
      drawn := drawn
      restored_le := fun c => min_le_right _ _ }

/-! The rows that are written. -/

theorem currencyCode_inj {c c' : CoverageCurrency} (same : currencyCode c = currencyCode c') : c = c' := by
  cases c with
  | usd =>
    cases c' with
    | usd => rfl
    | lbp => exact absurd same (by decide)
  | lbp =>
    cases c' with
    | usd => exact absurd same (by decide)
    | lbp => rfl

variable {cashDrawer : String}

/-- The store after an item refund. -/
def refunded (isDrawerAffectingMethod : String → Bool) (cashDrawer : String) (s : Store) (input : RefundItem) : Store :=
  let plan := planSessionItemRefund isDrawerAffectingMethod s input
  { payments := s.payments.insertAll
      ((planDefaultLegs isDrawerAffectingMethod s cashDrawer input.sessionId plan).map (refundPayment s.transactions.nextId))
    debts := s.debts.insertAll (refundCredit s.transactions.nextId input plan)
    transactions := s.transactions.insert { type := .refund, metadata := some (refundMetadata input plan) }
    links := s.links.insert
      { sessionId := input.sessionId
        unifiedTransactionId := some s.transactions.nextId
        transactionType := sessionItemRefundLinkType
        amount := -input.amount } }

theorem refundSessionBasketItem_ok {s' : Store}
    (done : refundSessionBasketItem isDrawerAffectingMethod s cashDrawer input = .ok s') :
    basketReversed s input.sessionId = false ∧ s' = refunded isDrawerAffectingMethod cashDrawer s input := by
  unfold refundSessionBasketItem at done
  split_ifs at done with reversed
  exact ⟨Bool.eq_false_of_not_eq_true reversed, (Except.ok.inj done).symm⟩

theorem Planned.legs {plan : Plan} (planned : Planned s isDrawerAffectingMethod input plan) (cashDrawer : String) :
    LegsInUnits (planDefaultLegs isDrawerAffectingMethod s cashDrawer input.sessionId plan) ∧
      ∀ c, legSum (planDefaultLegs isDrawerAffectingMethod s cashDrawer input.sessionId plan) c =
        plan.poolSplit c + cashBack plan.repaidBack c :=
  planDefaultLegs_inUnits (fun c => (planned.split c).1) (fun c => (planned.split c).2) (fun c => (planned.repaid c).1)
    fun c => (planned.repaid c).2

theorem refundCredit_row {refundTxnId : Nat} {plan : Plan} {row : DebtRow} (member : row ∈ refundCredit refundTxnId input plan) :
    row.amount = -plan.accountReduction ∧ row.sessionId = some input.sessionId ∧ row.transactionId = some refundTxnId := by
  unfold refundCredit at member
  split at member
  · split_ifs at member
    · rw [List.mem_singleton.mp member]
      exact ⟨rfl, rfl, rfl⟩
    · cases member
  · cases member

theorem Recorded.refunded (recorded : Recorded s) (inUnits : InUnits input.amount) :
    Recorded (refunded isDrawerAffectingMethod cashDrawer s input) := by
  have planned : Planned s isDrawerAffectingMethod input (planSessionItemRefund isDrawerAffectingMethod s input) :=
    planSessionItemRefund_planned recorded inUnits
  refine ⟨fun id payment found c inCurrency => ?_, fun id row found c => ?_, fun id transaction metadata found isMetadata => ?_,
    fun id link transactionId found names => ?_⟩
  · rcases Table.get_insertAll found with old | ⟨new, -⟩
    · exact recorded.payments id payment old c inCurrency
    · obtain ⟨leg, isLeg, rfl⟩ := List.mem_map.mp new
      obtain rfl := currencyCode_inj inCurrency
      exact ((planned.legs cashDrawer).1 leg isLeg).2.neg
  · rcases Table.get_insertAll found with old | ⟨new, -⟩
    · exact recorded.debts id row old c
    · rw [(refundCredit_row new).1]
      exact (planned.reduction c).2.neg
  · rcases Table.get_insert found with old | ⟨-, rfl⟩
    · exact recorded.figures id transaction metadata old isMetadata
    · cases isMetadata
      exact ⟨planned.account, planned.split, planned.restored⟩
  · refine (Table.nextId_insert _ _).symm ▸ ?_
    rcases Table.get_insert found with old | ⟨-, rfl⟩
    · exact Nat.lt_succ_of_lt (recorded.links id link transactionId old names)
    · cases names
      exact Nat.lt_succ_self _

/-- The store after the undo of an item refund. -/
def undone (s : Store) (refundTransactionId sessionId : Nat) : Store :=
  { s with
    transactions := s.transactions.insert
      { type := .refundUndo
        metadata := some { sessionId := some sessionId, refundTransactionId := some refundTransactionId } }
    debts := s.debts.insertAll ((s.debts.select fun row =>
      row.transactionId = some refundTransactionId && row.transactionType = sessionItemRefundCreditType).map fun row =>
        rechargeRow s.transactions.nextId row.2)
    payments := s.payments.insertAll ((s.payments.select fun p => p.transactionId = some refundTransactionId).map fun p =>
      undoPayment s.transactions.nextId p.2) }

theorem undoSessionBasketItemRefund_ok {refundTransactionId : Nat} {s' : Store}
    (done : undoSessionBasketItemRefund s refundTransactionId = .ok s') :
    ∃ sessionId, undoableBasket s refundTransactionId = .ok sessionId ∧ s' = undone s refundTransactionId sessionId := by
  obtain ⟨sessionId, undoable, same⟩ := bind_ok done
  exact ⟨sessionId, undoable, (Except.ok.inj same).symm⟩

theorem Recorded.undone (recorded : Recorded s) (refundTransactionId sessionId : Nat) :
    Recorded (undone s refundTransactionId sessionId) := by
  refine ⟨fun id payment found c inCurrency => ?_, fun id row found c => ?_, fun id transaction metadata found isMetadata => ?_,
    fun id link transactionId found names => ?_⟩
  · rcases Table.get_insertAll found with old | ⟨new, -⟩
    · exact recorded.payments id payment old c inCurrency
    · obtain ⟨entry, inside, rfl⟩ := List.mem_map.mp new
      exact (recorded.payments entry.1 entry.2 (Table.mem_select.mp inside).1 c inCurrency).neg
  · rcases Table.get_insertAll found with old | ⟨new, -⟩
    · exact recorded.debts id row old c
    · obtain ⟨entry, inside, rfl⟩ := List.mem_map.mp new
      exact (recorded.debts entry.1 entry.2 (Table.mem_select.mp inside).1 c).neg
  · rcases Table.get_insert found with old | ⟨-, rfl⟩
    · exact recorded.figures id transaction metadata old isMetadata
    · cases isMetadata
      exact ⟨inUnits_zero, inUnits_zero, inUnits_zero⟩
  · refine (Table.nextId_insert _ _).symm ▸ ?_
    exact Nat.lt_succ_of_lt (recorded.links id link transactionId found names)

theorem Recorded.bookRow (recorded : Recorded s) {row : DebtRow} (whole : ∀ c, WholeIn c (row.amount c)) :
    Recorded { s with debts := s.debts.insert row } where
  payments := recorded.payments
  debts id row' found c := by
    rcases Table.get_insert found with old | ⟨-, rfl⟩
    · exact recorded.debts id row' old c
    · exact whole c
  figures := recorded.figures
  links := recorded.links

/-! What the refunds add up to, and the credit they draw on. -/

theorem linkedFigure_insert (recorded : Recorded s) {s' : Store} {transaction : Transaction}
    (transactions : s'.transactions = s.transactions.insert transaction) (figure : Metadata → Amounts) {id : Nat}
    {link : SessionTransaction} (found : s.links.get id = some link) :
    linkedFigure s' figure link = linkedFigure s figure link := by
  unfold linkedFigure
  rw [transactions]
  rcases names : link.unifiedTransactionId with _ | transactionId
  · rfl
  · rw [Option.bind_some, Option.bind_some, Table.get_insert_of_ne _ _ (recorded.links id link transactionId found names).ne]

/-- A transaction without a link changes no sum. -/
theorem sumPrior_insert (recorded : Recorded s) (s' : Store) {transaction : Transaction} (links : s'.links = s.links)
    (transactions : s'.transactions = s.transactions.insert transaction) (sessionId : Nat) (figure : Metadata → Amounts)
    (c : CoverageCurrency) :
    sumPriorSessionItemRefundMeta s' sessionId figure c = sumPriorSessionItemRefundMeta s sessionId figure c := by
  rw [sumPrior_eq, sumPrior_eq, links]
  refine Table.total_congr fun id link found => ?_
  rw [linkedFigure_insert recorded transactions figure found]

/-- A refund adds its own figure to those of its basket. -/
theorem sumPrior_refunded (recorded : Recorded s) (figure : Metadata → Amounts) (c : CoverageCurrency) :
    sumPriorSessionItemRefundMeta (refunded isDrawerAffectingMethod cashDrawer s input) sessionId figure c =
      sumPriorSessionItemRefundMeta s sessionId figure c +
        if input.sessionId = sessionId then
          figure (refundMetadata input (planSessionItemRefund isDrawerAffectingMethod s input)) c
        else 0 := by
  have own : linkedFigure (refunded isDrawerAffectingMethod cashDrawer s input) figure
      { sessionId := input.sessionId
        unifiedTransactionId := some s.transactions.nextId
        transactionType := sessionItemRefundLinkType
        amount := -input.amount } =
      figure (refundMetadata input (planSessionItemRefund isDrawerAffectingMethod s input)) := by
    unfold linkedFigure
    dsimp only [refunded]
    rw [Option.bind_some, Table.get_insert_self]
    rfl
  rw [sumPrior_eq, sumPrior_eq]
  refine (Table.total_insert _ _ _).trans ?_
  rw [own]
  congr 1
  · exact Table.total_congr fun id link found => by rw [linkedFigure_insert recorded rfl figure found]
  · simp

theorem creditBefore_nonneg (s : Store) (sessionId : Nat) (c : CoverageCurrency) : 0 ≤ creditBefore s sessionId c := by
  unfold creditBefore
  rcases (sessionDebtRows s sessionId).head? with _ | row
  · exact le_rfl
  · exact le_max_left _ _

/-- Later rows leave the first charge of a basket and what stood before it as they are. -/
theorem creditBefore_insert (s : Store) (row : DebtRow) (sessionId : Nat) (c : CoverageCurrency) :
    creditBefore s sessionId c ≤ creditBefore { s with debts := s.debts.insert row } sessionId c := by
  rcases head : (sessionDebtRows s sessionId).head? with _ | first
  · have none : creditBefore s sessionId c = 0 := by rw [creditBefore, head]
    rw [none]
    exact creditBefore_nonneg _ sessionId c
  · have head' : (sessionDebtRows { s with debts := s.debts.insert row } sessionId).head? = some first := by
      unfold sessionDebtRows at head ⊢
      rw [Table.select_insert, List.head?_append, head]
      rfl
    have older : first.1 < s.debts.nextId :=
      Table.get_lt (Table.mem_select.mp (List.mem_of_mem_head? head)).1
    have same : clientBalanceBeforeRow { s with debts := s.debts.insert row } first.2.clientId first.1 c =
        clientBalanceBeforeRow s first.2.clientId first.1 c := by
      have later : ¬s.debts.nextId < first.1 := older.asymm
      unfold clientBalanceBeforeRow
      rw [Table.rows_insert, List.filter_append]
      simp [later]
    rw [creditBefore, creditBefore, head, head']
    exact (congrArg (fun balance => max 0 (-balance)) same).ge

theorem creditBefore_insertAll (s : Store) (rows : List DebtRow) (sessionId : Nat) (c : CoverageCurrency) :
    creditBefore s sessionId c ≤ creditBefore { s with debts := s.debts.insertAll rows } sessionId c := by
  induction rows generalizing s with
  | nil => exact le_rfl
  | cons row rest ih => exact (creditBefore_insert s row sessionId c).trans (ih { s with debts := s.debts.insert row })

/-! Runs. -/

/-- What is refunded and booked is in whole units. -/
def ActionInUnits : BasketAction → Prop
  | .refundItem input => InUnits input.amount
  | .undoItemRefund _ => True
  | .bookRow row => ∀ c, WholeIn c (row.amount c)

/-- A call that is refused changes nothing. -/
theorem perform_cases (isDrawerAffectingMethod : String → Bool) (cashDrawer : String) (s : Store) (action : BasketAction) :
    perform isDrawerAffectingMethod cashDrawer s action = s ∨
      (∃ input, action = .refundItem input ∧ basketReversed s input.sessionId = false ∧
        perform isDrawerAffectingMethod cashDrawer s action = refunded isDrawerAffectingMethod cashDrawer s input) ∨
      (∃ refundTransactionId sessionId, action = .undoItemRefund refundTransactionId ∧
        undoableBasket s refundTransactionId = .ok sessionId ∧
        perform isDrawerAffectingMethod cashDrawer s action = undone s refundTransactionId sessionId) ∨
      ∃ row, action = .bookRow row ∧
        perform isDrawerAffectingMethod cashDrawer s action = { s with debts := s.debts.insert row } := by
  cases action with
  | refundItem input =>
    rw [perform]
    rcases done : refundSessionBasketItem isDrawerAffectingMethod s cashDrawer input with refused | s'
    · exact Or.inl rfl
    · obtain ⟨open', rfl⟩ := refundSessionBasketItem_ok done
      exact Or.inr (Or.inl ⟨input, rfl, open', rfl⟩)
  | undoItemRefund refundTransactionId =>
    rw [perform]
    rcases done : undoSessionBasketItemRefund s refundTransactionId with refused | s'
    · exact Or.inl rfl
    · obtain ⟨sessionId, undoable, rfl⟩ := undoSessionBasketItemRefund_ok done
      exact Or.inr (Or.inr (Or.inl ⟨refundTransactionId, sessionId, rfl, undoable, rfl⟩))
  | bookRow row => exact Or.inr (Or.inr (Or.inr ⟨row, rfl, rfl⟩))

theorem Recorded.perform (recorded : Recorded s) {action : BasketAction} (inUnits : ActionInUnits action) :
    Recorded (perform isDrawerAffectingMethod cashDrawer s action) := by
  obtain same | ⟨input, rfl, -, same⟩ | ⟨refundTransactionId, sessionId, rfl, -, same⟩ | ⟨row, rfl, same⟩ :=
    perform_cases isDrawerAffectingMethod cashDrawer s action
  · rwa [same]
  · rw [same]
    exact recorded.refunded inUnits
  · rw [same]
    exact recorded.undone refundTransactionId sessionId
  · rw [same]
    exact recorded.bookRow inUnits

/-- The refunds of a basket draw on no credit that was not there. -/
structure CreditKept (s : Store) (sessionId : Nat) : Prop where
  recorded : Recorded s
  within : ∀ c, priorPreexistingCreditUsed s sessionId c ≤ creditBefore s sessionId c

theorem CreditKept.refunded (kept : CreditKept s sessionId) (inUnits : InUnits input.amount) (c : CoverageCurrency) :
    priorPreexistingCreditUsed (refunded isDrawerAffectingMethod cashDrawer s input) sessionId c ≤
      creditBefore s sessionId c := by
  have within := kept.within c
  rw [priorPreexistingCreditUsed] at within ⊢
  rw [sumPrior_refunded kept.recorded]
  split_ifs with same
  · subst same
    have planned : Planned s isDrawerAffectingMethod input (planSessionItemRefund isDrawerAffectingMethod s input) :=
      planSessionItemRefund_planned kept.recorded inUnits
    have drawn := planned.restored_le c
    rw [preexistingBucket_eq, max_eq_right (sub_nonneg.mpr (kept.within c))] at drawn
    exact le_sub_iff_add_le'.mp drawn
  · rwa [add_zero]

theorem CreditKept.perform (kept : CreditKept s sessionId) {action : BasketAction} (inUnits : ActionInUnits action) :
    CreditKept (perform isDrawerAffectingMethod cashDrawer s action) sessionId := by
  refine ⟨kept.recorded.perform inUnits, fun c => ?_⟩
  obtain same | ⟨input, rfl, -, same⟩ | ⟨refundTransactionId, basket, rfl, -, same⟩ | ⟨row, rfl, same⟩ :=
    perform_cases isDrawerAffectingMethod cashDrawer s action
  · rw [same]
    exact kept.within c
  · rw [same]
    exact (kept.refunded inUnits c).trans (creditBefore_insertAll s _ sessionId c)
  · rw [same]
    have unchanged : priorPreexistingCreditUsed (undone s refundTransactionId basket) sessionId c =
        priorPreexistingCreditUsed s sessionId c :=
      sumPrior_insert kept.recorded (undone s refundTransactionId basket) rfl rfl sessionId _ c
    rw [unchanged]
    exact (kept.within c).trans (creditBefore_insertAll s _ sessionId c)
  · rw [same]
    exact (kept.within c).trans (creditBefore_insert s row sessionId c)

/-- No item of the basket was refunded yet. -/
def NoItemRefunds (s : Store) (sessionId : Nat) : Prop :=
  ∀ id link, s.links.get id = some link → ¬(link.sessionId = sessionId ∧ link.transactionType = sessionItemRefundLinkType)

theorem sumPrior_none (none : NoItemRefunds s sessionId) (figure : Metadata → Amounts) (c : CoverageCurrency) :
    sumPriorSessionItemRefundMeta s sessionId figure c = 0 := by
  rw [sumPrior_eq]
  exact Table.total_eq_zero fun id link found => if_neg (none id link found)

/-- A refund gives back what the item is worth, or all there is, to the cent and two pounds: it takes from the charge what is
on the charge and from the pool what is in the pool, and hands back in cash what it cannot take off the account. The refunds of
a basket together take no more of the credit the client had before the basket than that credit. -/
theorem planSessionItemRefund_once (isDrawerAffectingMethod : String → Bool) (cashDrawer : String) :
    (∀ (s : Store) (input : RefundItem), Recorded s → InUnits input.amount →
      |valueAt input.rate (planSessionItemRefund isDrawerAffectingMethod s input).accountAttributed +
          valueAt input.rate (planSessionItemRefund isDrawerAffectingMethod s input).poolSplit -
        min (valueAt input.rate input.amount) (valueAt input.rate (basketChargeRemaining s input.sessionId) +
          valueAt input.rate (sessionPool s input.sessionId isDrawerAffectingMethod).available)| ≤ 1 / 100 + 2 / input.rate ∧
      ∀ c, (planSessionItemRefund isDrawerAffectingMethod s input).poolSplit c ≤
          (sessionPool s input.sessionId isDrawerAffectingMethod).available c ∧
        (planSessionItemRefund isDrawerAffectingMethod s input).accountAttributed c ≤
          basketChargeRemaining s input.sessionId c ∧
        (planSessionItemRefund isDrawerAffectingMethod s input).accountReduction c +
            (planSessionItemRefund isDrawerAffectingMethod s input).repaidBack c =
          (planSessionItemRefund isDrawerAffectingMethod s input).accountAttributed c ∧
        (planSessionItemRefund isDrawerAffectingMethod s input).restoredFromPreexistingCredit c =
          max 0 ((planSessionItemRefund isDrawerAffectingMethod s input).accountReduction c - stillOwedBucket s input c)) ∧
    ∀ (s : Store) (sessionId : Nat) (actions : List BasketAction), Recorded s → NoItemRefunds s sessionId →
      (∀ action ∈ actions, ActionInUnits action) →
      ∀ c, priorPreexistingCreditUsed (run (perform isDrawerAffectingMethod cashDrawer) s actions) sessionId c ≤
        creditBefore (run (perform isDrawerAffectingMethod cashDrawer) s actions) sessionId c := by
  refine ⟨fun s input recorded inUnits => ?_, fun s sessionId actions recorded none inUnits => ?_⟩
  · obtain ⟨attributed, leaves⟩ := recorded.accountFirst inUnits
    have planned : Planned s isDrawerAffectingMethod input (planSessionItemRefund isDrawerAffectingMethod s input) :=
      planSessionItemRefund_planned recorded inUnits
    refine ⟨?_, fun c => ⟨planned.split_le c, planned.account_le c, planned.parts c, planned.drawn c⟩⟩
    rw [accountAttributed_eq]
    exact returned_near input.ratePositive attributed leaves (poolSplit_givenBack recorded isDrawerAffectingMethod input)
  · have start : CreditKept s sessionId :=
      ⟨recorded, fun c => (sumPrior_none none _ c).trans_le (creditBefore_nonneg s sessionId c)⟩
    have meets : Meets (perform isDrawerAffectingMethod cashDrawer) (fun _ action => ActionInUnits action) s actions :=
      meets_of_forall inUnits s
    have kept : CreditKept (run (perform isDrawerAffectingMethod cashDrawer) s actions) sessionId :=
      run_invariant (fun s action (kept : CreditKept s sessionId) (inUnits : ActionInUnits action) => kept.perform inUnits)
        start meets
    exact kept.within

end

/-! A basket of $140: $100 on the account of a client who had $60 of credit, and $40 in cash. -/

def cashOnly (method : String) : Bool :=
  method = "CASH"

def paidBasket : Store where
  payments :=
    ⟨[some
        { transactionId := none, sessionId := some 1, method := "CASH", drawerName := "General", currencyCode := "USD"
          amount := 40, note := .basketPayment }]⟩
  debts :=
    ⟨[some
        { clientId := 1, sessionId := none, transactionType := "CREDIT_DEPOSIT", transactionId := none
          amount := pair (-60) 0 },
      some
        { clientId := 1, sessionId := some 1, transactionType := sessionDebtType, transactionId := none
          amount := pair 100 0 }]⟩

theorem paidRate_pos : (0 : ℚ) < 90000 := by norm_num

def refundOf (usd : ℚ) : RefundItem where
  sessionId := 1
  amount := pair usd 0
  clientId := none
  rate := 90000
  ratePositive := paidRate_pos

theorem whole_dollars (usd : ℤ) (c : CoverageCurrency) : WholeIn c (pair usd 0 c) := by
  cases c with
  | usd => exact ⟨100 * usd, by rw [scale, Int.cast_mul, Int.cast_ofNat, mul_div_cancel_left₀ _ (by norm_num)]; rfl⟩
  | lbp => exact whole_zero _

theorem paidBasket_recorded : Recorded paidBasket where
  payments id payment found c inCurrency := by
    obtain rfl := Table.get_only found
    obtain rfl : CoverageCurrency.usd = c := currencyCode_inj inCurrency
    exact whole_dollars 40 .usd
  debts id row found c := by
    rcases List.mem_pair.mp (List.mem_of_getElem? (Table.slot_of_get found)) with same | same
    · obtain rfl := Option.some.inj same
      exact whole_dollars (-60) c
    · obtain rfl := Option.some.inj same
      exact whole_dollars 100 c
  figures id transaction metadata found := by
    rw [paidBasket, Table.get_empty] at found
    cases found
  links id link transactionId found := by
    rw [paidBasket, Table.get_empty] at found
    cases found

theorem refundOf_inUnits (usd : ℕ) : InUnits (refundOf usd).amount := by
  refine fun c => ⟨?_, whole_dollars usd c⟩
  cases c with
  | usd => exact Nat.cast_nonneg usd
  | lbp => exact le_rfl

/-- Two items of $50 take the $40 the client still owes and all of the $60. -/
theorem planSessionItemRefund_once_paidBasket :
    priorPreexistingCreditUsed
        (run (perform cashOnly "General") paidBasket [.refundItem (refundOf 50), .refundItem (refundOf 50)]) 1 .usd = 60 ∧
      |valueAt 90000 (planSessionItemRefund cashOnly paidBasket (refundOf 120)).accountAttributed +
          valueAt 90000 (planSessionItemRefund cashOnly paidBasket (refundOf 120)).poolSplit -
        min (valueAt 90000 (refundOf 120).amount) (valueAt 90000 (basketChargeRemaining paidBasket 1) +
          valueAt 90000 (sessionPool paidBasket 1 cashOnly).available)| ≤ 1 / 100 + 2 / 90000 ∧
      ∀ c, priorPreexistingCreditUsed
          (run (perform cashOnly "General") paidBasket [.refundItem (refundOf 50), .refundItem (refundOf 50)]) 1 c ≤
        creditBefore
          (run (perform cashOnly "General") paidBasket [.refundItem (refundOf 50), .refundItem (refundOf 50)]) 1 c := by
  obtain ⟨one, all⟩ := planSessionItemRefund_once cashOnly "General"
  have none : NoItemRefunds paidBasket 1 := fun id link found => by
    rw [paidBasket, Table.get_empty] at found
    cases found
  refine ⟨by decide +kernel, (one paidBasket (refundOf 120) paidBasket_recorded (refundOf_inUnits 120)).1,
    all paidBasket 1 _ paidBasket_recorded none fun action member => ?_⟩
  rcases List.mem_pair.mp member with rfl | rfl
  · exact refundOf_inUnits 50
  · exact refundOf_inUnits 50

end Liratek.Basket.ReturnedOnce
