import Liratek.Basket.Members
import Liratek.Lib.Runs
import Mathlib.Data.List.Nodup
import Mathlib.Tactic.Linarith
import Mathlib.Tactic.Ring

/-! The members of a basket carry the debt of its row. -/

namespace Liratek.Basket.MemberCoverage
open Lib Lib.Runs Members

/-- What a repayment records of one member it paid. -/
structure CoverRecord where
  memberId : Nat
  rowId : Nat
  amount : Amounts

structure History where
  shop : Shop
  /-- the covers not yet undone -/
  covers : Table CoverRecord := {}

inductive CoverAction where
  | cover (memberId : Nat) (amount : Amounts)
  | uncover (recordId : Nat)
  | giveBackRow (rowId : Nat) (amount : Amounts)

def exec (h : History) : CoverAction → History
  | .cover memberId amount =>
    match coverBasketMember h.shop memberId amount with
    | .ok (shop, rowId) =>
      { shop := shop, covers := h.covers.insert { memberId := memberId, rowId := rowId, amount := amount } }
    | .error _ => h
  | .uncover recordId =>
    match h.covers.get recordId with
    | none => h
    | some record =>
      { shop := uncoverBasketMember h.shop record.memberId record.rowId record.amount
        covers := h.covers.delete recordId }
  | .giveBackRow rowId amount => { h with shop := giveBackRow h.shop rowId amount }

/-! What the writers leave as it is. -/

/-- Only the coverage of a debt row changes. -/
structure CoversOnly (change : DebtRow → DebtRow) : Prop where
  sessionId : ∀ row, (change row).sessionId = row.sessionId
  transactionType : ∀ row, (change row).transactionType = row.transactionType
  transactionId : ∀ row, (change row).transactionId = row.transactionId
  amount : ∀ row, (change row).amount = row.amount

theorem coverRow_only (amount : Amounts) : CoversOnly (coverRow amount) :=
  ⟨fun _ => rfl, fun _ => rfl, fun _ => rfl, fun _ => rfl⟩

theorem uncoverRow_only (amount : Amounts) : CoversOnly (uncoverRow amount) :=
  ⟨fun _ => rfl, fun _ => rfl, fun _ => rfl, fun _ => rfl⟩

/-- Only the share of an item changes. -/
structure SharesOnly (change : SessionTransaction → SessionTransaction) : Prop where
  sessionId : ∀ item, (change item).sessionId = item.sessionId
  unifiedTransactionId : ∀ item, (change item).unifiedTransactionId = item.unifiedTransactionId
  transactionType : ∀ item, (change item).transactionType = item.transactionType

theorem coverItem_only (amount : Amounts) : SharesOnly (coverItem amount) :=
  ⟨fun _ => rfl, fun _ => rfl, fun _ => rfl⟩

theorem uncoverItem_only (amount : Amounts) : SharesOnly (uncoverItem amount) :=
  ⟨fun _ => rfl, fun _ => rfl, fun _ => rfl⟩

theorem reopenItem_only (taken extra : Amounts) : SharesOnly (reopenItem taken extra) :=
  ⟨fun _ => rfl, fun _ => rfl, fun _ => rfl⟩

theorem isNonSaleMember_same {change : SessionTransaction → SessionTransaction} (only : SharesOnly change) {s s' : Shop}
    (transactions : s'.transactions = s.transactions) (sessionId : Nat) (item : SessionTransaction) :
    isNonSaleMember s' sessionId (change item) = isNonSaleMember s sessionId item := by
  simp only [isNonSaleMember, typeOf, only.sessionId, only.transactionType, only.unifiedTransactionId, transactions]

section
variable (s : Shop) {change : DebtRow → DebtRow} (only : CoversOnly change) (items : Table SessionTransaction) (rowId : Nat)
include only

/-- Coverage moves no refund credit. -/
theorem memberItemRefundCredit_same (item : SessionTransaction) (currency : CoverageCurrency) :
    memberItemRefundCredit { s with items := items, debts := s.debts.update rowId change } item currency =
      memberItemRefundCredit s item currency := by
  unfold memberItemRefundCredit refundedBy
  dsimp only
  rw [Table.total_update_same]
  intro row
  simp only [only.sessionId, only.transactionType, only.transactionId, only.amount]

theorem sessionItemRefundNetCredit_same (row : DebtRow) (currency : CoverageCurrency) :
    sessionItemRefundNetCredit { s with items := items, debts := s.debts.update rowId change } row currency =
      sessionItemRefundNetCredit s row currency := by
  unfold sessionItemRefundNetCredit typeOf refundedBy
  dsimp only
  rw [Table.total_update_same]
  intro row
  simp only [only.sessionId, only.transactionType, only.transactionId, only.amount]

theorem refundReversed_same (row : DebtRow) (currency : CoverageCurrency) :
    refundReversed { s with items := items, debts := s.debts.update rowId change } row currency =
      refundReversed s row currency := by
  unfold refundReversed
  dsimp only
  rw [Table.total_update_same]
  intro row
  simp only [only.transactionType, only.transactionId, only.amount]

end

/-- What an item counts for in the open amounts of the basket. -/
def openOf (s : Shop) (sessionId : Nat) (currency : CoverageCurrency) (item : SessionTransaction) : ℚ :=
  if isNonSaleMember s sessionId item then memberOutstanding s item currency else 0

theorem openOf_change (s : Shop) {change : SessionTransaction → SessionTransaction} (only : SharesOnly change)
    (sessionId : Nat) (currency : CoverageCurrency) (item : SessionTransaction) :
    openOf s sessionId currency (change item) = openOf s sessionId currency item +
      if isNonSaleMember s sessionId item then
        ((change item).owed currency - (change item).covered currency) - (item.owed currency - item.covered currency)
      else 0 := by
  have credit : memberItemRefundCredit s (change item) currency = memberItemRefundCredit s item currency := by
    unfold memberItemRefundCredit
    rw [only.sessionId, only.unifiedTransactionId]
  unfold openOf memberOutstanding
  rw [isNonSaleMember_same only rfl, credit]
  split_ifs
  · ring
  · exact (add_zero 0).symm

theorem openOf_same (s : Shop) {change : DebtRow → DebtRow} (only : CoversOnly change)
    (items : Table SessionTransaction) (rowId sessionId : Nat) (currency : CoverageCurrency) :
    openOf { s with items := items, debts := s.debts.update rowId change } sessionId currency =
      openOf s sessionId currency := by
  funext item
  unfold openOf memberOutstanding
  rw [memberItemRefundCredit_same s only]
  rfl

/-! The basket and its row. -/

structure IsBasketRow (sessionId : Nat) (row : DebtRow) : Prop where
  session : row.sessionId = some sessionId
  type : row.transactionType = sessionDebtType
  transaction : row.transactionId = none

/-- A basket has no second row. -/
def OneRow (sessionId rowId : Nat) (s : Shop) : Prop :=
  ∀ id row, s.debts.get id = some row → row.sessionId = some sessionId → row.transactionType = sessionDebtType → id = rowId

/-- The basket has one row, and its members carry what the row has open. -/
structure InStep (sessionId rowId : Nat) (s : Shop) : Prop where
  row : ∃ row, s.debts.get rowId = some row ∧ IsBasketRow sessionId row ∧
    ∀ currency, membersOutstanding s sessionId currency = coverageOutstanding s row currency
  only : OneRow sessionId rowId s

theorem OneRow.write {sessionId rowId : Nat} {s : Shop} (oneRow : OneRow sessionId rowId s)
    {change : DebtRow → DebtRow} (only : CoversOnly change) (target : Nat) (items : Table SessionTransaction) :
    OneRow sessionId rowId { s with items := items, debts := s.debts.update target change } := by
  intro id row found session type
  dsimp only at found
  by_cases this : id = target
  · rw [this, Table.get_update_self] at found
    obtain ⟨old, there, rfl⟩ := Option.map_eq_some_iff.mp found
    rw [only.sessionId] at session
    rw [only.transactionType] at type
    rw [this]
    exact oneRow target old there session type
  · rw [Table.get_update_of_ne _ _ this] at found
    exact oneRow id row found session type

theorem IsBasketRow.same {sessionId : Nat} {row : DebtRow} (basket : IsBasketRow sessionId row)
    {change : DebtRow → DebtRow} (only : CoversOnly change) : IsBasketRow sessionId (change row) where
  session := (only.sessionId row).trans basket.session
  type := (only.transactionType row).trans basket.type
  transaction := (only.transactionId row).trans basket.transaction

/-- A write keeps the basket in step when the members' open amounts move as the row's coverage does. -/
theorem InStep.write {sessionId rowId : Nat} {s : Shop} (inStep : InStep sessionId rowId s)
    {change : DebtRow → DebtRow} (only : CoversOnly change) (target : Nat) (items : Table SessionTransaction)
    (moves : ∀ row, s.debts.get rowId = some row → ∀ currency,
      items.total (openOf s sessionId currency) - s.items.total (openOf s sessionId currency) =
        if target = rowId then row.covered currency - (change row).covered currency else 0) :
    InStep sessionId rowId { s with items := items, debts := s.debts.update target change } := by
  obtain ⟨row, found, basket, even⟩ := inStep.row
  constructor
  · refine ⟨_, Table.get_update_of_get found target change, ?_, ?_⟩
    · split_ifs
      · exact basket.same only
      · exact basket
    · intro currency
      have moved := moves row found currency
      have before : s.items.total (openOf s sessionId currency) = coverageOutstanding s row currency := even currency
      change Table.total items (openOf _ sessionId currency) = _
      rw [openOf_same s only]
      unfold coverageOutstanding at before ⊢
      rw [sessionItemRefundNetCredit_same s only, refundReversed_same s only]
      split_ifs at moved ⊢
      · have amount : (change row).amount = row.amount := only.amount row
        have net : sessionItemRefundNetCredit s (change row) currency = sessionItemRefundNetCredit s row currency := by
          unfold sessionItemRefundNetCredit
          rw [only.transactionType, only.sessionId]
        have reversed : refundReversed s (change row) currency = refundReversed s row currency := by
          unfold refundReversed
          rw [only.transactionId]
        rw [amount, net, reversed]
        linarith
      · linarith
  · exact inStep.only.write only target items

/-- One member and one row change. -/
theorem InStep.writeOne {sessionId rowId : Nat} {s : Shop} (inStep : InStep sessionId rowId s) {memberId target : Nat}
    {item : SessionTransaction} (found : s.items.get memberId = some item)
    {share : SessionTransaction → SessionTransaction} (shares : SharesOnly share) {change : DebtRow → DebtRow}
    (only : CoversOnly change)
    (moves : ∀ row, s.debts.get rowId = some row → ∀ currency,
      (if isNonSaleMember s sessionId item then
        ((share item).owed currency - (share item).covered currency) - (item.owed currency - item.covered currency)
      else 0) = if target = rowId then row.covered currency - (change row).covered currency else 0) :
    InStep sessionId rowId
      { s with items := s.items.update memberId share, debts := s.debts.update target change } := by
  apply inStep.write only target
  intro row there currency
  rw [Table.total_update found, openOf_change s shares, ← moves row there currency]
  ring

/-! The items stay the items they are. -/

structure SameKind (item item' : SessionTransaction) : Prop where
  sessionId : item'.sessionId = item.sessionId
  unifiedTransactionId : item'.unifiedTransactionId = item.unifiedTransactionId
  transactionType : item'.transactionType = item.transactionType

theorem SameKind.isNonSaleMember {item item' : SessionTransaction} (same : SameKind item item') {s s' : Shop}
    (transactions : s'.transactions = s.transactions) (sessionId : Nat) :
    isNonSaleMember s' sessionId item' = isNonSaleMember s sessionId item := by
  simp only [Members.isNonSaleMember, typeOf, same.sessionId, same.transactionType, same.unifiedTransactionId, transactions]

/-- Every item is still there. -/
def KeepsItems (items items' : Table SessionTransaction) : Prop :=
  ∀ id item, items.get id = some item → ∃ item', items'.get id = some item' ∧ SameKind item item'

theorem keepsItems_refl (items : Table SessionTransaction) : KeepsItems items items :=
  fun _ item found => ⟨item, found, rfl, rfl, rfl⟩

theorem KeepsItems.trans {a b c : Table SessionTransaction} (first : KeepsItems a b) (second : KeepsItems b c) :
    KeepsItems a c := by
  intro id item found
  obtain ⟨item', found', same⟩ := first id item found
  obtain ⟨item'', found'', same'⟩ := second id item' found'
  exact ⟨item'', found'', same'.sessionId.trans same.sessionId,
    same'.unifiedTransactionId.trans same.unifiedTransactionId, same'.transactionType.trans same.transactionType⟩

theorem keepsItems_update (items : Table SessionTransaction) (target : Nat)
    {share : SessionTransaction → SessionTransaction} (shares : SharesOnly share) :
    KeepsItems items (items.update target share) := by
  intro id item found
  refine ⟨_, Table.get_update_of_get found target share, ?_⟩
  split_ifs
  · exact ⟨shares.sessionId item, shares.unifiedTransactionId item, shares.transactionType item⟩
  · exact ⟨rfl, rfl, rfl⟩

/-! Reopening a basket. -/

/-- The entries of the walk, as the table has them. -/
structure Listed (items : Table SessionTransaction) (entries : List (Nat × SessionTransaction)) : Prop where
  distinct : (entries.map (·.1)).Nodup
  found : ∀ entry ∈ entries, items.get entry.1 = some entry.2

theorem Listed.tail {items : Table SessionTransaction} {entry : Nat × SessionTransaction}
    {rest : List (Nat × SessionTransaction)} (listed : Listed items (entry :: rest)) : Listed items rest where
  distinct := (List.nodup_cons.mp listed.distinct).2
  found e member := listed.found e (List.mem_cons_of_mem entry member)

theorem Listed.next {items : Table SessionTransaction} {entry : Nat × SessionTransaction}
    {rest : List (Nat × SessionTransaction)} (listed : Listed items (entry :: rest))
    (share : SessionTransaction → SessionTransaction) : Listed (items.update entry.1 share) rest where
  distinct := listed.tail.distinct
  found e member := by
    have other : e.1 ≠ entry.1 :=
      fun same => (List.nodup_cons.mp listed.distinct).1 (List.mem_map.mpr ⟨e, member, same⟩)
    rw [Table.get_update_of_ne _ _ other]
    exact listed.tail.found e member

/-- What the members of a walk have covered. -/
def coveredSum (entries : List (Nat × SessionTransaction)) (currency : CoverageCurrency) : ℚ :=
  (entries.map fun entry => max 0 (entry.2.covered currency)).sum

theorem coveredSum_nonneg (entries : List (Nat × SessionTransaction)) (currency : CoverageCurrency) :
    0 ≤ coveredSum entries currency := by
  apply List.sum_nonneg
  intro x member
  obtain ⟨entry, -, rfl⟩ := List.mem_map.mp member
  exact le_max_left ..

theorem reopenMembers_left (entries : List (Nat × SessionTransaction)) (items : Table SessionTransaction) (left : Amounts)
    (nonneg : ∀ currency, 0 ≤ left currency) (currency : CoverageCurrency) :
    (reopenMembers items entries left).2 currency = max 0 (left currency - coveredSum entries currency) := by
  induction entries generalizing items left with
  | nil =>
    change left currency = max 0 (left currency - 0)
    rw [sub_zero, max_eq_right (nonneg currency)]
  | cons entry rest ih =>
    have taken : ∀ c, (left - reopenTake left entry.2.covered) c = max 0 (left c - max 0 (entry.2.covered c)) := by
      intro c
      change left c - min (left c) (max 0 (entry.2.covered c)) = _
      rcases le_total (left c) (max 0 (entry.2.covered c)) with less | more
      · rw [min_eq_left less, sub_self, max_eq_left (sub_nonpos.mpr less)]
      · rw [min_eq_right more, max_eq_right (sub_nonneg.mpr more)]
    unfold reopenMembers
    dsimp only
    rw [ih _ _ fun c => (taken c).symm ▸ le_max_left .., taken]
    have sum : coveredSum (entry :: rest) currency = max 0 (entry.2.covered currency) + coveredSum rest currency :=
      List.sum_cons
    have later := coveredSum_nonneg rest currency
    rw [sum]
    rcases le_total (left currency - max 0 (entry.2.covered currency)) 0 with done | more
    · rw [max_eq_left done, max_eq_left (by linarith), max_eq_left (by linarith)]
    · rw [max_eq_right more, sub_sub]

theorem reopenMembers_keeps (entries : List (Nat × SessionTransaction)) (items : Table SessionTransaction) (left : Amounts) :
    KeepsItems items (reopenMembers items entries left).1 := by
  induction entries generalizing items left with
  | nil => exact keepsItems_refl items
  | cons entry rest ih =>
    unfold reopenMembers
    dsimp only
    refine KeepsItems.trans ?_ (ih _ _)
    split_ifs
    · exact keepsItems_update items entry.1 (reopenItem_only _ _)
    · exact keepsItems_refl items

/-- The walk opens the members by what it takes off. -/
theorem reopenMembers_total (s : Shop) (sessionId : Nat) (counted : Bool) (entries : List (Nat × SessionTransaction))
    (items : Table SessionTransaction) (listed : Listed items entries)
    (kind : ∀ entry ∈ entries, isNonSaleMember s sessionId entry.2 = counted) (left : Amounts)
    (nonneg : ∀ currency, 0 ≤ left currency) (currency : CoverageCurrency) :
    (reopenMembers items entries left).1.total (openOf s sessionId currency) =
      items.total (openOf s sessionId currency) +
        if counted then left currency - (reopenMembers items entries left).2 currency else 0 := by
  induction entries generalizing items left with
  | nil =>
    change items.total (openOf s sessionId currency) = items.total (openOf s sessionId currency) +
      if counted = true then left currency - left currency else 0
    rw [sub_self, ite_self, add_zero]
  | cons entry rest ih =>
    have take : ∀ c, 0 ≤ reopenTake left entry.2.covered c := fun c => le_min (nonneg c) (le_max_left ..)
    have less : ∀ c, 0 ≤ (left - reopenTake left entry.2.covered) c := fun c => sub_nonneg.mpr (min_le_left ..)
    have kind' := fun e member => kind e (List.mem_cons_of_mem entry member)
    have own := kind entry List.mem_cons_self
    unfold reopenMembers
    dsimp only
    split_ifs with some_taken yes yes
    · rw [ih _ (listed.next _) kind' _ less, Table.total_update (listed.found entry List.mem_cons_self),
        openOf_change s (reopenItem_only _ _), own, if_pos yes, if_pos yes]
      simp only [reopenItem, Pi.add_apply, Pi.sub_apply, Pi.zero_apply]
      ring
    · rw [ih _ (listed.next _) kind' _ less, Table.total_update (listed.found entry List.mem_cons_self),
        openOf_change s (reopenItem_only _ _), own, if_neg yes, if_neg yes]
      ring
    · obtain ⟨usd, lbp⟩ := not_or.mp some_taken
      have none : reopenTake left entry.2.covered currency = 0 := by
        cases currency with
        | usd => exact le_antisymm (not_lt.mp usd) (take .usd)
        | lbp => exact le_antisymm (not_lt.mp lbp) (take .lbp)
      rw [ih _ listed.tail kind' _ less, if_pos yes, Pi.sub_apply, none, sub_zero]
    · rw [ih _ listed.tail kind' _ less, if_neg yes]

theorem reopenable_listed (s : Shop) (sessionId : Nat) : Listed s.items (reopenableMembers s sessionId) where
  distinct := by
    rw [reopenableMembers, List.map_reverse, List.nodup_reverse]
    exact Table.select_nodup ..
  found entry member := (Table.mem_select.mp (List.mem_reverse.mp member)).1

theorem reopenable_kind (s : Shop) (sessionId other : Nat) (entry : Nat × SessionTransaction)
    (member : entry ∈ reopenableMembers s other) : isNonSaleMember s sessionId entry.2 = decide (other = sessionId) := by
  obtain ⟨-, chosen⟩ := Table.mem_select.mp (List.mem_reverse.mp member)
  obtain ⟨nonSale, -⟩ := (Bool.and_eq_true _ _).mp chosen
  unfold isNonSaleMember at nonSale ⊢
  obtain ⟨both, type⟩ := (Bool.and_eq_true _ _).mp nonSale
  obtain ⟨session, refund⟩ := (Bool.and_eq_true _ _).mp both
  rw [refund, type, of_decide_eq_true session, Bool.and_true, Bool.and_true]

/-- Every unit of the amount finds a member: what no member had covered raises a share, once it is above the epsilon. -/
def Reopens (s : Shop) (sessionId : Nat) (amount : Amounts) : Prop :=
  (∀ currency, amount currency = 0) ∨ reopenableMembers s sessionId ≠ [] ∧
    ((∀ currency, amount currency ≤ coveredSum (reopenableMembers s sessionId) currency) ∨
      ∃ currency, leftoverEps < amount currency - coveredSum (reopenableMembers s sessionId) currency)

/-- What the walk could not place is raised, or there is nothing of it. -/
theorem Reopens.left {s : Shop} {sessionId : Nat} {amount : Amounts} (reopens : Reopens s sessionId amount)
    {left : Amounts} (remains : ∀ c, left c = max 0 (amount c - coveredSum (reopenableMembers s sessionId) c))
    (small : ¬(leftoverEps < left .usd ∨ leftoverEps < left .lbp)) (currency : CoverageCurrency) : left currency = 0 := by
  rw [remains currency]
  rcases reopens with zero | ⟨-, all | ⟨c, more⟩⟩
  · have covered := coveredSum_nonneg (reopenableMembers s sessionId) currency
    rw [zero currency]
    exact max_eq_left (by linarith)
  · exact max_eq_left (sub_nonpos.mpr (all currency))
  · have raised : leftoverEps < left c := by
      rw [remains c]
      exact lt_max_of_lt_right more
    cases c with
    | usd => exact absurd (Or.inl raised) small
    | lbp => exact absurd (Or.inr raised) small

/-- Reopening writes items only. -/
theorem reopenSession_items (s : Shop) (sessionId : Nat) (amount : Amounts) :
    ∃ items, reopenSession s sessionId amount = { s with items := items } ∧ KeepsItems s.items items := by
  unfold reopenSession
  rcases reopenableMembers s sessionId with _ | ⟨newest, rest⟩
  · exact ⟨s.items, rfl, keepsItems_refl s.items⟩
  · refine ⟨_, rfl, (reopenMembers_keeps (newest :: rest) s.items amount).trans ?_⟩
    split_ifs
    · exact keepsItems_update _ newest.1 (reopenItem_only _ _)
    · exact keepsItems_refl _

/-- What reopening a session does to the open amounts of this basket. -/
theorem reopenSession_total (s : Shop) (sessionId other : Nat) (amount : Amounts) (nonneg : ∀ currency, 0 ≤ amount currency)
    (reopens : other = sessionId → Reopens s sessionId amount) (currency : CoverageCurrency) :
    (reopenSession s other amount).items.total (openOf s sessionId currency) =
      s.items.total (openOf s sessionId currency) + if other = sessionId then amount currency else 0 := by
  have listed := reopenable_listed s other
  have kind := reopenable_kind s sessionId other
  unfold reopenSession
  rcases members : reopenableMembers s other with _ | ⟨newest, rest⟩
  · dsimp only
    split_ifs with own
    · rcases reopens own with zero | ⟨some_member, -⟩
      · rw [zero currency, add_zero]
      · exact absurd (own ▸ members) some_member
    · exact (add_zero _).symm
  · rw [members] at listed kind
    have walk := reopenMembers_total s sessionId (decide (other = sessionId)) _ s.items listed kind amount nonneg currency
    have remains := reopenMembers_left (newest :: rest) s.items amount nonneg
    obtain ⟨item, found, same⟩ :=
      reopenMembers_keeps (newest :: rest) s.items amount newest.1 newest.2 (listed.found _ List.mem_cons_self)
    have counted : isNonSaleMember s sessionId item = decide (other = sessionId) := by
      rw [same.isNonSaleMember rfl, kind _ List.mem_cons_self]
    dsimp only
    generalize reopenMembers s.items (newest :: rest) amount = walked at *
    obtain ⟨items, left⟩ := walked
    dsimp only at walk remains found ⊢
    have raise : ∀ c, max 0 (left c) = left c := fun c => max_eq_right (remains c ▸ le_max_left ..)
    by_cases raised : leftoverEps < left .usd ∨ leftoverEps < left .lbp
    · rw [if_pos raised, Table.total_update found, openOf_change s (reopenItem_only _ _), counted, walk]
      by_cases own : other = sessionId
      · simp only [own, reopenItem, Pi.add_apply, Pi.sub_apply, Pi.zero_apply, raise, decide_true, if_true]
        ring
      · simp only [own, decide_false, Bool.false_eq_true, if_false]
        ring
    · rw [if_neg raised, walk]
      by_cases own : other = sessionId
      · rw [← members, own] at remains
        have spent := (reopens own).left remains raised currency
        simp only [own, spent, decide_true, if_true, sub_zero]
      · simp only [own, decide_false, Bool.false_eq_true, if_false]

/-! What each writer does to a basket in step. -/

theorem coverBasketMember_ok {s s' : Shop} {memberId rowId : Nat} {amount : Amounts}
    (done : coverBasketMember s memberId amount = .ok (s', rowId)) :
    ∃ member, s.items.get memberId = some member ∧
      (∃ row, s.debts.get rowId = some row ∧ IsBasketRow member.sessionId row) ∧
      s' = { s with
        items := s.items.update memberId (coverItem amount)
        debts := s.debts.update rowId (coverRow amount) } := by
  unfold coverBasketMember at done
  rcases found : s.items.get memberId with _ | member
  · rw [found] at done
    cases done
  · rw [found] at done
    dsimp only at done
    rcases head : basketRow s member.sessionId with _ | ⟨id, row⟩
    · rw [head] at done
      cases done
    · rw [head] at done
      dsimp only at done
      split_ifs at done
      cases done
      obtain ⟨there, chosen⟩ := Table.mem_select.mp (List.mem_of_head? head)
      simp only [Bool.and_eq_true, decide_eq_true_eq] at chosen
      exact ⟨member, rfl, ⟨row, there, chosen.1.1, chosen.1.2, chosen.2⟩, rfl⟩

/-- The row of a cover is this basket's row exactly for this basket's members. -/
def Belongs (s : Shop) (sessionId rowId : Nat) (record : CoverRecord) : Prop :=
  ∃ item, s.items.get record.memberId = some item ∧
    (isNonSaleMember s sessionId item = true ↔ record.rowId = rowId)

theorem isNonSaleMember_session {s : Shop} {sessionId : Nat} {item : SessionTransaction}
    (nonSale : isNonSaleMember s sessionId item = true) : item.sessionId = sessionId := by
  unfold isNonSaleMember at nonSale
  simp only [Bool.and_eq_true, decide_eq_true_eq] at nonSale
  exact nonSale.1.1

theorem cover_inStep {sessionId rowId : Nat} {s s' : Shop} (inStep : InStep sessionId rowId s) {memberId target : Nat}
    {amount : Amounts} (nonSale : ∀ item, s.items.get memberId = some item → item.sessionId = sessionId →
      isNonSaleMember s sessionId item = true)
    (done : coverBasketMember s memberId amount = .ok (s', target)) :
    InStep sessionId rowId s' ∧
      Belongs s sessionId rowId { memberId := memberId, rowId := target, amount := amount } := by
  obtain ⟨member, found, ⟨row, there, basket⟩, rfl⟩ := coverBasketMember_ok done
  have belongs : isNonSaleMember s sessionId member = true ↔ target = rowId := by
    constructor
    · intro counted
      have session := basket.session
      rw [isNonSaleMember_session counted] at session
      exact inStep.only target row there session basket.type
    · intro same
      obtain ⟨own, ours, ownBasket, -⟩ := inStep.row
      rw [same, ours] at there
      cases there
      exact nonSale member found (Option.some.inj (basket.session.symm.trans ownBasket.session))
  refine ⟨?_, member, found, belongs⟩
  apply inStep.writeOne found (coverItem_only amount) (coverRow_only amount)
  intro own _ currency
  simp only [belongs, coverItem, coverRow, Pi.add_apply]
  congr 1
  ring

theorem sub_max_sub (x y : ℚ) : x - max 0 (x - y) = min x y := by
  rcases le_total x y with less | more
  · rw [max_eq_left (sub_nonpos.mpr less), min_eq_left less, sub_zero]
  · rw [max_eq_right (sub_nonneg.mpr more), min_eq_right more, sub_sub_cancel]

/-- The member and the row give back the same, whether or not the floor at 0 cuts it short. -/
def GivesBackSame (s : Shop) (record : CoverRecord) : Prop :=
  ∀ item row, s.items.get record.memberId = some item → s.debts.get record.rowId = some row →
    ∀ currency, min (item.covered currency) (record.amount currency) = min (row.covered currency) (record.amount currency)

theorem uncover_inStep {sessionId rowId : Nat} {s : Shop} (inStep : InStep sessionId rowId s) {record : CoverRecord}
    (belongs : Belongs s sessionId rowId record) (same : record.rowId = rowId → GivesBackSame s record) :
    InStep sessionId rowId (uncoverBasketMember s record.memberId record.rowId record.amount) := by
  obtain ⟨item, found, iff⟩ := belongs
  apply inStep.writeOne found (uncoverItem_only record.amount) (uncoverRow_only record.amount)
  intro row there currency
  simp only [iff, uncoverItem, uncoverRow, lowered, sub_max_sub]
  split_ifs with own
  · rw [← same own item row found (own ▸ there) currency, ← sub_max_sub]
    ring
  · rfl

theorem reopenBasketMembers_items (s : Shop) (rowId : Nat) (amount : Amounts) :
    ∃ items, reopenBasketMembers s rowId amount = { s with items := items } ∧ KeepsItems s.items items := by
  unfold reopenBasketMembers
  split_ifs
  · exact ⟨s.items, rfl, keepsItems_refl s.items⟩
  · rcases basketSession s rowId with _ | sessionId
    · exact ⟨s.items, rfl, keepsItems_refl s.items⟩
    · exact reopenSession_items s sessionId amount

/-- The amount is one the row has, and all of it reopens some member. -/
structure GivesBackWhole (s : Shop) (sessionId : Nat) (row : DebtRow) (amount : Amounts) : Prop where
  has : ∀ currency, amount currency ≤ row.covered currency
  reopens : Reopens s sessionId amount

/-- The basket's members open by what its row loses; the members of another basket do not count. -/
theorem reopenBasketMembers_total {sessionId rowId : Nat} {s : Shop} {target : Nat} {amount : Amounts}
    (oneRow : OneRow sessionId rowId s) {row : DebtRow} (found : s.debts.get rowId = some row) (basket : IsBasketRow sessionId row)
    (nonneg : ∀ currency, 0 ≤ amount currency) (reopens : target = rowId → Reopens s sessionId amount)
    (currency : CoverageCurrency) :
    (reopenBasketMembers s target amount).items.total (openOf s sessionId currency) =
      s.items.total (openOf s sessionId currency) + if target = rowId then amount currency else 0 := by
  unfold reopenBasketMembers
  split_ifs with nothing own own
  · have zero : amount currency = 0 := by
      cases currency with
      | usd => exact le_antisymm nothing.1 (nonneg .usd)
      | lbp => exact le_antisymm nothing.2 (nonneg .lbp)
    rw [zero, add_zero]
  · exact (add_zero _).symm
  · have session : basketSession s target = some sessionId := by
      rw [basketSession, own, found, Option.filter, if_pos (decide_eq_true basket.type), Option.bind_some, basket.session]
    rw [session]
    dsimp only
    rw [reopenSession_total s sessionId sessionId amount nonneg (fun _ => reopens own), if_pos rfl]
  · rcases session : basketSession s target with _ | other
    · exact (add_zero _).symm
    · obtain ⟨row', there, same⟩ := Option.bind_eq_some_iff.mp session
      obtain ⟨there, type⟩ := Option.filter_eq_some_iff.mp there
      have different : other ≠ sessionId := by
        intro this
        rw [this] at same
        exact own (oneRow target row' there same (of_decide_eq_true type))
      dsimp only
      rw [reopenSession_total s sessionId other amount nonneg (fun this => absurd this different), if_neg different]

theorem giveBackRow_inStep {sessionId rowId : Nat} {s : Shop} (inStep : InStep sessionId rowId s) {target : Nat}
    {amount : Amounts} (nonneg : ∀ currency, 0 ≤ amount currency)
    (whole : target = rowId → ∀ row, s.debts.get rowId = some row → GivesBackWhole s sessionId row amount) :
    InStep sessionId rowId (giveBackRow s target amount) := by
  obtain ⟨row, found, basket, -⟩ := inStep.row
  have only := uncoverRow_only amount
  obtain ⟨items, reopened, -⟩ :=
    reopenBasketMembers_items { s with debts := s.debts.update target (uncoverRow amount) } target amount
  have found' := Table.get_update_of_get found target (uncoverRow amount)
  have basket' : IsBasketRow sessionId (if target = rowId then uncoverRow amount row else row) := by
    split_ifs
    · exact basket.same only
    · exact basket
  have total := reopenBasketMembers_total (inStep.only.write only target s.items) found' basket' nonneg
    fun own => (whole own row found).reopens
  unfold giveBackRow
  rw [reopened] at total ⊢
  apply inStep.write only target items
  intro row' there currency
  rw [found] at there
  cases there
  have moved := total currency
  rw [openOf_same s only] at moved
  dsimp only at moved
  rw [moved, add_sub_cancel_left]
  split_ifs with own
  · change amount currency = row.covered currency - max 0 (row.covered currency - amount currency)
    rw [sub_max_sub, min_eq_right ((whole own row found).has currency)]
  · rfl

/-! Runs. -/

/-- A cover is of a member of the basket, an undone cover is given back alike on the member and the row, and an older
repayment is given back whole. -/
def StaysInStep (sessionId rowId : Nat) (h : History) : CoverAction → Prop
  | .cover memberId _ => ∀ item, h.shop.items.get memberId = some item → item.sessionId = sessionId →
    isNonSaleMember h.shop sessionId item = true
  | .uncover recordId => ∀ record, h.covers.get recordId = some record → record.rowId = rowId →
    GivesBackSame h.shop record
  | .giveBackRow target amount => (∀ currency, 0 ≤ amount currency) ∧
    (target = rowId → ∀ row, h.shop.debts.get rowId = some row → GivesBackWhole h.shop sessionId row amount)

structure Sound (sessionId rowId : Nat) (h : History) : Prop where
  inStep : InStep sessionId rowId h.shop
  belongs : ∀ id record, h.covers.get id = some record → Belongs h.shop sessionId rowId record

theorem Belongs.keep {sessionId rowId : Nat} {s s' : Shop} {record : CoverRecord}
    (belongs : Belongs s sessionId rowId record) (keeps : KeepsItems s.items s'.items)
    (transactions : s'.transactions = s.transactions) : Belongs s' sessionId rowId record := by
  obtain ⟨item, found, iff⟩ := belongs
  obtain ⟨item', found', same⟩ := keeps record.memberId item found
  refine ⟨item', found', ?_⟩
  rw [same.isNonSaleMember transactions]
  exact iff

theorem exec_sound {sessionId rowId : Nat} {h : History} (sound : Sound sessionId rowId h) (action : CoverAction)
    (stays : StaysInStep sessionId rowId h action) : Sound sessionId rowId (exec h action) := by
  cases action with
  | cover memberId amount =>
    rcases done : coverBasketMember h.shop memberId amount with refused | ⟨shop, target⟩
    · simp only [exec, done]
      exact sound
    · simp only [exec, done]
      obtain ⟨inStep, belongs⟩ := cover_inStep sound.inStep stays done
      obtain ⟨member, found, -, rfl⟩ := coverBasketMember_ok done
      have keeps := keepsItems_update h.shop.items memberId (coverItem_only amount)
      refine ⟨inStep, ?_⟩
      intro id record there
      rcases Table.get_insert there with old | ⟨-, rfl⟩
      · exact (sound.belongs id record old).keep keeps rfl
      · exact belongs.keep keeps rfl
  | uncover recordId =>
    rcases there : h.covers.get recordId with _ | record
    · simp only [exec, there]
      exact sound
    · simp only [exec, there]
      refine ⟨uncover_inStep sound.inStep (sound.belongs recordId record there) (stays record there), ?_⟩
      intro id record' found
      have other : id ≠ recordId := by
        intro this
        rw [this, Table.get_delete_self] at found
        cases found
      rw [Table.get_delete_of_ne _ other] at found
      exact (sound.belongs id record' found).keep (keepsItems_update _ _ (uncoverItem_only _)) rfl
  | giveBackRow target amount =>
    refine ⟨giveBackRow_inStep sound.inStep stays.1 stays.2, ?_⟩
    intro id record found
    obtain ⟨items, reopened, keeps⟩ :=
      reopenBasketMembers_items { h.shop with debts := h.shop.debts.update target (uncoverRow amount) } target amount
    apply (sound.belongs id record found).keep
    · change KeepsItems h.shop.items (giveBackRow h.shop target amount).items
      rw [giveBackRow, reopened]
      exact keeps
    · change (giveBackRow h.shop target amount).transactions = _
      rw [giveBackRow, reopened]

/-- From a basket in step, while every call stays in step, the open amounts of the members add up to what the row has
open after every call. -/
theorem members_in_step (sessionId rowId : Nat) (s : Shop) (start : InStep sessionId rowId s) (actions : List CoverAction)
    (stays : Meets exec (StaysInStep sessionId rowId) { shop := s } actions) (before after : List CoverAction)
    (split : actions = before ++ after) : InStep sessionId rowId (run exec { shop := s } before).shop := by
  subst split
  have keeps : ∀ h action, Sound sessionId rowId h → StaysInStep sessionId rowId h action →
      Sound sessionId rowId (exec h action) := fun _ action sound stays => exec_sound sound action stays
  have sound : Sound sessionId rowId { shop := s } := ⟨start, fun id record found => (by cases found)⟩
  have kept : Sound sessionId rowId (run exec { shop := s } before) := run_invariant keeps sound (meets_append.mp stays).1
  exact kept.inStep

def dollars (amount : ℚ) : Amounts
  | .usd => amount
  | .lbp => 0

/-- A $100 basket of one transfer, of which $30 was repaid when repayments still recorded only the row. -/
def repaidOnce : Shop where
  items := ⟨[some
    { sessionId := 1
      unifiedTransactionId := some 0
      transactionType := "service"
      amount := dollars 100
      owed := dollars 70 }]⟩
  transactions := ⟨[some { type := "FINANCIAL_SERVICE" }]⟩
  debts := ⟨[some
    { clientId := 1
      sessionId := some 1
      transactionType := sessionDebtType
      transactionId := none
      amount := dollars 100
      covered := dollars 30 }]⟩

theorem repaidOnce_inStep : InStep 1 0 repaidOnce where
  row := by
    refine ⟨_, rfl, ⟨rfl, rfl, rfl⟩, ?_⟩
    intro currency
    cases currency <;> decide +kernel
  only := by
    intro id row found _ _
    have below := Table.get_lt found
    exact Nat.lt_one_iff.mp below

/-- The rest is repaid, then the old repayment is voided, then the new one. -/
def oldVoidedFirst : List CoverAction :=
  [.cover 0 (dollars 70), .giveBackRow 0 (dollars 30), .uncover 0]

theorem oldVoidedFirst_not_in_step :
    InStep 1 0 repaidOnce ∧ ¬InStep 1 0 (run exec { shop := repaidOnce } oldVoidedFirst).shop := by
  refine ⟨repaidOnce_inStep, ?_⟩
  intro inStep
  obtain ⟨row, found, -, even⟩ := inStep.row
  have members : membersOutstanding (run exec { shop := repaidOnce } oldVoidedFirst).shop 1 .usd = 70 := by decide +kernel
  have outstanding : ((run exec { shop := repaidOnce } oldVoidedFirst).shop.debts.get 0).map
      (coverageOutstanding (run exec { shop := repaidOnce } oldVoidedFirst).shop · .usd) = some 100 := by decide +kernel
  rw [found, Option.map_some, ← even .usd, members] at outstanding
  norm_num at outstanding

/-- A repayment that is voided before the older one. -/
def newVoidedFirst : List CoverAction :=
  [.cover 0 (dollars 70), .uncover 0]

theorem newVoidedFirst_in_step : InStep 1 0 (run exec { shop := repaidOnce } newVoidedFirst).shop := by
  have cover : StaysInStep 1 0 { shop := repaidOnce } (.cover 0 (dollars 70)) := by
    intro item found _
    cases found
    decide
  have covered : coverBasketMember repaidOnce 0 (dollars 70) = .ok ({ repaidOnce with
      items := repaidOnce.items.update 0 (coverItem (dollars 70))
      debts := repaidOnce.debts.update 0 (coverRow (dollars 70)) }, 0) :=
    if_pos ⟨by decide +kernel, by decide +kernel⟩
  have uncover : StaysInStep 1 0 (exec { shop := repaidOnce } (.cover 0 (dollars 70))) (.uncover 0) := by
    simp only [exec, covered]
    intro record found _ item row member there currency
    cases found
    cases member
    cases there
    cases currency <;> decide +kernel
  exact members_in_step 1 0 repaidOnce repaidOnce_inStep newVoidedFirst ⟨cover, uncover, trivial⟩ newVoidedFirst [] rfl

end Liratek.Basket.MemberCoverage
