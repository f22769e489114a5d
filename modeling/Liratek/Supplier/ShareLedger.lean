import Liratek.Lib.Rounding
import Liratek.Lib.Runs
import Liratek.Supplier.OwedShares
import Mathlib.Tactic.Linarith

/-! The owed shares of an account over any sequence of settlements and undos. -/

namespace Liratek.Supplier.ShareLedger
open Lib Lib.Calls Lib.Runs Money.AccountSettle Money.LargestRemainder OwedShares

/-! Which settlements stand, and what they collected. -/

def IsActive (s : Account) (settlementId : Nat) : Prop :=
  ∃ settlement, s.settlements.get settlementId = some settlement ∧ settlement.status = .active

def Collected (s : Account) (settlementId shareId : Nat) : Prop :=
  ∃ settlement, s.settlements.get settlementId = some settlement ∧ shareId ∈ settlement.collected

/-- The shares record who created and who collected them. `n` settlements were made. -/
structure Linked (shares : Table OwedShare) (n : Nat) (active : Nat → Prop) (collected : Nat → Nat → Prop) : Prop where
  creator : ∀ id share, shares.get id = some share → share.createdSettlement < n
  reversed : ∀ id share, shares.get id = some share → (share.isReversed = true ↔ ¬active share.createdSettlement)
  cleared : ∀ id share, shares.get id = some share → ∀ t,
    share.clearedSettlement = some t ↔ active t ∧ collected t id
  known : ∀ t id, active t → collected t id → ∃ share, shares.get id = some share

theorem isLive_iff {share : OwedShare} : isLive share = true ↔ share.isReversed = false ∧ share.clearedSettlement = none := by
  unfold isLive
  rw [Bool.and_eq_true, Bool.not_eq_true', Option.isNone_iff_eq_none]

section
variable {shares : Table OwedShare} {n : Nat} {active : Nat → Prop} {collected : Nat → Nat → Prop}

/-- A live share is collected. -/
theorem Linked.clear (linked : Linked shares n active collected) {t shareId : Nat} (running : active t)
    {share : OwedShare} (found : shares.get shareId = some share) (live : isLive share = true) :
    Linked (shares.update shareId (clearShare t)) n active fun t' id => collected t' id ∨ t' = t ∧ id = shareId := by
  obtain ⟨-, free⟩ := isLive_iff.mp live
  constructor
  · intro id share' here
    by_cases this : id = shareId
    · rw [this, Table.get_update_self, found] at here
      cases here
      exact linked.creator shareId share found
    · rw [Table.get_update_of_ne _ _ this] at here
      exact linked.creator id share' here
  · intro id share' here
    by_cases this : id = shareId
    · rw [this, Table.get_update_self, found] at here
      cases here
      exact linked.reversed shareId share found
    · rw [Table.get_update_of_ne _ _ this] at here
      exact linked.reversed id share' here
  · intro id share' here t'
    by_cases this : id = shareId
    · rw [this, Table.get_update_self, found] at here
      cases here
      constructor
      · intro same
        cases same
        exact ⟨running, Or.inr ⟨rfl, this⟩⟩
      · rintro ⟨other, earlier | ⟨rfl, -⟩⟩
        · have held := (linked.cleared shareId share found t').mpr ⟨other, this ▸ earlier⟩
          rw [free] at held
          cases held
        · rfl
    · rw [Table.get_update_of_ne _ _ this] at here
      rw [linked.cleared id share' here t']
      simp [this]
  · intro t' id other holds
    rcases holds with earlier | ⟨-, rfl⟩
    · obtain ⟨share', there⟩ := linked.known t' id other earlier
      exact ⟨_, Table.get_update_of_get there shareId _⟩
    · exact ⟨_, Table.get_update_of_get found id _⟩

theorem Linked.create (linked : Linked shares n active collected) {t : Nat} (running : active t) (below : t < n)
    (share : ShareToCreate) : Linked (shares.insert (createdShare t share)) n active collected := by
  constructor
  · intro id share' here
    rcases Table.get_insert here with old | ⟨-, rfl⟩
    · exact linked.creator id share' old
    · exact below
  · intro id share' here
    rcases Table.get_insert here with old | ⟨-, rfl⟩
    · exact linked.reversed id share' old
    · exact ⟨fun none => (nomatch none), fun gone => absurd running gone⟩
  · intro id share' here t'
    rcases Table.get_insert here with old | ⟨rfl, rfl⟩
    · exact linked.cleared id share' old t'
    · constructor
      · exact fun none => nomatch none
      · rintro ⟨other, holds⟩
        obtain ⟨share', there⟩ := linked.known t' _ other holds
        rw [Table.get_of_le (le_refl _)] at there
        cases there
  · intro t' id other holds
    obtain ⟨share', there⟩ := linked.known t' id other holds
    exact ⟨share', Table.get_insert_of_get there⟩

/-- A new settlement that has collected nothing. -/
theorem Linked.start (linked : Linked shares n active collected) (fresh : ∀ id, ¬collected n id) :
    Linked shares (n + 1) (fun t => active t ∨ t = n) collected := by
  constructor
  · exact fun id share here => (linked.creator id share here).trans (Nat.lt_succ_self n)
  · intro id share here
    have earlier := linked.creator id share here
    rw [linked.reversed id share here]
    simp only [not_or, earlier.ne, not_false_eq_true, and_true]
  · intro id share here t
    rw [linked.cleared id share here t]
    constructor
    · exact fun holds => ⟨Or.inl holds.1, holds.2⟩
    · rintro ⟨old | rfl, holds⟩
      · exact ⟨old, holds⟩
      · exact absurd holds (fresh id)
  · rintro t id (old | rfl) holds
    · exact linked.known t id old holds
    · exact absurd holds (fresh id)

end

/-! The rows that stand for shares OMT paid ahead. -/

/-- A row for shares that were paid ahead, and that still counts. -/
def stands (row : LedgerRow) : Bool :=
  (match row.note with
    | .sharesAhead _ => true
    | .written _ => false) && !row.isRefunded

@[simp] theorem stands_refundRow (row : LedgerRow) : stands (refundRow row) = false :=
  Bool.and_false _

/-- What the shares a row stands for are worth. -/
def worth (shares : Table OwedShare) (rowId : Nat) (currency : Currency) : ℚ :=
  shares.total fun share =>
    if share.reliefLedgerId = some rowId then if share.currency = currency then share.amount else 0 else 0

structure Relieved (shares : Table OwedShare) (ledger : Table LedgerRow) : Prop where
  positive : ∀ id share, shares.get id = some share → 0 < share.amount
  whole : ∀ id share, shares.get id = some share → roundMoney share.amount share.currency = share.amount
  /-- exactly the shares that were paid ahead have a row -/
  ahead : ∀ id share, shares.get id = some share →
    (share.reliefLedgerId.isSome = true ↔ share.isReversed = true ∧ share.clearedSettlement.isSome = true)
  row : ∀ id share r, shares.get id = some share → share.reliefLedgerId = some r →
    ∃ row, ledger.get r = some row ∧ stands row = true
  amounts : ∀ r row, ledger.get r = some row → stands row = true → ∀ currency,
    row.amount currency = worth shares r currency
  backed : ∀ r row, ledger.get r = some row → stands row = true → ∃ currency, 0 < row.amount currency

section
variable {shares : Table OwedShare} {ledger : Table LedgerRow}

theorem Relieved.none_of_live (relieved : Relieved shares ledger) {id : Nat} {share : OwedShare}
    (found : shares.get id = some share) (live : share.isReversed = false) : share.reliefLedgerId = none := by
  have iff := relieved.ahead id share found
  rw [live] at iff
  rcases held : share.reliefLedgerId with _ | r
  · rfl
  · rw [held] at iff
    have both := iff.mp rfl
    cases both.1

theorem Relieved.clear (relieved : Relieved shares ledger) (t : Nat) {shareId : Nat} {share : OwedShare}
    (found : shares.get shareId = some share) (live : isLive share = true) :
    Relieved (shares.update shareId (clearShare t)) ledger := by
  obtain ⟨unreversed, -⟩ := isLive_iff.mp live
  have relief := relieved.none_of_live found unreversed
  have same : ∀ r currency, worth (shares.update shareId (clearShare t)) r currency = worth shares r currency :=
    fun r currency => Table.total_update_same shares shareId fun _ => rfl
  constructor
  · intro id share' here
    by_cases this : id = shareId
    · rw [this, Table.get_update_self, found] at here
      cases here
      exact relieved.positive shareId share found
    · rw [Table.get_update_of_ne _ _ this] at here
      exact relieved.positive id share' here
  · intro id share' here
    by_cases this : id = shareId
    · rw [this, Table.get_update_self, found] at here
      cases here
      exact relieved.whole shareId share found
    · rw [Table.get_update_of_ne _ _ this] at here
      exact relieved.whole id share' here
  · intro id share' here
    by_cases this : id = shareId
    · rw [this, Table.get_update_self, found] at here
      cases here
      simp [clearShare, relief, unreversed]
    · rw [Table.get_update_of_ne _ _ this] at here
      exact relieved.ahead id share' here
  · intro id share' r here held
    by_cases this : id = shareId
    · rw [this, Table.get_update_self, found] at here
      cases here
      change share.reliefLedgerId = some r at held
      rw [relief] at held
      cases held
    · rw [Table.get_update_of_ne _ _ this] at here
      exact relieved.row id share' r here held
  · intro r row here counts currency
    rw [same]
    exact relieved.amounts r row here counts currency
  · exact relieved.backed

theorem Relieved.create (relieved : Relieved shares ledger) (t : Nat) (share : ShareToCreate) :
    Relieved (shares.insert (createdShare t share)) ledger := by
  constructor
  · intro id share' here
    rcases Table.get_insert here with old | ⟨-, rfl⟩
    · exact relieved.positive id share' old
    · exact share.positive
  · intro id share' here
    rcases Table.get_insert here with old | ⟨-, rfl⟩
    · exact relieved.whole id share' old
    · exact share.whole
  · intro id share' here
    rcases Table.get_insert here with old | ⟨-, rfl⟩
    · exact relieved.ahead id share' old
    · simp [createdShare]
  · intro id share' r here held
    rcases Table.get_insert here with old | ⟨-, rfl⟩
    · exact relieved.row id share' r old held
    · cases held
  · intro r row here counts currency
    rw [relieved.amounts r row here counts currency, worth, worth, Table.total_insert]
    exact (add_zero _).symm
  · exact relieved.backed

/-- A row that stands for nothing comes, or changes. -/
theorem Relieved.insertRow (relieved : Relieved shares ledger) {row : LedgerRow} (other : stands row = false) :
    Relieved shares (ledger.insert row) where
  positive := relieved.positive
  whole := relieved.whole
  ahead := relieved.ahead
  row := by
    intro id share r here held
    obtain ⟨row', found, counts⟩ := relieved.row id share r here held
    exact ⟨row', Table.get_insert_of_get found, counts⟩
  amounts := by
    intro r row' here counts
    rcases Table.get_insert here with old | ⟨-, rfl⟩
    · exact relieved.amounts r row' old counts
    · rw [other] at counts
      cases counts
  backed := by
    intro r row' here counts
    rcases Table.get_insert here with old | ⟨-, rfl⟩
    · exact relieved.backed r row' old counts
    · rw [other] at counts
      cases counts

theorem Relieved.refundOther (relieved : Relieved shares ledger) {rowId : Nat}
    (other : ∀ row, ledger.get rowId = some row → stands row = false) :
    Relieved shares (ledger.update rowId refundRow) where
  positive := relieved.positive
  whole := relieved.whole
  ahead := relieved.ahead
  row := by
    intro id share r here held
    obtain ⟨row, found, counts⟩ := relieved.row id share r here held
    by_cases this : r = rowId
    · rw [other row (this ▸ found)] at counts
      cases counts
    · exact ⟨row, by rw [Table.get_update_of_ne _ _ this, found], counts⟩
  amounts := by
    intro r row here counts
    by_cases this : r = rowId
    · rw [this, Table.get_update_self] at here
      obtain ⟨old, -, rfl⟩ := Option.map_eq_some_iff.mp here
      rw [stands_refundRow] at counts
      cases counts
    · rw [Table.get_update_of_ne _ _ this] at here
      exact relieved.amounts r row here counts
  backed := by
    intro r row here counts
    by_cases this : r = rowId
    · rw [this, Table.get_update_self] at here
      obtain ⟨old, -, rfl⟩ := Option.map_eq_some_iff.mp here
      rw [stands_refundRow] at counts
      cases counts
    · rw [Table.get_update_of_ne _ _ this] at here
      exact relieved.backed r row here counts

end

/-! A settlement. -/

/-- With what a running settlement has collected so far. -/
def AlsoCollected (collected : Nat → Nat → Prop) (settlementId : Nat) (shareIds : List Nat) : Nat → Nat → Prop :=
  fun t id => collected t id ∨ t = settlementId ∧ id ∈ shareIds

theorem Linked.congr {shares : Table OwedShare} {n : Nat} {active active' : Nat → Prop} {collected collected' : Nat → Nat → Prop}
    (linked : Linked shares n active collected) (sameActive : ∀ t, active t ↔ active' t)
    (sameCollected : ∀ t id, collected t id ↔ collected' t id) : Linked shares n active' collected' := by
  have one : active = active' := funext fun t => propext (sameActive t)
  have two : collected = collected' := funext fun t => funext fun id => propext (sameCollected t id)
  rw [← one, ← two]
  exact linked

section
variable {shares shares' : Table OwedShare} {ledger : Table LedgerRow} {n t : Nat} {active : Nat → Prop}
  {collected : Nat → Nat → Prop} {name : String}

theorem clearShares_sound {ids done : List Nat} (running : active t)
    (linked : Linked shares n active (AlsoCollected collected t done)) (relieved : Relieved shares ledger)
    (cleared : clearShares name t shares ids = .ok shares') :
    Linked shares' n active (AlsoCollected collected t (done ++ ids)) ∧ Relieved shares' ledger := by
  induction ids generalizing shares done with
  | nil =>
    cases cleared
    rw [List.append_nil]
    exact ⟨linked, relieved⟩
  | cons shareId rest ih =>
    obtain ⟨next, one, others⟩ := bind_ok cleared
    unfold clearOne at one
    split_ifs at one with live
    cases one
    obtain ⟨share, found, live⟩ : ∃ share, shares.get shareId = some share ∧ isLive share = true := by
      rcases found : shares.get shareId with _ | share
      · rw [found] at live
        cases live
      · rw [found] at live
        exact ⟨share, rfl, live⟩
    have linkedNext : Linked (shares.update shareId (clearShare t)) n active (AlsoCollected collected t (done ++ [shareId])) := by
      apply (linked.clear running found live).congr (fun _ => Iff.rfl)
      intro t' id
      unfold AlsoCollected
      rw [List.mem_append, List.mem_singleton]
      tauto
    have final := ih linkedNext (relieved.clear t found live) others
    rwa [List.append_assoc, List.singleton_append] at final

theorem createShares_sound (toCreate : List ShareToCreate) (running : active t) (below : t < n)
    (linked : Linked shares n active collected) (relieved : Relieved shares ledger) :
    Linked (createShares t shares toCreate) n active collected ∧ Relieved (createShares t shares toCreate) ledger := by
  induction toCreate generalizing shares with
  | nil => exact ⟨linked, relieved⟩
  | cons share rest ih => exact ih (linked.create running below share) (relieved.create t share)

theorem applyPlans_sound {plans : List SectionPlan} {done : List Nat} (running : active t) (below : t < n)
    (linked : Linked shares n active (AlsoCollected collected t done)) (relieved : Relieved shares ledger)
    (applied : applyPlans name t shares plans = .ok shares') :
    Linked shares' n active (AlsoCollected collected t (done ++ plans.flatMap (·.sharesToClear))) ∧
      Relieved shares' ledger := by
  induction plans generalizing shares done with
  | nil =>
    cases applied
    rw [List.flatMap_nil, List.append_nil]
    exact ⟨linked, relieved⟩
  | cons plan rest ih =>
    obtain ⟨next, one, others⟩ := bind_ok applied
    obtain ⟨linkedNext, relievedNext⟩ := clearShares_sound running linked relieved one
    obtain ⟨linkedNew, relievedNew⟩ := createShares_sound plan.sharesToCreate running below linkedNext relievedNext
    have final := ih linkedNew relievedNew others
    rwa [List.append_assoc, ← List.flatMap_cons] at final

end

/-- The account in step. -/
structure InStep (s : Account) : Prop where
  linked : Linked s.shares s.settlements.nextId (IsActive s) (Collected s)
  relieved : Relieved s.shares s.ledger
  anchored : ∀ t settlement, s.settlements.get t = some settlement →
    ∃ row, s.ledger.get settlement.anchorLedgerId = some row ∧ stands row = false

theorem settle_inStep {s s' : Account} (inStep : InStep s) {name : String} {anchor : AnchorRow} {plans : List SectionPlan}
    (done : settle s name anchor plans = .ok s') : InStep s' := by
  obtain ⟨shares, applied, rfl⟩ := map_ok done
  have fresh : ∀ id, ¬Collected s s.settlements.nextId id := by
    rintro id ⟨settlement, found, -⟩
    rw [Table.get_of_le (le_refl _)] at found
    cases found
  have start : Linked s.shares (s.settlements.nextId + 1) (fun t => IsActive s t ∨ t = s.settlements.nextId)
      (AlsoCollected (Collected s) s.settlements.nextId []) := by
    apply (inStep.linked.start fresh).congr (fun _ => Iff.rfl)
    intro t id
    simp [AlsoCollected]
  obtain ⟨linked, relieved⟩ :=
    applyPlans_sound (Or.inr rfl) (Nat.lt_succ_self _) start inStep.relieved applied
  constructor
  · dsimp only
    rw [Table.nextId_insert]
    apply linked.congr
    · intro t
      constructor
      · rintro (⟨settlement, found, running⟩ | rfl)
        · exact ⟨settlement, Table.get_insert_of_get found, running⟩
        · exact ⟨_, Table.get_insert_self _ _, rfl⟩
      · rintro ⟨settlement, found, running⟩
        rcases Table.get_insert found with old | ⟨rfl, -⟩
        · exact Or.inl ⟨settlement, old, running⟩
        · exact Or.inr rfl
    · intro t id
      constructor
      · rintro (⟨settlement, found, member⟩ | ⟨rfl, member⟩)
        · exact ⟨settlement, Table.get_insert_of_get found, member⟩
        · exact ⟨_, Table.get_insert_self _ _, member⟩
      · rintro ⟨settlement, found, member⟩
        rcases Table.get_insert found with old | ⟨rfl, rfl⟩
        · exact Or.inl ⟨settlement, old, member⟩
        · exact Or.inr ⟨rfl, member⟩
  · exact relieved.insertRow rfl
  · intro t settlement found
    rcases Table.get_insert found with old | ⟨-, rfl⟩
    · obtain ⟨row, there, other⟩ := inStep.anchored t settlement old
      exact ⟨row, Table.get_insert_of_get there, other⟩
    · exact ⟨anchorRow anchor, Table.get_insert_self _ _, rfl⟩

end Liratek.Supplier.ShareLedger
