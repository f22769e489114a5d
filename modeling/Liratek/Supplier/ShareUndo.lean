import Liratek.Supplier.ShareLedger

/-! Undos of settlements, in any order: what is owed, collected and paid ahead stays in step. -/

namespace Liratek.Supplier.ShareUndo
open Lib Lib.Calls Lib.Runs Lib.Rounding Money.AccountSettle Money.LargestRemainder OwedShares ShareLedger

/-- What the undo of a settlement makes of a share. -/
def undoneShare (settlementId : Nat) (ids : Currency → Option Nat) (share : OwedShare) : OwedShare :=
  let reopened := if collectedBy settlementId share then unclearShare share else share
  if isCreatedBy settlementId reopened then reverseShare ids reopened else reopened

section
variable (settlementId : Nat) (ids : Currency → Option Nat) (share : OwedShare)

theorem undoneShare_created : (undoneShare settlementId ids share).createdSettlement = share.createdSettlement := by
  unfold undoneShare
  dsimp only
  split_ifs <;> rfl

theorem undoneShare_cleared : (undoneShare settlementId ids share).clearedSettlement =
    if share.clearedSettlement = some settlementId then none else share.clearedSettlement := by
  by_cases this : share.clearedSettlement = some settlementId
  · have collected : collectedBy settlementId share = true := decide_eq_true this
    unfold undoneShare
    rw [if_pos this, if_pos collected]
    dsimp only
    split_ifs <;> rfl
  · have kept : ¬collectedBy settlementId share = true := by
      unfold collectedBy
      rwa [decide_eq_true_eq]
    unfold undoneShare
    rw [if_neg this, if_neg kept]
    dsimp only
    split_ifs <;> rfl

theorem undoneShare_reversed : (undoneShare settlementId ids share).isReversed = true ↔
    share.isReversed = true ∨ share.createdSettlement = settlementId := by
  have reopened : ∀ other : OwedShare, other.isReversed = share.isReversed →
      other.createdSettlement = share.createdSettlement →
        ((if isCreatedBy settlementId other then reverseShare ids other else other).isReversed = true ↔
          share.isReversed = true ∨ share.createdSettlement = settlementId) := by
    intro other reversed created
    rw [← reversed, ← created]
    unfold isCreatedBy
    rcases gone : other.isReversed with _ | _
    · by_cases this : other.createdSettlement = settlementId
      · simp [this, reverseShare]
      · simp [this, gone]
    · simp [gone]
  unfold undoneShare
  by_cases collected : collectedBy settlementId share = true
  · rw [if_pos collected]
    exact reopened (unclearShare share) rfl rfl
  · rw [if_neg collected]
    exact reopened share rfl rfl

end

/-- Undoing a settlement takes it out of the active ones. -/
theorem Linked.undo {shares : Table OwedShare} {n : Nat} {active : Nat → Prop} {collected : Nat → Nat → Prop}
    (linked : Linked shares n active collected) (t : Nat) (ids : Currency → Option Nat) :
    Linked ((shares.updateWhere (collectedBy t) unclearShare).updateWhere (isCreatedBy t) (reverseShare ids)) n
      (fun t' => active t' ∧ t' ≠ t) collected := by
  have there : ∀ id share',
      ((shares.updateWhere (collectedBy t) unclearShare).updateWhere (isCreatedBy t) (reverseShare ids)).get id =
        some share' → ∃ share, shares.get id = some share ∧ undoneShare t ids share = share' := by
    intro id share' here
    rw [Table.get_updateWhere, Table.get_updateWhere, Option.map_map] at here
    exact Option.map_eq_some_iff.mp here
  constructor
  · intro id share' here
    obtain ⟨share, found, rfl⟩ := there id share' here
    rw [undoneShare_created]
    exact linked.creator id share found
  · intro id share' here
    obtain ⟨share, found, rfl⟩ := there id share' here
    rw [undoneShare_reversed, undoneShare_created, linked.reversed id share found]
    tauto
  · intro id share' here t'
    obtain ⟨share, found, rfl⟩ := there id share' here
    have held := linked.cleared id share found
    rw [undoneShare_cleared]
    split_ifs with this
    · constructor
      · exact fun none => nomatch none
      · intro ⟨⟨running, other⟩, took⟩
        have same := (held t').mpr ⟨running, took⟩
        rw [this] at same
        cases same
        exact absurd rfl other
    · rw [held t']
      constructor
      · rintro ⟨running, took⟩
        refine ⟨⟨running, ?_⟩, took⟩
        rintro rfl
        exact this ((held t').mpr ⟨running, took⟩)
      · exact fun holds => ⟨holds.1.1, holds.2⟩
  · intro t' id running took
    obtain ⟨share, found⟩ := linked.known t' id running.1 took
    exact ⟨undoneShare t ids share, by rw [Table.get_updateWhere, Table.get_updateWhere, found]; rfl⟩

/-! What was collected is owed again, and its relief rows are given back. -/

def relievedBy (r : Nat) (entry : Nat × OwedShare) : Bool :=
  entry.2.reliefLedgerId = some r

theorem refundReliefs_get (ledger : Table LedgerRow) (cleared : List (Nat × OwedShare)) (r : Nat) :
    (refundReliefs ledger cleared).get r =
      if cleared.any (relievedBy r) then (ledger.get r).map refundRow else ledger.get r := by
  induction cleared generalizing ledger with
  | nil => rfl
  | cons entry rest ih =>
    unfold refundReliefs at ih ⊢
    rw [List.foldl_cons, ih, List.any_cons]
    have first : relievedBy r entry = decide (entry.2.reliefLedgerId = some r) := rfl
    rw [first]
    rcases held : entry.2.reliefLedgerId with _ | rowId
    · rfl
    · dsimp only
      by_cases this : rowId = r
      · rw [this, Table.get_update_self, Option.map_map, decide_eq_true rfl, Bool.true_or, if_pos rfl]
        split_ifs <;> rfl
      · rw [Table.get_update_of_ne _ _ (Ne.symm this), decide_eq_false (fun same => this (Option.some.inj same)),
          Bool.false_or]

/-- Each relief row of a share the settlement collected stands for nothing that another one collected. -/
def ReliefsApart (shares : Table OwedShare) (settlementId : Nat) : Prop :=
  ∀ id share other share' r, shares.get id = some share → shares.get other = some share' →
    share.clearedSettlement = some settlementId → share.reliefLedgerId = some r → share'.reliefLedgerId = some r →
      share'.clearedSettlement = some settlementId

instance (shares : Table OwedShare) (settlementId : Nat) : Decidable (ReliefsApart shares settlementId) :=
  decidable_of_iff (∀ entry ∈ shares.rows, ∀ other ∈ shares.rows, entry.2.clearedSettlement = some settlementId →
      entry.2.reliefLedgerId.isSome = true → other.2.reliefLedgerId = entry.2.reliefLedgerId →
        other.2.clearedSettlement = some settlementId) <| by
    constructor
    · intro apart id share other share' r found found' took held held'
      exact apart (id, share) (Table.mem_rows.mpr found) (other, share') (Table.mem_rows.mpr found') took
        (by rw [held]; rfl) (held'.trans held.symm)
    · intro apart entry member other member' took some same
      obtain ⟨r, held⟩ := Option.isSome_iff_exists.mp some
      exact apart entry.1 entry.2 other.1 other.2 r (Table.mem_rows.mp member) (Table.mem_rows.mp member') took held
        (same.trans held)

section
variable {shares : Table OwedShare} {ledger : Table LedgerRow} {t : Nat}

theorem refundReliefs_stands {r : Nat} {row : LedgerRow}
    (here : (refundReliefs ledger (shares.select (collectedBy t))).get r = some row) (counts : stands row = true) :
    ledger.get r = some row ∧ ∀ id share, shares.get id = some share → share.clearedSettlement = some t →
      share.reliefLedgerId ≠ some r := by
  rw [refundReliefs_get] at here
  split_ifs at here with given
  · obtain ⟨old, -, rfl⟩ := Option.map_eq_some_iff.mp here
    rw [stands_refundRow] at counts
    cases counts
  · refine ⟨here, ?_⟩
    intro id share found took held
    exact given (List.any_eq_true.mpr
      ⟨(id, share), Table.mem_select.mpr ⟨found, decide_eq_true took⟩, decide_eq_true held⟩)

theorem Relieved.reopen (relieved : Relieved shares ledger) (apart : ReliefsApart shares t) :
    Relieved (shares.updateWhere (collectedBy t) unclearShare) (refundReliefs ledger (shares.select (collectedBy t))) := by
  have there : ∀ id share', (shares.updateWhere (collectedBy t) unclearShare).get id = some share' →
      ∃ share, shares.get id = some share ∧
        (share.clearedSettlement = some t ∧ share' = unclearShare share ∨
          share.clearedSettlement ≠ some t ∧ share' = share) := by
    intro id share' here
    rw [Table.get_updateWhere] at here
    obtain ⟨share, found, rfl⟩ := Option.map_eq_some_iff.mp here
    refine ⟨share, found, ?_⟩
    split_ifs with took
    · exact Or.inl ⟨of_decide_eq_true took, rfl⟩
    · exact Or.inr ⟨fun same => took (decide_eq_true same), rfl⟩
  constructor
  · intro id share' here
    obtain ⟨share, found, ⟨-, rfl⟩ | ⟨-, rfl⟩⟩ := there id share' here
    · exact relieved.positive id share found
    · exact relieved.positive id share' found
  · intro id share' here
    obtain ⟨share, found, ⟨-, rfl⟩ | ⟨-, rfl⟩⟩ := there id share' here
    · exact relieved.whole id share found
    · exact relieved.whole id share' found
  · intro id share' here
    obtain ⟨share, found, ⟨-, rfl⟩ | ⟨-, rfl⟩⟩ := there id share' here
    · simp [unclearShare]
    · exact relieved.ahead id share' found
  · intro id share' r here held
    obtain ⟨share, found, ⟨-, rfl⟩ | ⟨other, rfl⟩⟩ := there id share' here
    · cases held
    · obtain ⟨row, there, counts⟩ := relieved.row id share' r found held
      refine ⟨row, ?_, counts⟩
      rw [refundReliefs_get, if_neg, there]
      intro given
      obtain ⟨⟨id', share''⟩, selected, relief⟩ := List.any_eq_true.mp given
      obtain ⟨found', took⟩ := Table.mem_select.mp selected
      exact other (apart id' share'' id share' r found' found (of_decide_eq_true took) (of_decide_eq_true relief) held)
  · intro r row here counts currency
    obtain ⟨old, untouched⟩ := refundReliefs_stands here counts
    rw [relieved.amounts r row old counts currency, worth, worth, Table.total_updateWhere]
    apply Table.total_congr
    intro id share found
    by_cases took : collectedBy t share = true
    · rw [if_pos took, if_neg (untouched id share found (of_decide_eq_true took)), if_neg]
      intro none
      cases none
    · rw [if_neg took]
  · intro r row here counts
    exact relieved.backed r row (refundReliefs_stands here counts).1 counts

end

/-! The shares it left owed stop existing. What was already collected of them gets its relief rows. -/

section
variable {shares : Table OwedShare} {ledger ledger' : Table LedgerRow} {supplierId t : Nat} {ids : Currency → Option Nat}

/-- At most one row per currency was booked, for what was collected. -/
structure Booked (shares : Table OwedShare) (ledger : Table LedgerRow) (supplierId t : Nat)
    (ids : Currency → Option Nat) (ledger' : Table LedgerRow) : Prop where
  keeps : ∀ r row, ledger.get r = some row → ledger'.get r = some row
  only : ∀ r row, ledger'.get r = some row → ledger.get r = some row ∨ ∃ currency, ids currency = some r
  added : ∀ currency r, ids currency = some r → ledger.get r = none ∧
    ledger'.get r = some (reliefRow supplierId t currency (collectedAmount shares t currency)) ∧
      0 < collectedAmount shares t currency
  distinct : ∀ currency currency' r, ids currency = some r → ids currency' = some r → currency = currency'
  given : ∀ currency, 0 < collectedAmount shares t currency → (ids currency).isSome = true

theorem insertRelief_get {row : LedgerRow} {currency : Currency} {r : Nat}
    (here : (insertRelief shares (some supplierId) t ledger currency).1.get r = some row) :
    ledger.get r = some row ∨ (insertRelief shares (some supplierId) t ledger currency).2 = some r := by
  unfold insertRelief at here ⊢
  dsimp only at here ⊢
  split_ifs at here ⊢
  · exact Or.inl here
  · rcases Table.get_insert here with old | ⟨rfl, -⟩
    · exact Or.inl old
    · exact Or.inr rfl

theorem insertRelief_keeps {row : LedgerRow} {currency : Currency} {r : Nat} (there : ledger.get r = some row) :
    (insertRelief shares (some supplierId) t ledger currency).1.get r = some row := by
  unfold insertRelief
  dsimp only
  split_ifs
  · exact there
  · exact Table.get_insert_of_get there

theorem insertRelief_id {currency : Currency} {r : Nat}
    (booked : (insertRelief shares (some supplierId) t ledger currency).2 = some r) :
    ledger.nextId = r ∧ (insertRelief shares (some supplierId) t ledger currency).1.get r =
      some (reliefRow supplierId t currency (collectedAmount shares t currency)) ∧
        0 < collectedAmount shares t currency := by
  unfold insertRelief at booked ⊢
  dsimp only at booked ⊢
  split_ifs at booked ⊢ with nothing
  cases booked
  exact ⟨rfl, Table.get_insert_self _ _, not_le.mp nothing⟩

theorem insertRelief_given {currency : Currency} (positive : 0 < collectedAmount shares t currency) :
    (insertRelief shares (some supplierId) t ledger currency).2.isSome = true := by
  unfold insertRelief
  dsimp only
  rw [if_neg (not_le.mpr positive)]
  rfl

theorem inserted_booked (shares : Table OwedShare) (ledger : Table LedgerRow) (supplierId t : Nat) :
    let usd := insertRelief shares (some supplierId) t ledger .usd
    let lbp := insertRelief shares (some supplierId) t usd.1 .lbp
    Booked shares ledger supplierId t (reliefIds usd.2 lbp.2) lbp.1 := by
  intro usd lbp
  have later : ∀ r, lbp.2 = some r → usd.1.get r = none := by
    intro r booked
    rw [← (insertRelief_id booked).1]
    exact Table.get_of_le (le_refl _)
  constructor
  · exact fun r row there => insertRelief_keeps (insertRelief_keeps there)
  · intro r row here
    rcases insertRelief_get here with old | booked
    · rcases insertRelief_get old with older | booked
      · exact Or.inl older
      · exact Or.inr ⟨.usd, booked⟩
    · exact Or.inr ⟨.lbp, booked⟩
  · intro currency r booked
    cases currency with
    | usd =>
      obtain ⟨rfl, row, positive⟩ := insertRelief_id booked
      exact ⟨Table.get_of_le (le_refl _), insertRelief_keeps row, positive⟩
    | lbp =>
      obtain ⟨-, row, positive⟩ := insertRelief_id booked
      refine ⟨?_, row, positive⟩
      rcases there : ledger.get r with _ | old
      · rfl
      · have kept : usd.1.get r = some old := insertRelief_keeps there
        rw [later r booked] at kept
        cases kept
  · have apart : ∀ r, usd.2 = some r → lbp.2 ≠ some r := by
      intro r first second
      have there := (insertRelief_id first).2.1
      rw [later r second] at there
      cases there
    intro currency currency' r first second
    cases currency <;> cases currency'
    · rfl
    · exact absurd second (apart r first)
    · exact absurd first (apart r second)
    · rfl
  · intro currency positive
    cases currency with
    | usd => exact insertRelief_given positive
    | lbp => exact insertRelief_given positive

/-- Whole minor units stay whole. -/
theorem roundMoney_eq (v : ℚ) (currency : Currency) : roundMoney v currency = roundTo (minorFactor currency) v := by
  rw [roundMoney, mathRound, roundTo, round_eq]

theorem minorFactor_pos (currency : Currency) : 0 < minorFactor currency := by
  cases currency <;> decide +kernel

theorem collectedAmount_whole (relieved : Relieved shares ledger) (currency : Currency) :
    roundMoney (collectedAmount shares t currency) currency = collectedAmount shares t currency := by
  rw [roundMoney_eq]
  apply Whole.roundTo (minorFactor_pos currency)
  apply Table.total_closed (whole_zero _) fun _ _ => Whole.add
  intro id share found
  split_ifs with counted
  · have same : share.currency = currency := by
      rw [Bool.and_eq_true, decide_eq_true_eq] at counted
      exact counted.2
    rw [← relieved.whole id share found, roundMoney_eq, same]
    exact roundTo_whole _ _
  · exact whole_zero _

theorem reliefRow_amount (relieved : Relieved shares ledger) (supplierId : Nat) (currency c : Currency) :
    (reliefRow supplierId t currency (collectedAmount shares t currency)).amount c =
      if c = currency then collectedAmount shares t currency else 0 := by
  unfold reliefRow
  dsimp only
  rw [collectedAmount_whole relieved]

/-- What a row stands for, counted for one share. -/
def standsFor (r : Nat) (currency : Currency) (share : OwedShare) : ℚ :=
  if share.reliefLedgerId = some r then if share.currency = currency then share.amount else 0 else 0

theorem worth_old (relieved : Relieved shares ledger) (booked : Booked shares ledger supplierId t ids ledger')
    {r : Nat} {row : LedgerRow} (old : ledger.get r = some row) (currency : Currency) :
    worth (shares.updateWhere (isCreatedBy t) (reverseShare ids)) r currency = worth shares r currency := by
  rw [worth, worth, Table.total_updateWhere]
  apply Table.total_congr
  intro id share found
  by_cases created : isCreatedBy t share = true
  · have unreversed : share.isReversed = false := by
      unfold isCreatedBy at created
      rw [Bool.and_eq_true, Bool.not_eq_true'] at created
      exact created.2
    rw [if_pos created, relieved.none_of_live found unreversed, if_neg, if_neg]
    · intro none
      cases none
    · intro held
      unfold reverseShare at held
      dsimp only at held
      split_ifs at held
      rw [(booked.added _ r held).1] at old
      cases old
  · rw [if_neg created]

theorem worth_added (relieved : Relieved shares ledger) (booked : Booked shares ledger supplierId t ids ledger')
    {r : Nat} {currency : Currency} (added : ids currency = some r) (c : Currency) :
    worth (shares.updateWhere (isCreatedBy t) (reverseShare ids)) r c =
      if c = currency then collectedAmount shares t currency else 0 := by
  have fresh := (booked.added currency r added).1
  have counted : ∀ id share, shares.get id = some share →
      standsFor r c (if isCreatedBy t share then reverseShare ids share else share) =
        if c = currency then
          if isCreatedBy t share && share.clearedSettlement.isSome && share.currency = currency then share.amount else 0
        else 0 := by
    intro id share found
    by_cases created : isCreatedBy t share = true
    · rw [if_pos created, created, Bool.true_and]
      unfold standsFor reverseShare
      dsimp only
      rcases share.clearedSettlement with _ | by'
      · simp
      · by_cases same : share.currency = currency
        · rw [same, added]
          simp [eq_comm]
        · have other : ids share.currency ≠ some r := fun held => same (booked.distinct _ _ r held added)
          simp [other, same]
    · have elsewhere : share.reliefLedgerId ≠ some r := by
        intro held
        obtain ⟨row, there, -⟩ := relieved.row id share r found held
        rw [fresh] at there
        cases there
      simp [created, standsFor, elsewhere]
  rw [worth, Table.total_updateWhere]
  by_cases this : c = currency
  · rw [if_pos this]
    unfold collectedAmount
    apply Table.total_congr
    intro id share found
    have one := counted id share found
    rwa [if_pos this] at one
  · rw [if_neg this]
    apply Table.total_eq_zero
    intro id share found
    have one := counted id share found
    rwa [if_neg this] at one

theorem Relieved.reverse (relieved : Relieved shares ledger) (booked : Booked shares ledger supplierId t ids ledger') :
    Relieved (shares.updateWhere (isCreatedBy t) (reverseShare ids)) ledger' := by
  have there : ∀ id share', (shares.updateWhere (isCreatedBy t) (reverseShare ids)).get id = some share' →
      ∃ share, shares.get id = some share ∧
        (isCreatedBy t share = true ∧ share' = reverseShare ids share ∨ share' = share) := by
    intro id share' here
    rw [Table.get_updateWhere] at here
    obtain ⟨share, found, rfl⟩ := Option.map_eq_some_iff.mp here
    refine ⟨share, found, ?_⟩
    split_ifs with created
    · exact Or.inl ⟨created, rfl⟩
    · exact Or.inr rfl
  constructor
  · intro id share' here
    obtain ⟨share, found, ⟨-, rfl⟩ | rfl⟩ := there id share' here
    · exact relieved.positive id share found
    · exact relieved.positive id share' found
  · intro id share' here
    obtain ⟨share, found, ⟨-, rfl⟩ | rfl⟩ := there id share' here
    · exact relieved.whole id share found
    · exact relieved.whole id share' found
  · intro id share' here
    obtain ⟨share, found, ⟨created, rfl⟩ | rfl⟩ := there id share' here
    · rcases taken : share.clearedSettlement with _ | by'
      · simp [reverseShare, taken]
      · have some : 0 < collectedAmount shares t share.currency := by
          refine (relieved.positive id share found).trans_le ?_
          have one := Table.le_total (t := shares)
            (f := fun other => if isCreatedBy t other && other.clearedSettlement.isSome && other.currency = share.currency
              then other.amount else 0) ?_ found
          · rwa [if_pos (by simp [created, taken])] at one
          · intro id' other found'
            split_ifs
            · exact (relieved.positive id' other found').le
            · exact le_rfl
        simp [reverseShare, taken, booked.given share.currency some]
    · exact relieved.ahead id share' found
  · intro id share' r here held
    obtain ⟨share, found, ⟨-, rfl⟩ | rfl⟩ := there id share' here
    · unfold reverseShare at held
      dsimp only at held
      split_ifs at held
      exact ⟨_, (booked.added _ r held).2.1, rfl⟩
    · obtain ⟨row, old, counts⟩ := relieved.row id share' r found held
      exact ⟨row, booked.keeps r row old, counts⟩
  · intro r row here counts c
    rcases booked.only r row here with old | ⟨currency, added⟩
    · rw [worth_old relieved booked old, relieved.amounts r row old counts c]
    · obtain ⟨-, row', -⟩ := booked.added currency r added
      rw [here] at row'
      cases row'
      rw [reliefRow_amount relieved, worth_added relieved booked added]
  · intro r row here counts
    rcases booked.only r row here with old | ⟨currency, added⟩
    · exact relieved.backed r row old counts
    · obtain ⟨-, row', positive⟩ := booked.added currency r added
      rw [here] at row'
      cases row'
      refine ⟨currency, ?_⟩
      rwa [reliefRow_amount relieved, if_pos rfl]

end

theorem refundReliefs_keeps {ledger : Table LedgerRow} (cleared : List (Nat × OwedShare)) {r : Nat} {row : LedgerRow}
    (there : ledger.get r = some row) : ∃ row', (refundReliefs ledger cleared).get r = some row' ∧
      row'.supplierId = row.supplierId ∧ (stands row = false → stands row' = false) := by
  rw [refundReliefs_get, there]
  split_ifs
  · exact ⟨refundRow row, rfl, rfl, fun _ => stands_refundRow row⟩
  · exact ⟨row, rfl, rfl, id⟩

/-- The rows given back with the settlement. -/
def refundedLedger (s : Account) (settlementId : Nat) (settlement : Settlement) : Table LedgerRow :=
  refundReliefs (s.ledger.update settlement.anchorLedgerId refundRow) (s.shares.select (collectedBy settlementId))

theorem undone_eq {s : Account} (kind : UndoKind) {settlementId : Nat} {settlement : Settlement} {anchor : LedgerRow}
    (there : (refundedLedger s settlementId settlement).get settlement.anchorLedgerId = some anchor) :
    let reopened := s.shares.updateWhere (collectedBy settlementId) unclearShare
    let usd := insertRelief reopened (some anchor.supplierId) settlementId (refundedLedger s settlementId settlement) .usd
    let lbp := insertRelief reopened (some anchor.supplierId) settlementId usd.1 .lbp
    undone s kind settlementId settlement =
      { shares := reopened.updateWhere (isCreatedBy settlementId) (reverseShare (reliefIds usd.2 lbp.2))
        ledger := lbp.1
        settlements := s.settlements.update settlementId (setStatus kind.leaves) } := by
  unfold refundedLedger at there ⊢
  unfold undone reverseOmtOwedShares reverseCreated reopenCollected
  dsimp only
  rw [there]
  rfl

section
variable {s : Account} {kind : UndoKind} {settlementId : Nat} {shares : Table OwedShare} {ledger : Table LedgerRow}

theorem active_after (t : Nat) : IsActive s t ∧ t ≠ settlementId ↔
    IsActive ⟨shares, ledger, s.settlements.update settlementId (setStatus kind.leaves)⟩ t := by
  constructor
  · rintro ⟨⟨settlement, found, running⟩, other⟩
    exact ⟨settlement, by rw [Table.get_update_of_ne _ _ other, found], running⟩
  · rintro ⟨settlement, found, running⟩
    by_cases this : t = settlementId
    · rw [this, Table.get_update_self] at found
      obtain ⟨old, -, rfl⟩ := Option.map_eq_some_iff.mp found
      cases kind <;> cases running
    · rw [Table.get_update_of_ne _ _ this] at found
      exact ⟨⟨settlement, found, running⟩, this⟩

theorem collected_after (t id : Nat) : Collected s t id ↔
    Collected ⟨shares, ledger, s.settlements.update settlementId (setStatus kind.leaves)⟩ t id := by
  constructor
  · rintro ⟨settlement, found, took⟩
    refine ⟨_, Table.get_update_of_get found settlementId _, ?_⟩
    split_ifs
    · exact took
    · exact took
  · rintro ⟨settlement, found, took⟩
    by_cases this : t = settlementId
    · rw [this, Table.get_update_self] at found
      obtain ⟨old, there, rfl⟩ := Option.map_eq_some_iff.mp found
      exact ⟨old, by rw [this, there], took⟩
    · rw [Table.get_update_of_ne _ _ this] at found
      exact ⟨settlement, found, took⟩

end

theorem undo_inStep {s s' : Account} (inStep : InStep s) {kind : UndoKind} {settlementId : Nat}
    (apart : ReliefsApart s.shares settlementId) (done : undo s kind settlementId = .ok s') : InStep s' := by
  unfold undo at done
  rcases found : s.settlements.get settlementId with _ | settlement
  · rw [found] at done
    cases done
  rw [found] at done
  dsimp only at done
  split at done
  · cases done
  cases done
  have refunded : ∀ r row, s.ledger.get r = some row → stands row = false →
      ∃ row', (refundedLedger s settlementId settlement).get r = some row' ∧ stands row' = false := by
    intro r row there other
    obtain ⟨row', there', -, none⟩ := refundReliefs_keeps (s.shares.select (collectedBy settlementId))
      (Table.get_update_of_get there settlement.anchorLedgerId refundRow)
    refine ⟨row', there', none ?_⟩
    split_ifs
    · exact stands_refundRow row
    · exact other
  obtain ⟨anchor, there, other⟩ := inStep.anchored settlementId settlement found
  obtain ⟨anchor', there', -⟩ := refunded _ anchor there other
  rw [undone_eq kind there']
  have reopened : Relieved (s.shares.updateWhere (collectedBy settlementId) unclearShare)
      (refundedLedger s settlementId settlement) := by
    apply Relieved.reopen _ apart
    apply inStep.relieved.refundOther
    intro row here
    rw [there] at here
    cases here
    exact other
  have booked := inserted_booked (s.shares.updateWhere (collectedBy settlementId) unclearShare)
    (refundedLedger s settlementId settlement) anchor'.supplierId settlementId
  constructor
  · dsimp only
    rw [Table.nextId_update]
    exact (Linked.undo inStep.linked settlementId _).congr active_after collected_after
  · exact Relieved.reverse reopened booked
  · intro t settlement' found'
    dsimp only at found'
    obtain ⟨old, before, same⟩ : ∃ old, s.settlements.get t = some old ∧ old.anchorLedgerId = settlement'.anchorLedgerId := by
      by_cases this : t = settlementId
      · rw [this, Table.get_update_self] at found'
        obtain ⟨old, before, rfl⟩ := Option.map_eq_some_iff.mp found'
        exact ⟨old, by rw [this, before], rfl⟩
      · rw [Table.get_update_of_ne _ _ this] at found'
        exact ⟨settlement', found', rfl⟩
    obtain ⟨row, held, none⟩ := inStep.anchored t old before
    obtain ⟨row', held', none'⟩ := refunded _ row held none
    exact ⟨row', booked.keeps _ row' (same ▸ held'), none'⟩

end Liratek.Supplier.ShareUndo
