import Liratek.Supplier.ShareUndo

/-! OMT's owed shares are owed, collected and given back once. -/

namespace Liratek.Supplier.SharesOnce
open Lib Lib.Calls Lib.Runs Money.AccountSettle OwedShares ShareLedger ShareUndo

def isActive (s : Account) (settlementId : Nat) : Bool :=
  (s.settlements.get settlementId).any fun settlement => settlement.status = .active

/-- An active settlement collected the share. -/
def isCollected (s : Account) (shareId : Nat) : Bool :=
  s.settlements.rows.any fun entry => entry.2.status = .active && entry.2.collected.contains shareId

/-- The relief rows that are not refunded. -/
def standing (s : Account) (currency : Currency) : ℚ :=
  s.ledger.total fun row => if stands row then row.amount currency else 0

/-- The shares whose own settlement is undone while another one still collects them. -/
def paidAhead (s : Account) (currency : Currency) : ℚ :=
  (s.shares.rows.map fun entry =>
    if !isActive s entry.2.createdSettlement && isCollected s entry.1 && entry.2.currency = currency then entry.2.amount
    else 0).sum

structure CollectedOnce (s : Account) : Prop where
  live : ∀ id share, s.shares.get id = some share →
    (isLive share = true ↔ IsActive s share.createdSettlement ∧ ∀ t, IsActive s t → ¬Collected s t id)
  once : ∀ id t t', IsActive s t → Collected s t id → IsActive s t' → Collected s t' id → t = t'
  ahead : ∀ currency, standing s currency = paidAhead s currency
  finished : (∀ t, ¬IsActive s t) →
    (∀ id share, s.shares.get id = some share → isLive share = false) ∧
      ∀ r row, s.ledger.get r = some row → stands row = false

theorem isActive_iff {s : Account} {t : Nat} : isActive s t = true ↔ IsActive s t := by
  unfold isActive IsActive
  rcases s.settlements.get t with _ | settlement
  · constructor
    · exact fun none => nomatch none
    · rintro ⟨settlement, found, -⟩
      cases found
  · constructor
    · exact fun running => ⟨settlement, rfl, of_decide_eq_true running⟩
    · rintro ⟨_, same, running⟩
      cases same
      exact decide_eq_true running

theorem isCollected_iff {s : Account} {id : Nat} : isCollected s id = true ↔ ∃ t, IsActive s t ∧ Collected s t id := by
  unfold isCollected
  rw [List.any_eq_true]
  constructor
  · rintro ⟨⟨t, settlement⟩, member, holds⟩
    rw [Bool.and_eq_true, decide_eq_true_eq, List.contains_iff_mem] at holds
    have found := Table.mem_rows.mp member
    exact ⟨t, ⟨settlement, found, holds.1⟩, settlement, found, holds.2⟩
  · rintro ⟨t, ⟨settlement, found, running⟩, settlement', found', took⟩
    rw [found] at found'
    cases found'
    refine ⟨(t, settlement), Table.mem_rows.mpr found, ?_⟩
    rw [Bool.and_eq_true, decide_eq_true_eq, List.contains_iff_mem]
    exact ⟨running, took⟩

section
variable {s : Account} (inStep : InStep s)
include inStep

theorem cleared_isSome {id : Nat} {share : OwedShare} (found : s.shares.get id = some share) :
    share.clearedSettlement.isSome = true ↔ ∃ t, IsActive s t ∧ Collected s t id := by
  rw [Option.isSome_iff_exists]
  exact exists_congr fun t => inStep.linked.cleared id share found t

theorem live_iff {id : Nat} {share : OwedShare} (found : s.shares.get id = some share) :
    isLive share = true ↔ IsActive s share.createdSettlement ∧ ∀ t, IsActive s t → ¬Collected s t id := by
  have reversed := inStep.linked.reversed id share found
  have cleared := cleared_isSome inStep found
  rw [isLive_iff, ← Bool.not_eq_true, reversed, not_not, ← Option.not_isSome_iff_eq_none, cleared]
  simp only [not_exists, not_and]

theorem collected_once {id t t' : Nat} (running : IsActive s t) (took : Collected s t id) (running' : IsActive s t')
    (took' : Collected s t' id) : t = t' := by
  obtain ⟨share, found⟩ := inStep.linked.known t id running took
  have one := (inStep.linked.cleared id share found t).mpr ⟨running, took⟩
  have two := (inStep.linked.cleared id share found t').mpr ⟨running', took'⟩
  rw [one] at two
  exact Option.some.inj two

/-- Every relief row that stands is worth the shares it stands for. -/
theorem standing_eq (currency : Currency) : standing s currency =
    s.shares.total fun share =>
      if share.reliefLedgerId.isSome then if share.currency = currency then share.amount else 0 else 0 := by
  have fibers := Table.total_fibers s.ledger s.shares stands (·.reliefLedgerId)
    (fun share => if share.currency = currency then share.amount else 0) (inStep.relieved.row · · ·)
  rw [← fibers, standing, Table.total_rows]
  congr 1
  apply List.map_congr_left
  intro entry member
  split_ifs with counts
  · exact inStep.relieved.amounts entry.1 entry.2 (Table.mem_rows.mp member) counts currency
  · rfl

theorem standing_eq_paidAhead (currency : Currency) : standing s currency = paidAhead s currency := by
  rw [standing_eq inStep, Table.total_rows, paidAhead]
  congr 1
  apply List.map_congr_left
  intro entry member
  have found := Table.mem_rows.mp member
  have ahead : entry.2.reliefLedgerId.isSome = true ↔
      isActive s entry.2.createdSettlement = false ∧ isCollected s entry.1 = true := by
    rw [inStep.relieved.ahead _ _ found, inStep.linked.reversed _ _ found, cleared_isSome inStep found,
      isCollected_iff, ← isActive_iff, Bool.not_eq_true]
  by_cases this : entry.2.reliefLedgerId.isSome = true
  · obtain ⟨undone, taken⟩ := ahead.mp this
    rw [if_pos this, undone, taken]
    simp
  · rw [if_neg this, if_neg]
    intro counted
    rw [Bool.and_eq_true, Bool.and_eq_true, Bool.not_eq_true'] at counted
    exact this (ahead.mpr counted.1)

/-- Once every settlement is undone nothing is owed and nothing is paid ahead. -/
theorem nothing_left (none : ∀ t, ¬IsActive s t) :
    (∀ id share, s.shares.get id = some share → isLive share = false) ∧
      ∀ r row, s.ledger.get r = some row → stands row = false := by
  constructor
  · intro id share found
    rw [← Bool.not_eq_true, live_iff inStep found]
    exact fun live => none _ live.1
  · intro r row there
    rw [← Bool.not_eq_true]
    intro counts
    obtain ⟨currency, positive⟩ := inStep.relieved.backed r row there counts
    rw [inStep.relieved.amounts r row there counts currency, worth, Table.total_eq_zero] at positive
    · exact lt_irrefl 0 positive
    · intro id share found
      rw [if_neg]
      intro held
      have ahead := (inStep.relieved.ahead id share found).mp (by rw [held]; rfl)
      obtain ⟨t, running, -⟩ := (cleared_isSome inStep found).mp ahead.2
      exact none t running

theorem collectedOnce : CollectedOnce s where
  live _ _ found := live_iff inStep found
  once _ _ _ := collected_once inStep
  ahead := standing_eq_paidAhead inStep
  finished := nothing_left inStep

end

/-- An undone settlement collected no share that another settlement's share still shares a relief row with. -/
def RowsApart (s : Account) : Action → Prop
  | .settle _ _ _ => True
  | .undo _ settlementId => ReliefsApart s.shares settlementId

instance (s : Account) : (action : Action) → Decidable (RowsApart s action)
  | .settle _ _ _ => .isTrue trivial
  | .undo _ settlementId => inferInstanceAs (Decidable (ReliefsApart s.shares settlementId))

theorem start_inStep : InStep {} := by
  constructor
  · constructor
    · exact fun id share found => nomatch (Table.get_empty id).symm.trans found
    · exact fun id share found => nomatch (Table.get_empty id).symm.trans found
    · exact fun id share found => nomatch (Table.get_empty id).symm.trans found
    · rintro t id ⟨settlement, found, -⟩
      exact nomatch (Table.get_empty t).symm.trans found
  · constructor
    · exact fun id share found => nomatch (Table.get_empty id).symm.trans found
    · exact fun id share found => nomatch (Table.get_empty id).symm.trans found
    · exact fun id share found => nomatch (Table.get_empty id).symm.trans found
    · exact fun id share r found => nomatch (Table.get_empty id).symm.trans found
    · exact fun r row found => nomatch (Table.get_empty r).symm.trans found
    · exact fun r row found => nomatch (Table.get_empty r).symm.trans found
  · exact fun t settlement found => nomatch (Table.get_empty t).symm.trans found

theorem exec_inStep {s : Account} (inStep : InStep s) {action : Action} (apart : RowsApart s action) :
    InStep (exec s action) := by
  cases action with
  | settle name anchor plans => exact leaves_invariant inStep fun s' done => settle_inStep inStep done
  | undo kind settlementId => exact leaves_invariant inStep fun s' done => undo_inStep inStep apart done

theorem shares_collected_once {actions : List Action} (apart : Meets exec RowsApart {} actions) :
    CollectedOnce (run exec {} actions) := by
  have keeps : ∀ s action, InStep s → RowsApart s action → InStep (exec s action) :=
    fun _ _ inStep apart => exec_inStep inStep apart
  exact collectedOnce (run_invariant keeps start_inStep apart)

def owedUsd (financialServiceId : Nat) (amount : ℚ) (positive : 0 < amount) (whole : roundMoney amount .usd = amount) :
    ShareToCreate where
  financialServiceId := financialServiceId
  omtServiceType := some "SEND_SMS"
  currency := .usd
  amount := amount
  positive := positive
  whole := whole

def smsAnchor : AnchorRow where
  supplierId := 0
  entryType := "SETTLEMENT"
  amount := fun _ => 0
  note := "Settlement"

def leftOwed : List Action :=
  [.settle "OMT" smsAnchor
    [{ sharesToClear := []
       sharesToCreate := [owedUsd 0 5 (by decide +kernel) (by decide +kernel), owedUsd 1 7 (by decide +kernel) (by decide +kernel)] }]]

/-- Two settlements collect one share each. The one that left them owed is undone first, then one of the two. -/
def collectedApart : List Action :=
  leftOwed ++ [.settle "OMT" smsAnchor [⟨[0], []⟩], .settle "OMT" smsAnchor [⟨[1], []⟩], .undo .void 0, .undo .void 1]

theorem collectedApart_not_ahead : ¬CollectedOnce (run exec {} collectedApart) := by
  intro holds
  have same := holds.ahead .usd
  revert same
  decide +kernel

/-- One settlement collects both. -/
def collectedTogether : List Action :=
  leftOwed ++ [.settle "OMT" smsAnchor [⟨[0, 1], []⟩], .undo .void 0, .undo .refund 1]

theorem collectedTogether_once : CollectedOnce (run exec {} collectedTogether) :=
  shares_collected_once (by decide +kernel)

end Liratek.Supplier.SharesOnce
