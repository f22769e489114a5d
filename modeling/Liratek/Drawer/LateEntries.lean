import Liratek.Drawer.Standing

/-! A transaction that is saved, with the resolution of what it moved before a checkpoint. -/

namespace Liratek.Drawer.LateEntries
open Lib Lib.Calls CheckpointDifference CheckpointResolution Postings ShortageExpense Standing

/-- What the legs of a flow move on a drawer. -/
def legsMove (legs : List Leg) (drawerName currencyCode : String) : ℚ :=
  (legs.map fun leg =>
    if !isAuditOnlyPaymentMethod leg.method && (leg.drawerName = drawerName && bookedCurrency leg = currencyCode) then
      leg.amount
    else 0).sum

theorem legsMove_eq (id : Nat) (legs : List Leg) (drawerName currencyCode : String) :
    listed (moves drawerName currencyCode) (legRows id legs) = legsMove legs drawerName currencyCode := by
  rw [listed, legRows, List.map_map]
  rfl

/-! A new transaction. -/

theorem stillCounts_insert {s : Books} {txn : Transaction} (plain : txn.kind ≠ .holdMoneyCollectVoid) {id : Nat}
    (old : id < s.transactions.nextId) :
    stillCounts { s with transactions := s.transactions.insert txn } id = stillCounts s id := by
  unfold stillCounts
  dsimp only
  rw [Table.get_insert_of_ne _ _ old.ne, Table.rows_insert, List.any_append]
  simp [plain]

/-- The books once a transaction of these legs is in them. -/
def withLegs (s : Books) (txn : Transaction) (legs : List Leg) : Books :=
  bookRows { s with transactions := s.transactions.insert txn } (legRows s.transactions.nextId legs)

theorem saveTransaction_eq {s s' : Books} {txn : Transaction} {legs : List Leg} (done : saveTransaction s txn legs = .ok s') :
    s' = withLegs s txn legs ∧ ∀ row ∈ legRows s.transactions.nextId legs, GoodRow row :=
  postLegs_rows done

theorem legRows_own {id : Nat} {legs : List Leg} {row : Payment} (member : row ∈ legRows id legs) :
    row.transactionId = id ∧ ∃ leg ∈ legs, row.method = leg.method := by
  obtain ⟨leg, inside, rfl⟩ := List.mem_map.mp member
  exact ⟨rfl, leg, inside, rfl⟩

theorem legRows_notOffset {id : Nat} {legs : List Leg} {row : Payment} (member : row ∈ legRows id legs) (other : Nat) :
    isOffset other row = false := by
  obtain ⟨-, leg, -, same⟩ := legRows_own member
  have ofFlow := leg.ofFlow
  rw [isCheckpointPaymentMethod, Bool.or_eq_false_iff] at ofFlow
  rw [isOffset, same, ofFlow.2, Bool.and_false]

section
variable {s : Books} (txn : Transaction) (legs : List Leg)

@[simp] theorem withLegs_transactions : (withLegs s txn legs).transactions = s.transactions.insert txn :=
  bookRows_transactions _ _

@[simp] theorem withLegs_differences : (withLegs s txn legs).differences = s.differences :=
  bookRows_differences _ _

@[simp] theorem withLegs_resolutions : (withLegs s txn legs).resolutions = s.resolutions :=
  bookRows_resolutions _ _

@[simp] theorem withLegs_expenses : (withLegs s txn legs).expenses = s.expenses :=
  bookRows_expenses _ _

@[simp] theorem withLegs_pickups : (withLegs s txn legs).pickups = s.pickups :=
  bookRows_pickups _ _

theorem movement_withLegs {id : Nat} (other : id ≠ s.transactions.nextId) (drawerName currencyCode : String) :
    movement (withLegs s txn legs) id drawerName currencyCode = movement s id drawerName currencyCode := by
  have none : listed (fun row => isMovement [id] row && onDrawer drawerName currencyCode row)
      (legRows s.transactions.nextId legs) = 0 := by
    apply listed_zero
    intro row member
    rw [isMovement, (legRows_own member).1]
    simp [other.symm]
  rw [movement, withLegs, sumOf_bookRows, none, add_zero]
  rfl

theorem offsetOf_withLegs (id : Nat) (drawerName currencyCode : String) :
    offsetOf (withLegs s txn legs) id drawerName currencyCode = offsetOf s id drawerName currencyCode := by
  have none : listed (fun row => isOffset id row && onDrawer drawerName currencyCode row)
      (legRows s.transactions.nextId legs) = 0 := by
    apply listed_zero
    intro row member
    rw [legRows_notOffset member, Bool.false_and]
  rw [offsetOf, withLegs, sumOf_bookRows, none, add_zero]
  rfl

theorem stillCounts_withLegs {txn} (plain : txn.kind ≠ .holdMoneyCollectVoid) {id : Nat} (old : id < s.transactions.nextId) :
    stillCounts (withLegs s txn legs) id = stillCounts s id := by
  have same : stillCounts (withLegs s txn legs) id = stillCounts { s with transactions := s.transactions.insert txn } id := by
    unfold stillCounts
    rw [withLegs_transactions]
  rw [same, stillCounts_insert plain old]

variable {txn} (sound : Sound s) (plain : txn.kind ≠ .holdMoneyCollectVoid)
include sound

theorem movement_saved (drawerName currencyCode : String) :
    movement (withLegs s txn legs) s.transactions.nextId drawerName currencyCode = legsMove legs drawerName currencyCode := by
  have before : sumOf { s with transactions := s.transactions.insert txn }
      (fun row => isMovement [s.transactions.nextId] row && onDrawer drawerName currencyCode row) = 0 := by
    apply sumOf_zero
    intro i row found
    have old := (sound.rows i row found).2
    simp [isMovement, old.ne]
  rw [movement, withLegs, sumOf_bookRows, before, zero_add, ← legsMove_eq s.transactions.nextId, listed, listed]
  congr 1
  apply List.map_congr_left
  intro row member
  obtain ⟨own, leg, -, same⟩ := legRows_own member
  have notOffset := legRows_notOffset member s.transactions.nextId
  obtain ⟨leg', -, rfl⟩ := List.mem_map.mp member
  simp [isOffset, isLegOf, legRow] at notOffset
  simp [isMovement, moves, drawerAffecting, legRow, leg'.onDrawer, notOffset]

include plain

theorem resolvedOf_withLegs (id : Nat) : resolvedOf (withLegs s txn legs) id = resolvedOf s id := by
  rw [resolvedOf, withLegs_resolutions]
  apply Table.total_congr
  intro i r found
  rw [stillCounts_withLegs legs plain (sound.resolutions i r found).1]

theorem standing_withLegs (drawerName currencyCode : String) : standing (withLegs s txn legs) drawerName currencyCode =
    standing s drawerName currencyCode + legsMove legs drawerName currencyCode := by
  have balance : (withLegs s txn legs).balance drawerName currencyCode =
      s.balance drawerName currencyCode + legsMove legs drawerName currencyCode := by
    rw [withLegs, balance_bookRows, legsMove_eq]
  unfold standing unresolved
  rw [balance, withLegs_differences]
  simp only [resolvedOf_withLegs legs sound plain]
  ring

variable (own : txn.reversesId = none)
  (source : ∀ source, txn.sourceRef = some source → source < s.transactions.nextId ∧ txn.kind = .flow)
  (good : ∀ row ∈ legRows s.transactions.nextId legs, GoodRow row)
include own source good

theorem Sound.withLegs : Sound (withLegs s txn legs) where
  rows := by
    intro i row found
    rw [withLegs_transactions, Table.nextId_insert]
    rcases get_bookRows found with old | new
    · exact ⟨(sound.rows i row old).1, Nat.lt_succ_of_lt (sound.rows i row old).2⟩
    · exact ⟨good row new, by rw [(legRows_own new).1]; exact Nat.lt_succ_self _⟩
  recorded := by
    rw [withLegs_differences]
    exact sound.recorded
  resolutions := by
    rw [withLegs_resolutions, withLegs_transactions, Table.nextId_insert]
    intro i r found
    obtain ⟨old, d, explains⟩ := sound.resolutions i r found
    exact ⟨Nat.lt_succ_of_lt old, d, explains.of_differences (withLegs_differences txn legs)⟩
  within := by
    rw [withLegs_differences]
    intro i d found
    rw [resolvedOf_withLegs legs sound plain]
    exact sound.within i d found
  expenses := by
    rw [withLegs_expenses, withLegs_differences]
    exact sound.expenses
  offset := by
    intro id t found notReversal drawerName currencyCode
    rw [withLegs_transactions] at found
    rw [offsetOf_withLegs, resolvedBy_congr (withLegs_resolutions txn legs) (withLegs_differences txn legs)]
    rcases Table.get_insert found with old | ⟨rfl, -⟩
    · exact sound.offset id t old notReversal drawerName currencyCode
    · rw [sound.offsetOf_new _ _ le_rfl, sound.resolvedBy_new _ _ le_rfl, add_zero]
  sources := by
    intro id t ref found refers
    rw [withLegs_transactions] at found
    rcases Table.get_insert found with old | ⟨rfl, rfl⟩
    · exact sound.sources id t ref old refers
    · exact source ref refers
  pickups := by
    intro i p found
    rw [withLegs_pickups] at found
    obtain ⟨⟨t, stands, facts⟩, counted⟩ := sound.pickups i p found
    refine ⟨⟨t, ?_, facts⟩, ?_⟩
    · rw [withLegs_transactions]
      exact Table.get_insert_of_get stands
    · intro j row there mine
      rcases get_bookRows there with old | new
      · exact counted j row old mine
      · rw [(legRows_own new).1] at mine
        exact absurd (Table.get_lt stands) (by omega)
  apart := by
    rw [withLegs_pickups]
    exact sound.apart
  pickupVoids := by
    intro id t found voids
    rw [withLegs_transactions] at found
    rw [withLegs_pickups]
    rcases Table.get_insert found with old | ⟨-, rfl⟩
    · exact sound.pickupVoids id t old voids
    · exact absurd voids plain

end

/-! One movement is resolved. -/

/-- A difference takes the movement of a transaction. -/
structure Takes (s : Books) (id : Nat) (n : Net) (entry : Nat × Difference) : Prop where
  counts : stillCounts s id = true
  posting : postingCurrency n.drawerName n.currencyCode = .ok n.currencyCode
  found : s.differences.get entry.1 = some entry.2
  on : isOn n.drawerName n.currencyCode entry.2 = true
  opened : 0 < (describe s entry.1 entry.2).openAmount
  direction : directionOf entry.2.amount = directionOf n.net
  above : checkpointDifferenceEpsilon n.currencyCode < |n.net|

theorem differenceOf_facts {s : Books} {closingId : Nat} {drawerName currencyCode : String} {entry : Nat × Difference}
    (chosen : differenceOf s closingId drawerName currencyCode = some entry) :
    s.differences.get entry.1 = some entry.2 ∧ isOn drawerName currencyCode entry.2 = true := by
  have listed := List.mem_of_head? chosen
  obtain ⟨found, fits⟩ := Table.mem_select.mp listed
  rw [Bool.and_eq_true] at fits
  exact ⟨found, fits.2⟩

theorem takes_of_absorbing {s : Books} {id : Nat} {time : ℤ} {n : Net} {entry : Nat × Difference}
    (counts : stillCounts s id = true) (posting : postingCurrency n.drawerName n.currencyCode = .ok n.currencyCode)
    (absorbs : absorbing s time n = some entry) : Takes s id n entry := by
  unfold absorbing at absorbs
  split_ifs at absorbs with small lineDerived
  rw [Option.filter_eq_some_iff] at absorbs
  obtain ⟨chosen, fits⟩ := absorbs
  obtain ⟨closingId, -, of⟩ := Option.bind_eq_some_iff.mp chosen
  obtain ⟨found, on⟩ := differenceOf_facts of
  rw [Bool.and_eq_true, canAbsorb, decide_eq_true_eq, decide_eq_true_eq] at fits
  exact ⟨counts, posting, found, on, fits.1, fits.2, not_le.mp small⟩

section
variable {s : Books} {id : Nat} {n : Net} {entry : Nat × Difference}

/-- What is resolved of the movement. -/
def taken (s : Books) (n : Net) (entry : Nat × Difference) : ℚ :=
  min |n.net| (describe s entry.1 entry.2).openAmount

def takenRow (s : Books) (id : Nat) (n : Net) (entry : Nat × Difference) : Resolution :=
  { differenceId := entry.1, transactionId := id, amount := signOf n.net * taken s n entry }

theorem Takes.onDrawer (takes : Takes s id n entry) :
    entry.2.drawerName = n.drawerName ∧ entry.2.currencyCode = n.currencyCode := by
  have on := takes.on
  rwa [isOn, Bool.and_eq_true, decide_eq_true_eq, decide_eq_true_eq] at on

theorem Takes.taken_above (takes : Takes s id n entry) : checkpointDifferenceEpsilon entry.2.currencyCode < taken s n entry := by
  apply lt_min
  · rw [takes.onDrawer.2]
    exact takes.above
  · rcases openAmount_range ⟨entry.2.amount, resolvedOf s entry.1, entry.2.isClosed, entry.2.currencyCode⟩ with none | some
    · exact absurd none takes.opened.ne'
    · exact some

theorem Takes.taken_pos (takes : Takes s id n entry) : 0 < taken s n entry :=
  (epsilon_pos _).trans takes.taken_above

theorem Takes.taken_le (takes : Takes s id n entry) (sound : Sound s) :
    resolvedOf s entry.1 + taken s n entry ≤ |entry.2.amount| := by
  have least : taken s n entry ≤ (describe s entry.1 entry.2).openAmount := min_le_right _ _
  have most := @openAmount_le entry.2.amount (resolvedOf s entry.1) entry.2.isClosed entry.2.currencyCode
    (resolvedOf_nonneg s entry.1) (sound.within _ _ takes.found)
  have same : (describe s entry.1 entry.2).openAmount ≤ |entry.2.amount| - resolvedOf s entry.1 := most
  linarith

theorem resolvedOf_record (takes : Takes s id n entry) (j : Nat) : resolvedOf (recordResolution s id n entry) j =
    resolvedOf s j + if j = entry.1 then taken s n entry else 0 := by
  have added : resolvedOf (recordResolution s id n entry) j = resolvedOf s j +
      if (takenRow s id n entry).differenceId = j && stillCounts s (takenRow s id n entry).transactionId then
        |(takenRow s id n entry).amount| else 0 :=
    Table.total_insert _ _ _
  rw [added]
  congr 1
  by_cases this : j = entry.1
  · rw [if_pos this, if_pos, takenRow, abs_signOf_mul _ takes.taken_pos.le]
    simp [takenRow, this, takes.counts]
  · rw [if_neg this, if_neg]
    simp [takenRow, Ne.symm this]

/-- The amount on the drawer and currency the movement is on. -/
def onNet (n : Net) (drawerName currencyCode : String) (amount : ℚ) : ℚ :=
  if drawerName = n.drawerName ∧ currencyCode = n.currencyCode then amount else 0

theorem balance_record (drawerName currencyCode : String) : (recordResolution s id n entry).balance drawerName currencyCode =
    s.balance drawerName currencyCode - onNet n drawerName currencyCode (signOf n.net * taken s n entry) := by
  change addTo s.balance n.drawerName n.currencyCode (-(signOf n.net) * taken s n entry) drawerName currencyCode = _
  unfold addTo onNet
  split_ifs
  · ring
  · ring

theorem Takes.standsOn (takes : Takes s id n entry) (drawerName currencyCode : String) :
    standsOn s drawerName currencyCode entry.1 = decide (drawerName = n.drawerName ∧ currencyCode = n.currencyCode) := by
  rw [Standing.standsOn, takes.found, Option.any_some, isOn, takes.onDrawer.1, takes.onDrawer.2, Bool.decide_and]
  congr 1
  · exact decide_eq_decide.mpr eq_comm
  · exact decide_eq_decide.mpr eq_comm

theorem explained_record (takes : Takes s id n entry) (drawerName currencyCode : String) :
    explained (recordResolution s id n entry) drawerName currencyCode =
      explained s drawerName currencyCode + onNet n drawerName currencyCode (signOf n.net * taken s n entry) := by
  have added : explained (recordResolution s id n entry) drawerName currencyCode = explained s drawerName currencyCode +
      if counted s drawerName currencyCode (takenRow s id n entry) then (takenRow s id n entry).amount else 0 :=
    Table.total_insert _ _ _
  have counts : counted s drawerName currencyCode (takenRow s id n entry) =
      decide (drawerName = n.drawerName ∧ currencyCode = n.currencyCode) := by
    rw [counted, takenRow, takes.counts, takes.standsOn, Bool.true_and]
  rw [added, counts]
  unfold onNet
  simp only [decide_eq_true_eq]
  rfl

theorem resolvedBy_record (takes : Takes s id n entry) (j : Nat) (drawerName currencyCode : String) :
    resolvedBy (recordResolution s id n entry) j drawerName currencyCode =
      resolvedBy s j drawerName currencyCode +
        if j = id then onNet n drawerName currencyCode (signOf n.net * taken s n entry) else 0 := by
  have added : resolvedBy (recordResolution s id n entry) j drawerName currencyCode = resolvedBy s j drawerName currencyCode +
      if (takenRow s id n entry).transactionId = j && standsOn s drawerName currencyCode (takenRow s id n entry).differenceId then
        (takenRow s id n entry).amount else 0 :=
    Table.total_insert _ _ _
  rw [added, takenRow, takes.standsOn]
  unfold onNet
  congr 1
  by_cases this : j = id
  · simp [this]
  · simp [this, Ne.symm this]

theorem offsetOf_record (j : Nat) (drawerName currencyCode : String) :
    offsetOf (recordResolution s id n entry) j drawerName currencyCode =
      offsetOf s j drawerName currencyCode -
        if j = id then onNet n drawerName currencyCode (signOf n.net * taken s n entry) else 0 := by
  have added : offsetOf (recordResolution s id n entry) j drawerName currencyCode = offsetOf s j drawerName currencyCode +
      if isOffset j (offsetRow id n (-(signOf n.net) * taken s n entry)) &&
          onDrawer drawerName currencyCode (offsetRow id n (-(signOf n.net) * taken s n entry)) then
        -(signOf n.net) * taken s n entry else 0 :=
    Table.total_insert _ _ _
  rw [added, sub_eq_add_neg]
  congr 1
  unfold onNet
  by_cases this : j = id
  · by_cases here : drawerName = n.drawerName ∧ currencyCode = n.currencyCode
    · simp [isOffset, isLegOf, onDrawer, offsetRow, this, here]
    · rw [if_neg, if_pos this, if_neg here, neg_zero]
      rw [Bool.and_eq_true, onDrawer, Bool.and_eq_true, decide_eq_true_eq, decide_eq_true_eq]
      rintro ⟨-, sameDrawer, sameCurrency⟩
      exact here ⟨sameDrawer.symm, sameCurrency.symm⟩
  · simp [isOffset, isLegOf, offsetRow, this, Ne.symm this]

theorem movement_record (j : Nat) (drawerName currencyCode : String) :
    movement (recordResolution s id n entry) j drawerName currencyCode = movement s j drawerName currencyCode := by
  have added : movement (recordResolution s id n entry) j drawerName currencyCode = movement s j drawerName currencyCode +
      if isMovement [j] (offsetRow id n (-(signOf n.net) * taken s n entry)) &&
          onDrawer drawerName currencyCode (offsetRow id n (-(signOf n.net) * taken s n entry)) then
        -(signOf n.net) * taken s n entry else 0 :=
    Table.total_insert _ _ _
  rw [added]
  simp [isMovement, offsetRow]

/-- The target of a closed difference may have fallen below what is booked. -/
def Falls (held target : ℚ) : Prop :=
  target + 1 / 10 ^ 9 ≤ held

theorem falls_wide (held target : ℚ) (falls : Falls held target) : 1 / 10 ^ 9 ≤ |held - target| :=
  (le_sub_iff_add_le'.mpr falls).trans (le_abs_self _)

variable (takes : Takes s id n entry)
include takes

theorem Takes.explains : Explains s (takenRow s id n entry) entry.2 where
  found := takes.found
  signed := by
    rw [takenRow, abs_signOf_mul _ takes.taken_pos.le, signOf_of_direction takes.direction]
  above := by
    rw [takenRow, abs_signOf_mul _ takes.taken_pos.le]
    exact takes.taken_above

variable (sound : Sound s) (saved : id < s.transactions.nextId)
include sound saved

theorem Sound.record : Sound (recordResolution s id n entry) where
  rows := by
    intro i row found
    rcases Table.get_insert found with old | ⟨-, rfl⟩
    · exact sound.rows i row old
    · exact ⟨⟨takes.posting, (by decide : checkpointResolutionMethod ≠ "CUSTOMER_ACCOUNT")⟩, saved⟩
  recorded := sound.recorded
  resolutions := by
    intro i r found
    rcases Table.get_insert found with old | ⟨-, rfl⟩
    · obtain ⟨earlier, d, explains⟩ := sound.resolutions i r old
      exact ⟨earlier, d, explains.of_differences rfl⟩
    · exact ⟨saved, entry.2, takes.explains.of_differences rfl⟩
  within := by
    intro i d found
    rw [resolvedOf_record takes]
    split_ifs with this
    · have same : s.differences.get i = some d := found
      rw [this, takes.found] at same
      cases same
      rw [this]
      exact takes.taken_le sound
    · rw [add_zero]
      exact sound.within i d found
  expenses := sound.expenses
  offset := by
    intro j t found notReversal drawerName currencyCode
    have before := sound.offset j t found notReversal drawerName currencyCode
    rw [offsetOf_record, resolvedBy_record takes]
    linarith
  sources := sound.sources
  pickups := by
    intro i p found
    obtain ⟨facts, counted⟩ := sound.pickups i p found
    refine ⟨facts, ?_⟩
    intro j row there mine
    rcases Table.get_insert there with old | ⟨-, rfl⟩
    · exact counted j row old mine
    · exact (by decide : isAuditOnlyPaymentMethod checkpointResolutionMethod = false)
  apart := sound.apart
  pickupVoids := sound.pickupVoids

theorem standing_record (drawerName currencyCode : String) :
    standing (recordResolution s id n entry) drawerName currencyCode = standing s drawerName currencyCode := by
  have same : corrected (recordResolution s id n entry) drawerName currencyCode = corrected s drawerName currencyCode := rfl
  rw [(Sound.record takes sound saved).standing_eq, sound.standing_eq, balance_record, explained_record takes, same]
  ring

omit saved in
theorem slack_record {stale : Nat → Prop} (slack : Slack s Falls stale) :
    Slack (recordResolution s id n entry) Falls fun j => stale j ∨ j = entry.1 ∧ entry.2.isClosed = true := by
  intro j d found
  obtain ⟨held, same, holdable, settled⟩ := slack j d found
  refine ⟨held, same, holdable, ?_⟩
  rw [shortageTarget_eq, resolvedOf_record takes]
  rw [shortageTarget_eq] at settled
  by_cases this : j = entry.1
  · have stands : s.differences.get j = some d := found
    rw [this, takes.found] at stands
    cases stands
    rw [if_pos this]
    rcases Bool.eq_false_or_eq_true entry.2.isClosed with closed | opened
    · have apart := targetFor_apart (resolvedOf_nonneg s j) (add_lt_add_right takes.taken_above (resolvedOf s j))
        (this ▸ takes.taken_le sound)
      rcases settled with settled | ⟨late, falls⟩
      · rcases apart with unchanged | fell
        · exact Or.inl (settled.trans unchanged.symm)
        · refine Or.inr ⟨Or.inr ⟨this, closed⟩, ?_⟩
          rw [settled]
          exact fell
      · refine Or.inr ⟨Or.inl late, ?_⟩
        rcases apart with unchanged | fell
        · rw [unchanged]
          exact falls
        · have further : targetFor entry.2 (resolvedOf s j + taken s n entry) ≤ targetFor entry.2 (resolvedOf s j) := by
            linarith only [fell]
          exact le_trans (add_le_add_left further _) falls
    · rw [targetFor_open opened] at settled ⊢
      exact settled.imp_right fun late => ⟨Or.inl late.1, late.2⟩
  · rw [if_neg this, add_zero]
    exact settled.imp_right fun late => ⟨Or.inl late.1, late.2⟩

end

/-- Nothing a drawer stands at, and nothing a transaction moved, is changed. -/
structure Unmoved (s s' : Books) : Prop where
  transactions : s'.transactions = s.transactions
  standing : ∀ drawerName currencyCode, standing s' drawerName currencyCode = standing s drawerName currencyCode
  movement : ∀ id drawerName currencyCode, movement s' id drawerName currencyCode = movement s id drawerName currencyCode

theorem Unmoved.refl (s : Books) : Unmoved s s :=
  ⟨rfl, fun _ _ => rfl, fun _ _ _ => rfl⟩

theorem Unmoved.trans {a b c : Books} (first : Unmoved a b) (second : Unmoved b c) : Unmoved a c where
  transactions := second.transactions.trans first.transactions
  standing drawerName currencyCode := (second.standing drawerName currencyCode).trans (first.standing drawerName currencyCode)
  movement id drawerName currencyCode := (second.movement id drawerName currencyCode).trans (first.movement id drawerName currencyCode)

/-! The sync. -/

section
variable {s : Books}

theorem sync_expense {id i : Nat} {e : Expense} (found : (syncShortageExpense s id).expenses.get i = some e) :
    (∃ e', s.expenses.get i = some e' ∧ e.differenceId = e'.differenceId) ∨ e.differenceId < s.differences.nextId := by
  unfold syncShortageExpense at found
  split at found
  · exact Or.inl ⟨e, found, rfl⟩
  · rename_i d stands
    have cleared : ∀ {j e}, (s.expenses.updateWhere (isActiveExpense id) refundExpense).get j = some e →
        ∃ e', s.expenses.get j = some e' ∧ e.differenceId = e'.differenceId := by
      intro j e found
      rw [Table.get_updateWhere, Option.map_eq_some_iff] at found
      obtain ⟨e', before, rfl⟩ := found
      refine ⟨e', before, ?_⟩
      split_ifs <;> rfl
    dsimp only at found
    split_ifs at found
    · exact Or.inl ⟨e, found, rfl⟩
    · rcases Table.get_insert found with old | ⟨-, rfl⟩
      · exact Or.inl (cleared old)
      · exact Or.inr (Table.get_lt stands)
    · exact Or.inl (cleared found)

theorem Sound.sync (sound : Sound s) (id : Nat) : Sound (syncShortageExpense s id) := by
  have expenses : ∀ i e, (syncShortageExpense s id).expenses.get i = some e → e.differenceId < s.differences.nextId := by
    intro i e found
    rcases sync_expense found with ⟨e', before, same⟩ | new
    · rw [same]
      exact sound.expenses i e' before
    · exact new
  rw [sync_eq]
  exact
    { sound with
      expenses := expenses
      resolutions := by
        intro i r found
        obtain ⟨old, d, explains⟩ := sound.resolutions i r found
        exact ⟨old, d, explains.of_differences rfl⟩
      pickups := fun i p found => ⟨(sound.pickups i p found).saved, (sound.pickups i p found).counted⟩ }

theorem Sound.syncAll (sound : Sound s) (ids : List Nat) : Sound (syncAll s ids) := by
  induction ids generalizing s with
  | nil => exact sound
  | cons id rest ih => exact ih (Sound.sync sound id)

theorem syncAll_unmoved (s : Books) (ids : List Nat) : Unmoved s (syncAll s ids) := by
  rw [syncAll_eq]
  exact ⟨rfl, fun _ _ => rfl, fun _ _ _ => rfl⟩

end

/-! All movements of a transaction. -/

theorem netsOf_posting {s : Books} (sound : Sound s) {ids : List Nat} {n : Net} (member : n ∈ netsOf s ids) :
    postingCurrency n.drawerName n.currencyCode = .ok n.currencyCode := by
  obtain ⟨key, listed, rfl⟩ := List.mem_map.mp member
  obtain ⟨entry, chosen, rfl⟩ := List.mem_map.mp (List.mem_dedup.mp listed)
  exact (sound.rows entry.1 entry.2 (Table.mem_select.mp chosen).1).1.posting

theorem resolveNets_keeps {id : Nat} {time : ℤ} {nets : List Net} {s : Books} {stale : Nat → Prop}
    (posting : ∀ n ∈ nets, postingCurrency n.drawerName n.currencyCode = .ok n.currencyCode) (sound : Sound s)
    (saved : id < s.transactions.nextId) (counts : stillCounts s id = true) (slack : Slack s Falls stale) :
    Sound (resolveNets id time s nets).1 ∧ Unmoved s (resolveNets id time s nets).1 ∧
      Slack (resolveNets id time s nets).1 Falls fun j => stale j ∨ j ∈ (resolveNets id time s nets).2 := by
  induction nets generalizing s stale with
  | nil =>
    exact ⟨sound, Unmoved.refl s, slack.mono fun j late => Or.inl late⟩
  | cons n rest ih =>
    obtain ⟨postingFirst, postingRest⟩ := List.forall_mem_cons.mp posting
    rcases absorbs : absorbing s time n with _ | entry
    · have skipped : resolveNets id time s (n :: rest) = resolveNets id time s rest := by
        rw [resolveNets, absorbs]
      rw [skipped]
      exact ih postingRest sound saved counts slack
    · have takes := takes_of_absorbing counts postingFirst absorbs
      have recorded : resolveNets id time s (n :: rest) =
          ((resolveNets id time (recordResolution s id n entry) rest).1,
            if entry.2.isClosed then entry.1 :: (resolveNets id time (recordResolution s id n entry) rest).2
            else (resolveNets id time (recordResolution s id n entry) rest).2) := by
        rw [resolveNets, absorbs]
      obtain ⟨soundRest, unmoved, slackRest⟩ :=
        ih postingRest (Sound.record takes sound saved) saved counts (slack_record takes sound slack)
      rw [recorded]
      have first : Unmoved s (recordResolution s id n entry) :=
        ⟨rfl, standing_record takes sound saved, fun j drawerName currencyCode => movement_record j drawerName currencyCode⟩
      refine ⟨soundRest, first.trans unmoved, slackRest.mono ?_⟩
      rintro j ((earlier | ⟨this, closed⟩) | later)
      · exact Or.inl earlier
      · right
        rw [this, if_pos closed]
        exact List.mem_cons_self
      · right
        split_ifs
        · exact List.mem_cons_of_mem _ later
        · exact later

theorem resolve_keeps {s : Books} {id : Nat} (sound : Sound s) (right : Right s) (counts : stillCounts s id = true) :
    Sound (resolveBackTimedDrawerMovement s id) ∧ Right (resolveBackTimedDrawerMovement s id) ∧
      Unmoved s (resolveBackTimedDrawerMovement s id) := by
  unfold resolveBackTimedDrawerMovement
  split
  · exact ⟨sound, right, Unmoved.refl s⟩
  · rename_i txn found
    dsimp only
    split_ifs
    · exact ⟨sound, right, Unmoved.refl s⟩
    · exact ⟨sound, right, Unmoved.refl s⟩
    · obtain ⟨soundThen, unmoved, slack⟩ := resolveNets_keeps (fun n member => netsOf_posting sound member) sound
        (Table.get_lt found) counts (right.slack Falls)
      refine ⟨Sound.syncAll soundThen _, ?_, unmoved.trans (syncAll_unmoved _ _)⟩
      apply (slack.syncAll falls_wide _).right
      rintro j ⟨never | listed, outside⟩
      · exact never
      · exact outside listed

/-! The saved transactions. -/

/-- New transactions were saved, one for each list of legs. -/
structure Saved (s s' : Books) (lists : List (List Leg)) : Prop where
  sound : Sound s'
  right : Right s'
  size : s'.transactions.nextId = s.transactions.nextId + lists.length
  kept : ∀ id < s.transactions.nextId, s'.transactions.get id = s.transactions.get id ∧ stillCounts s' id = stillCounts s id
  standing : ∀ drawerName currencyCode, standing s' drawerName currencyCode =
    standing s drawerName currencyCode + (lists.map fun legs => legsMove legs drawerName currencyCode).sum
  before : ∀ id < s.transactions.nextId, ∀ drawerName currencyCode,
    movement s' id drawerName currencyCode = movement s id drawerName currencyCode
  own : ∀ k legs, lists[k]? = some legs → ∀ drawerName currencyCode,
    movement s' (s.transactions.nextId + k) drawerName currencyCode = legsMove legs drawerName currencyCode

theorem Right.withLegs {s : Books} {txn : Transaction} {legs : List Leg} (right : Right s) (sound : Sound s)
    (plain : txn.kind ≠ .holdMoneyCollectVoid) : Right (withLegs s txn legs) := by
  intro j d found
  rw [withLegs_differences] at found
  have target : shortageTarget (LateEntries.withLegs s txn legs) j d = shortageTarget s j d := by
    rw [shortageTarget_eq, shortageTarget_eq, resolvedOf_withLegs legs sound plain]
  have same : activeExpenses (LateEntries.withLegs s txn legs) j = activeExpenses s j := by
    unfold activeExpenses
    rw [withLegs_expenses]
  rw [target, same]
  exact right j d found

theorem saved_one {s s' : Books} {txn : Transaction} {legs : List Leg} (sound : Sound s) (right : Right s)
    (plain : txn.kind ≠ .holdMoneyCollectVoid) (own : txn.reversesId = none)
    (source : ∀ source, txn.sourceRef = some source → source < s.transactions.nextId ∧ txn.kind = .flow)
    (done : saveTransaction s txn legs = .ok s') : Saved s s' [legs] := by
  obtain ⟨rfl, good⟩ := saveTransaction_eq done
  exact
    { sound := Sound.withLegs legs sound plain own source good
      right := Right.withLegs right sound plain
      size := by
        rw [withLegs_transactions, Table.nextId_insert]
        rfl
      kept := by
        intro id old
        rw [withLegs_transactions, Table.get_insert_of_ne _ _ old.ne, stillCounts_withLegs legs plain old]
        exact ⟨rfl, rfl⟩
      standing := by
        intro drawerName currencyCode
        rw [standing_withLegs legs sound plain, List.map_singleton, List.sum_singleton]
      before := fun id old => movement_withLegs txn legs old.ne
      own := by
        intro k legs' this
        rcases k with _ | k
        · cases this
          exact movement_saved legs sound
        · cases this }

theorem Saved.trans {a b c : Books} {first second : List (List Leg)} (one : Saved a b first) (two : Saved b c second) :
    Saved a c (first ++ second) where
  sound := two.sound
  right := two.right
  size := by rw [two.size, one.size, List.length_append, add_assoc]
  kept := by
    intro id old
    have later : id < b.transactions.nextId := by
      rw [one.size]
      exact Nat.lt_add_right _ old
    rw [(two.kept id later).1, (two.kept id later).2]
    exact one.kept id old
  standing := by
    intro drawerName currencyCode
    rw [two.standing, one.standing, List.map_append, List.sum_append, add_assoc]
  before := by
    intro id old drawerName currencyCode
    have later : id < b.transactions.nextId := by
      rw [one.size]
      exact Nat.lt_add_right _ old
    rw [two.before id later, one.before id old]
  own := by
    intro k legs this drawerName currencyCode
    rcases Nat.lt_or_ge k first.length with within | beyond
    · rw [List.getElem?_append_left within] at this
      have later : a.transactions.nextId + k < b.transactions.nextId := by
        rw [one.size]
        exact Nat.add_lt_add_left within _
      rw [two.before _ later, one.own k legs this]
    · rw [List.getElem?_append_right beyond] at this
      have moved := two.own (k - first.length) legs this drawerName currencyCode
      rwa [one.size, add_assoc, Nat.add_sub_cancel' beyond] at moved

theorem Saved.unmoved {a b c : Books} {lists : List (List Leg)} (saved : Saved a b lists) (unmoved : Unmoved b c)
    (sound : Sound c) (right : Right c) : Saved a c lists where
  sound := sound
  right := right
  size := by rw [unmoved.transactions, saved.size]
  kept := by
    intro id old
    have counts : stillCounts c id = stillCounts b id := by
      unfold stillCounts
      rw [unmoved.transactions]
    rw [unmoved.transactions, counts]
    exact saved.kept id old
  standing drawerName currencyCode := by rw [unmoved.standing, saved.standing]
  before id old drawerName currencyCode := by rw [unmoved.movement, saved.before id old]
  own k legs this drawerName currencyCode := by rw [unmoved.movement, saved.own k legs this]

theorem saveExpenses_saved {source : Nat} {time : ℤ} {expenses : List (List Leg)} {s s' : Books} (sound : Sound s) (right : Right s)
    (old : source < s.transactions.nextId)
    (done : each (fun s legs => saveTransaction s { kind := .flow, createdAt := time, sourceRef := some source } legs) s expenses =
      .ok s') : Saved s s' expenses := by
  induction expenses generalizing s with
  | nil =>
    cases done
    exact
      { sound := sound
        right := right
        size := rfl
        kept := fun _ _ => ⟨rfl, rfl⟩
        standing := fun _ _ => (add_zero _).symm
        before := fun _ _ _ _ => rfl
        own := fun k legs this => by cases this }
  | cons legs rest ih =>
    obtain ⟨next, first, others⟩ := each_cons done
    have refers : ∀ ref, some source = some ref → ref < s.transactions.nextId ∧ TransactionType.flow = .flow := by
      rintro ref ⟨⟩
      exact ⟨old, rfl⟩
    have one := saved_one sound right (fun same => by cases same) rfl refers first
    have later : source < next.transactions.nextId := by
      rw [one.size]
      exact Nat.lt_add_right _ old
    exact one.trans (ih one.sound one.right later others)

theorem stillCounts_new {s : Books} (sound : Sound s) {txn : Transaction} {legs : List Leg} (active : txn.status = .active)
    (plain : txn.kind ≠ .holdMoneyCollectVoid) : stillCounts (withLegs s txn legs) s.transactions.nextId = true := by
  unfold stillCounts
  rw [withLegs_transactions, Table.get_insert_self, Table.rows_insert, List.any_append, Bool.and_eq_true]
  refine ⟨by simp [active], ?_⟩
  have none : s.transactions.rows.any (fun entry =>
      entry.2.reversesId = some s.transactions.nextId && entry.2.kind = .holdMoneyCollectVoid) = false := by
    rw [List.any_eq_false]
    intro entry member reverses
    rw [Bool.and_eq_true, decide_eq_true_eq, decide_eq_true_eq] at reverses
    obtain ⟨i, p, found, -, same⟩ := sound.pickupVoids entry.1 entry.2 (Table.mem_rows.mp member) reverses.2
    obtain ⟨t, stands, -⟩ := (sound.pickups i p found).saved
    rw [reverses.1] at same
    exact absurd (Option.some.inj same ▸ Table.get_lt stands) (lt_irrefl _)
  rw [none]
  simp [plain]

theorem saveFlow_saved {s s' : Books} (sound : Sound s) (right : Right s) {time : ℤ} {legs : List Leg} {expenses : List (List Leg)}
    (done : saveFlow s time legs expenses = .ok s') : Saved s s' (legs :: expenses) := by
  obtain ⟨saved, first, rest⟩ := bind_ok done
  obtain ⟨booked, others, rfl⟩ := map_ok rest
  have flow : TransactionType.flow ≠ .holdMoneyCollectVoid := fun same => by cases same
  have one := saved_one sound right flow rfl (fun ref none => by cases none) first
  have new : s.transactions.nextId < saved.transactions.nextId := by
    rw [one.size]
    exact Nat.lt_succ_self _
  have both := one.trans (saveExpenses_saved one.sound one.right new others)
  have counts : stillCounts booked s.transactions.nextId = true := by
    rw [((saveExpenses_saved one.sound one.right new others).kept _ new).2, (saveTransaction_eq first).1]
    exact stillCounts_new sound rfl flow
  obtain ⟨soundThen, rightThen, unmoved⟩ := resolve_keeps both.sound both.right counts
  exact both.unmoved unmoved soundThen rightThen

/-- The pickup of a transaction just saved. -/
def withPickup (s : Books) (transactionId : Nat) : Books :=
  { s with pickups := s.pickups.insert { transactionId := transactionId } }

theorem unmoved_withPickup (s : Books) (id : Nat) : Unmoved s (withPickup s id) :=
  ⟨rfl, fun _ _ => rfl, fun _ _ _ => rfl⟩

theorem Right.withPickup {s : Books} (right : Right s) (id : Nat) : Right (withPickup s id) :=
  right

theorem Sound.withPickup {s : Books} {id : Nat} (sound : Sound s) (collected : Collected s id)
    (new : ∀ i p, s.pickups.get i = some p → p.transactionId ≠ id) : Sound (withPickup s id) where
  rows := sound.rows
  recorded := sound.recorded
  resolutions := by
    intro i r found
    obtain ⟨old, d, explains⟩ := sound.resolutions i r found
    exact ⟨old, d, explains.of_differences rfl⟩
  within := sound.within
  expenses := sound.expenses
  offset := sound.offset
  sources := sound.sources
  pickups := by
    intro i p found
    rcases Table.get_insert found with old | ⟨-, rfl⟩
    · exact ⟨(sound.pickups i p old).saved, (sound.pickups i p old).counted⟩
    · exact ⟨collected.saved, collected.counted⟩
  apart := by
    intro i j p q foundP foundQ same
    rcases Table.get_insert foundP with oldP | ⟨rfl, rfl⟩
    · rcases Table.get_insert foundQ with oldQ | ⟨rfl, rfl⟩
      · exact sound.apart i j p q oldP oldQ same
      · exact absurd same (new i p oldP)
    · rcases Table.get_insert foundQ with oldQ | ⟨rfl, -⟩
      · exact absurd same.symm (new j q oldQ)
      · rfl
  pickupVoids := by
    intro j t found voids
    obtain ⟨i, p, stands, facts⟩ := sound.pickupVoids j t found voids
    exact ⟨i, p, Table.get_insert_of_get stands, facts⟩

theorem collectHoldMoney_saved {s s' : Books} (sound : Sound s) (right : Right s) {time : ℤ} {legs : List PayoutLeg}
    (done : collectHoldMoney s time legs = .ok s') : Saved s s' [legs.map (·.toLeg)] := by
  obtain ⟨saved, first, rfl⟩ := map_ok done
  have plain : TransactionType.holdMoneyCollect ≠ .holdMoneyCollectVoid := fun same => by cases same
  have one := saved_one sound right plain rfl (fun ref none => by cases none) first
  obtain ⟨rfl, -⟩ := saveTransaction_eq first
  have collected : Collected (withLegs s { kind := .holdMoneyCollect, createdAt := time } (legs.map (·.toLeg)))
      s.transactions.nextId :=
    { saved := by
        rw [withLegs_transactions, Table.get_insert_self]
        exact ⟨_, rfl, rfl, rfl, rfl⟩
      counted := by
        intro i row found mine
        rcases get_bookRows found with old | new
        · exact absurd mine (sound.rows i row old).2.ne
        · obtain ⟨-, leg, inside, same⟩ := legRows_own new
          obtain ⟨payout, -, rfl⟩ := List.mem_map.mp inside
          rw [same]
          exact payout.counted }
  have new : ∀ i p, (withLegs s { kind := .holdMoneyCollect, createdAt := time } (legs.map (·.toLeg))).pickups.get i = some p →
      p.transactionId ≠ s.transactions.nextId := by
    intro i p found
    rw [withLegs_pickups] at found
    obtain ⟨t, stands, -⟩ := (sound.pickups i p found).saved
    exact (Table.get_lt stands).ne
  have soundThen := Sound.withPickup one.sound collected new
  have rightThen := Right.withPickup one.right s.transactions.nextId
  obtain ⟨soundEnd, rightEnd, unmoved⟩ := resolve_keeps soundThen rightThen (stillCounts_new sound rfl plain)
  exact one.unmoved ((unmoved_withPickup _ _).trans unmoved) soundEnd rightEnd

end Liratek.Drawer.LateEntries
