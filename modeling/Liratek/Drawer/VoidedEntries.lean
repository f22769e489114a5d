import Liratek.Drawer.LateEntries

/-! A void mirrors every leg of its transaction, and what the transaction resolved stops counting. -/

namespace Liratek.Drawer.VoidedEntries
open Lib Lib.Calls CheckpointDifference CheckpointResolution Postings ShortageExpense Standing LateEntries

/-- The mirrors of a transaction's legs. -/
def mirrors (s : Books) (id : Nat) : List Payment :=
  (s.payments.select (isLegOf id)).map fun entry => mirrored s.transactions.nextId entry.2

/-- The books once the legs of a transaction are mirrored by the newest one. -/
def reversed (s : Books) (transactions : Table Transaction) (pickups : Table HoldMoneyPickup) (id : Nat) : Books :=
  bookRows { s with transactions := transactions, pickups := pickups } (mirrors s id)

/-- A reversal is added, and its transaction does not count any more. -/
structure Turns (s : Books) (transactions : Table Transaction) (id : Nat) : Prop where
  before : stillCounts s id = true
  found : ∃ t, s.transactions.get id = some t ∧ t.reversesId = none
  size : transactions.nextId = s.transactions.nextId + 1
  counts : ∀ j < s.transactions.nextId, stillCounts { s with transactions := transactions } j = (stillCounts s j && decide (j ≠ id))
  old : ∀ j t, transactions.get j = some t → t.reversesId = none →
    ∃ t', s.transactions.get j = some t' ∧ t'.reversesId = none

/-- The target of a closed difference may have risen above what is booked. -/
def Rises (held target : ℚ) : Prop :=
  held + 1 / 10 ^ 9 ≤ target

theorem rises_wide (held target : ℚ) (rises : Rises held target) : 1 / 10 ^ 9 ≤ |held - target| := by
  rw [abs_sub_comm]
  exact (le_sub_iff_add_le'.mpr rises).trans (le_abs_self _)

section
variable {s : Books} {transactions : Table Transaction} {pickups : Table HoldMoneyPickup} {id : Nat}

@[simp] theorem reversed_transactions : (reversed s transactions pickups id).transactions = transactions :=
  bookRows_transactions _ _

@[simp] theorem reversed_pickups : (reversed s transactions pickups id).pickups = pickups :=
  bookRows_pickups _ _

@[simp] theorem reversed_differences : (reversed s transactions pickups id).differences = s.differences :=
  bookRows_differences _ _

@[simp] theorem reversed_resolutions : (reversed s transactions pickups id).resolutions = s.resolutions :=
  bookRows_resolutions _ _

@[simp] theorem reversed_expenses : (reversed s transactions pickups id).expenses = s.expenses :=
  bookRows_expenses _ _

theorem mem_mirrors {row : Payment} (member : row ∈ mirrors s id) :
    ∃ i original, s.payments.get i = some original ∧ original.transactionId = id ∧ row = mirrored s.transactions.nextId original := by
  obtain ⟨entry, listed, rfl⟩ := List.mem_map.mp member
  obtain ⟨found, own⟩ := Table.mem_select.mp listed
  exact ⟨entry.1, entry.2, found, of_decide_eq_true own, rfl⟩

theorem listed_mirrors (p : Payment → Bool) (same : ∀ row, p (mirrored s.transactions.nextId row) = p row) :
    listed p (mirrors s id) = -sumOf s fun row => isLegOf id row && p row := by
  have each : (mirrors s id).map (fun row => if p row then row.amount else 0) =
      (s.payments.select (isLegOf id)).map fun entry => -1 * if p entry.2 then entry.2.amount else 0 := by
    rw [mirrors, List.map_map]
    apply List.map_congr_left
    intro entry _
    dsimp only [Function.comp]
    rw [same, mirrored, mirrorRow]
    split_ifs
    · exact (neg_one_mul _).symm
    · exact (mul_zero _).symm
  have negated : (-sumOf s fun row => isLegOf id row && p row) =
      s.payments.total fun row => -1 * if isLegOf id row && p row then row.amount else 0 := by
    rw [← neg_one_mul, sumOf, Table.mul_total]
  rw [listed, each, negated, Table.sum_select s.payments (isLegOf id) fun row => -1 * if p row then row.amount else 0]
  apply Table.total_congr
  intro i row _
  by_cases own : isLegOf id row = true
  · rw [if_pos own, own, Bool.true_and]
  · rw [if_neg own, if_neg (by simp [own]), mul_zero]

theorem balance_reversed (drawerName currencyCode : String) :
    (reversed s transactions pickups id).balance drawerName currencyCode =
      s.balance drawerName currencyCode - sumOf s fun row => isLegOf id row && moves drawerName currencyCode row := by
  rw [reversed, balance_bookRows, listed_mirrors _ fun row => rfl, ← sub_eq_add_neg]

/-- The mirrors are the reversal's. -/
theorem sumOf_reversed {p : Payment → Bool} (others : ∀ row, row.transactionId = s.transactions.nextId → p row = false) :
    sumOf (reversed s transactions pickups id) p = sumOf s p := by
  have none : listed p (mirrors s id) = 0 := by
    apply listed_zero
    intro row member
    obtain ⟨i, original, -, -, rfl⟩ := mem_mirrors member
    exact others _ rfl
  rw [reversed, sumOf_bookRows, none, add_zero]
  rfl

theorem movement_reversed {j : Nat} (old : j < s.transactions.nextId) (drawerName currencyCode : String) :
    movement (reversed s transactions pickups id) j drawerName currencyCode = movement s j drawerName currencyCode := by
  apply sumOf_reversed
  intro row own
  simp [isMovement, own, old.ne']

theorem offsetOf_reversed {j : Nat} (old : j < s.transactions.nextId) (drawerName currencyCode : String) :
    offsetOf (reversed s transactions pickups id) j drawerName currencyCode = offsetOf s j drawerName currencyCode := by
  apply sumOf_reversed
  intro row own
  simp [isOffset, isLegOf, own, old.ne']

/-- What a transaction resolved of a difference. -/
def touchedBy (s : Books) (id differenceId : Nat) : ℚ :=
  s.resolutions.total fun r => if r.differenceId = differenceId && decide (r.transactionId = id) then |r.amount| else 0

variable (sound : Sound s) (turns : Turns s transactions id)
include sound turns

theorem counts_reversed {i : Nat} {r : Resolution} (found : s.resolutions.get i = some r) :
    stillCounts (reversed s transactions pickups id) r.transactionId =
      (stillCounts s r.transactionId && decide (r.transactionId ≠ id)) := by
  have same : stillCounts (reversed s transactions pickups id) r.transactionId =
      stillCounts { s with transactions := transactions } r.transactionId := by
    unfold stillCounts
    rw [reversed_transactions]
  rw [same, turns.counts _ (sound.resolutions i r found).1]

theorem resolvedOf_reversed (j : Nat) :
    resolvedOf (reversed s transactions pickups id) j + touchedBy s id j = resolvedOf s j := by
  rw [resolvedOf, reversed_resolutions, touchedBy, ← Table.total_add]
  apply Table.total_congr
  intro i r found
  rw [counts_reversed sound turns found]
  have before := turns.before
  by_cases own : r.transactionId = id
  · subst own
    by_cases this : r.differenceId = j <;> simp [this, before]
  · simp [own]

theorem explained_reversed (drawerName currencyCode : String) :
    explained (reversed s transactions pickups id) drawerName currencyCode + resolvedBy s id drawerName currencyCode =
      explained s drawerName currencyCode := by
  rw [explained, reversed_resolutions, resolvedBy, ← Table.total_add]
  apply Table.total_congr
  intro i r found
  unfold counted
  rw [counts_reversed sound turns found]
  have same : standsOn (reversed s transactions pickups id) drawerName currencyCode r.differenceId =
      standsOn s drawerName currencyCode r.differenceId := by
    unfold standsOn
    rw [reversed_differences]
  rw [same]
  have before := turns.before
  by_cases own : r.transactionId = id
  · subst own
    simp [before]
  · simp [own]

theorem standing_reversed (drawerName currencyCode : String) :
    standing (reversed s transactions pickups id) drawerName currencyCode =
      standing s drawerName currencyCode - movement s id drawerName currencyCode := by
  have explains : ∀ i r, (reversed s transactions pickups id).resolutions.get i = some r →
      ∃ d, Explains (reversed s transactions pickups id) r d := by
    intro i r found
    rw [reversed_resolutions] at found
    obtain ⟨-, d, facts⟩ := sound.resolutions i r found
    exact ⟨d, facts.of_differences reversed_differences⟩
  have same : corrected (reversed s transactions pickups id) drawerName currencyCode = corrected s drawerName currencyCode := by
    unfold corrected
    rw [reversed_differences]
  obtain ⟨t, found, notReversal⟩ := turns.found
  have offset := sound.offset id t found notReversal drawerName currencyCode
  have counted : explained (reversed s transactions pickups id) drawerName currencyCode + resolvedBy s id drawerName currencyCode =
      explained s drawerName currencyCode :=
    explained_reversed sound turns drawerName currencyCode
  rw [standing_eq explains, sound.standing_eq, same, balance_reversed, sound.moved]
  linarith

omit sound turns in
theorem touchedBy_nonneg (j : Nat) : 0 ≤ touchedBy s id j := by
  apply Table.total_nonneg
  intro i r _
  split_ifs
  · exact abs_nonneg _
  · exact le_rfl

/-- The pickups and the kinds of the transactions after the reversal. -/
structure Registered (s : Books) (transactions : Table Transaction) (pickups : Table HoldMoneyPickup) : Prop where
  sources : ∀ j t source, transactions.get j = some t → t.sourceRef = some source → source < j ∧ t.kind = .flow
  saved : ∀ i p, pickups.get i = some p → ∃ p', s.pickups.get i = some p' ∧ p'.transactionId = p.transactionId ∧
    ∃ t, transactions.get p.transactionId = some t ∧ t.kind = .holdMoneyCollect ∧ t.status = .active ∧ t.reversesId = none
  pickupVoids : ∀ j t, transactions.get j = some t → t.kind = .holdMoneyCollectVoid →
    ∃ i p, pickups.get i = some p ∧ p.isVoided = true ∧ t.reversesId = some p.transactionId

theorem Sound.reversed (registered : Registered s transactions pickups) : Sound (reversed s transactions pickups id) where
  rows := by
    intro i row found
    rw [reversed_transactions, turns.size]
    rcases get_bookRows found with old | new
    · exact ⟨(sound.rows i row old).1, Nat.lt_succ_of_lt (sound.rows i row old).2⟩
    · obtain ⟨k, original, stands, -, rfl⟩ := mem_mirrors new
      have good := (sound.rows k original stands).1
      exact ⟨⟨good.posting, good.onDrawer⟩, Nat.lt_succ_self _⟩
  recorded := by
    rw [reversed_differences]
    exact sound.recorded
  resolutions := by
    rw [reversed_resolutions, reversed_transactions, turns.size]
    intro i r found
    obtain ⟨old, d, explains⟩ := sound.resolutions i r found
    exact ⟨Nat.lt_succ_of_lt old, d, explains.of_differences reversed_differences⟩
  within := by
    rw [reversed_differences]
    intro i d found
    have less : resolvedOf (VoidedEntries.reversed s transactions pickups id) i + touchedBy s id i = resolvedOf s i :=
      resolvedOf_reversed sound turns i
    have nonneg : 0 ≤ touchedBy s id i := touchedBy_nonneg i
    have within := sound.within i d found
    linarith
  expenses := by
    rw [reversed_expenses, reversed_differences]
    exact sound.expenses
  offset := by
    intro j t found notReversal drawerName currencyCode
    rw [reversed_transactions] at found
    obtain ⟨t', stands, before⟩ := turns.old j t found notReversal
    rw [offsetOf_reversed (Table.get_lt stands), resolvedBy_congr reversed_resolutions reversed_differences]
    exact sound.offset j t' stands before drawerName currencyCode
  sources := by
    rw [reversed_transactions]
    exact registered.sources
  pickups := by
    rw [reversed_pickups]
    intro i p found
    obtain ⟨p', before, same, facts⟩ := registered.saved i p found
    obtain ⟨⟨t, stands, -⟩, counted⟩ := sound.pickups i p' before
    refine ⟨by rw [reversed_transactions]; exact facts, ?_⟩
    intro k row there mine
    rcases get_bookRows there with old | new
    · exact counted k row old (mine.trans same.symm)
    · obtain ⟨-, original, -, -, rfl⟩ := mem_mirrors new
      have newest : s.transactions.nextId = p'.transactionId := mine.trans same.symm
      exact absurd (newest ▸ Table.get_lt stands) (lt_irrefl _)
  apart := by
    rw [reversed_pickups]
    intro i j p q foundP foundQ same
    obtain ⟨p', beforeP, sameP, -⟩ := registered.saved i p foundP
    obtain ⟨q', beforeQ, sameQ, -⟩ := registered.saved j q foundQ
    exact sound.apart i j p' q' beforeP beforeQ (by rw [sameP, sameQ, same])
  pickupVoids := by
    rw [reversed_transactions, reversed_pickups]
    exact registered.pickupVoids

/-- The closed differences a transaction has resolutions on. -/
def touched (s : Books) (id : Nat) : List Nat :=
  (((s.resolutions.select fun r => r.transactionId = id).map (·.2.differenceId)).dedup).filter fun j =>
    (s.differences.get j).any (·.isClosed)

theorem slack_reversed {stale : Nat → Prop} (slack : Slack s Rises stale) :
    Slack (reversed s transactions pickups id) Rises fun j => stale j ∨ j ∈ touched s id := by
  intro j d found
  rw [reversed_differences] at found
  obtain ⟨held, same, holdable, settled⟩ := slack j d found
  refine ⟨held, ?_, holdable, ?_⟩
  · rw [← same]
    unfold activeExpenses
    rw [reversed_expenses]
  · rw [shortageTarget_eq] at settled ⊢
    have less : resolvedOf (reversed s transactions pickups id) j + touchedBy s id j = resolvedOf s j :=
      resolvedOf_reversed sound turns j
    by_cases touches : ∃ i r, s.resolutions.get i = some r ∧ r.transactionId = id ∧ r.differenceId = j
    · obtain ⟨i, r, stands, own, this⟩ := touches
      rcases Bool.eq_false_or_eq_true d.isClosed with closed | opened
      · have listed : j ∈ touched s id := by
          rw [touched, List.mem_filter, List.mem_dedup, found]
          refine ⟨List.mem_map.mpr ⟨(i, r), Table.mem_select.mpr ⟨stands, decide_eq_true own⟩, this⟩, ?_⟩
          exact closed
        obtain ⟨-, d', explains⟩ := sound.resolutions i r stands
        have sameD : d' = d := Option.some.inj (explains.found.symm.trans (this ▸ found))
        have one : |r.amount| ≤ touchedBy s id j := by
          have least := Table.le_total (t := s.resolutions)
            (f := fun r => if r.differenceId = j && decide (r.transactionId = id) then |r.amount| else 0) (by
              intro k other _
              split_ifs
              · exact abs_nonneg _
              · exact le_rfl) stands
          rw [if_pos (by simp [this, own])] at least
          exact least
        have more : resolvedOf (reversed s transactions pickups id) j + checkpointDifferenceEpsilon d.currencyCode <
            resolvedOf s j := by
          have above := explains.above
          rw [sameD] at above
          linarith
        have apart := targetFor_apart (resolvedOf_nonneg (reversed s transactions pickups id) j) more (sound.within j d found)
        rcases settled with settled | ⟨late, rises⟩
        · rcases apart with unchanged | rose
          · exact Or.inl (settled.trans unchanged)
          · refine Or.inr ⟨Or.inr listed, ?_⟩
            rw [settled]
            exact rose
        · refine Or.inr ⟨Or.inl late, ?_⟩
          rcases apart with unchanged | rose
          · rw [← unchanged]
            exact rises
          · have further : targetFor d (resolvedOf s j) ≤ targetFor d (resolvedOf (reversed s transactions pickups id) j) := by
              linarith only [rose]
            exact le_trans rises further
      · rw [targetFor_open opened] at settled ⊢
        exact settled.imp_right fun late => ⟨Or.inl late.1, late.2⟩
    · have none : touchedBy s id j = 0 := by
        apply Table.total_eq_zero
        intro i r stands
        rw [if_neg]
        rw [Bool.and_eq_true, decide_eq_true_eq, decide_eq_true_eq]
        rintro ⟨this, own⟩
        exact touches ⟨i, r, stands, own, this⟩
      rw [none, add_zero] at less
      rw [less]
      exact settled.imp_right fun late => ⟨Or.inl late.1, late.2⟩

end

/-! The voids. -/

theorem stillCounts_flow {s : Books} (sound : Sound s) {id : Nat} {t : Transaction} (found : s.transactions.get id = some t)
    (flow : t.kind = .flow) (active : t.status = .active) : stillCounts s id = true := by
  unfold stillCounts
  rw [found, Option.any_some, active, Bool.and_eq_true]
  refine ⟨rfl, ?_⟩
  rw [Bool.not_eq_true', List.any_eq_false]
  intro entry member reverses
  rw [Bool.and_eq_true, decide_eq_true_eq, decide_eq_true_eq] at reverses
  obtain ⟨i, p, stands, -, same⟩ := sound.pickupVoids entry.1 entry.2 (Table.mem_rows.mp member) reverses.2
  obtain ⟨t', there, collect, -⟩ := (sound.pickups i p stands).saved
  rw [reverses.1] at same
  rw [← Option.some.inj same, found] at there
  cases there
  rw [flow] at collect
  cases collect

/-- The transactions once one is voided. -/
def marked (s : Books) (id : Nat) (txn : Transaction) (now : ℤ) : Table Transaction :=
  (s.transactions.update id setVoided).insert (reversalOf id txn now)

theorem get_marked_other {s : Books} {id j : Nat} {txn : Transaction} {now : ℤ} (other : j ≠ id)
    (old : j < s.transactions.nextId) : (marked s id txn now).get j = s.transactions.get j := by
  rw [marked, Table.get_insert_of_ne _ _ (by rw [Table.nextId_update]; exact old.ne), Table.get_update_of_ne _ _ other]

section
variable {s : Books} (sound : Sound s) {id : Nat} {txn : Transaction} {now : ℤ} (found : s.transactions.get id = some txn)
  (flow : txn.kind = .flow)
include found flow

omit flow in
theorem get_marked {j : Nat} {t : Transaction} (there : (marked s id txn now).get j = some t) :
    (∃ t', s.transactions.get j = some t' ∧ t'.kind = t.kind ∧ t'.reversesId = t.reversesId ∧ t'.sourceRef = t.sourceRef) ∨
      j = s.transactions.nextId ∧ t = reversalOf id txn now := by
  rcases Table.get_insert there with old | ⟨last, new⟩
  · left
    by_cases this : j = id
    · rw [this, Table.get_update_self, found] at old
      cases old
      exact ⟨txn, this ▸ found, rfl, rfl, rfl⟩
    · rw [Table.get_update_of_ne _ _ this] at old
      exact ⟨t, old, rfl, rfl, rfl⟩
  · rw [Table.nextId_update] at last
    exact Or.inr ⟨last, new⟩

include sound

theorem turns_marked (active : txn.status = .active) (notReversal : txn.reversesId = none) : Turns s (marked s id txn now) id where
  before := stillCounts_flow sound found flow active
  found := ⟨txn, found, notReversal⟩
  size := by rw [marked, Table.nextId_insert, Table.nextId_update]
  counts := by
    intro j old
    have reversers : (marked s id txn now).rows.any (fun entry =>
          entry.2.reversesId = some j && entry.2.kind = .holdMoneyCollectVoid) =
        s.transactions.rows.any fun entry => entry.2.reversesId = some j && entry.2.kind = .holdMoneyCollectVoid := by
      rw [marked, Table.rows_insert, Table.rows_update, List.any_append, List.any_map, List.any_cons, List.any_nil]
      have last : decide ((reversalOf id txn now).kind = .holdMoneyCollectVoid) = false := by
        rw [reversalOf, flow]
        rfl
      rw [last, Bool.and_false, Bool.or_false, Bool.or_false]
      congr 1
      funext entry
      dsimp only [Function.comp]
      split_ifs <;> rfl
    unfold stillCounts
    dsimp only
    rw [reversers]
    by_cases this : j = id
    · rw [this, marked, Table.get_insert_of_get (by rw [Table.get_update_self, found]; rfl)]
      simp [setVoided]
    · rw [get_marked_other this old]
      simp [this]
  old := by
    intro j t there none
    rcases get_marked found there with ⟨t', stands, -, same, -⟩ | ⟨-, rfl⟩
    · exact ⟨t', stands, same.trans none⟩
    · cases none

theorem registered_marked : Registered s (marked s id txn now) s.pickups where
  sources := by
    intro j t source there refers
    rcases get_marked found there with ⟨t', stands, kind, -, same⟩ | ⟨rfl, rfl⟩
    · rw [← kind]
      exact sound.sources j t' source stands (same.trans refers)
    · have before := sound.sources id txn source found refers
      exact ⟨before.1.trans (Table.get_lt found), flow⟩
  saved := by
    intro i p there
    obtain ⟨t, stands, kind, facts⟩ := (sound.pickups i p there).saved
    have other : p.transactionId ≠ id := by
      intro this
      rw [this, found] at stands
      cases stands
      rw [flow] at kind
      cases kind
    exact ⟨p, there, rfl, t, by rw [get_marked_other other (Table.get_lt stands), stands], kind, facts⟩
  pickupVoids := by
    intro j t there voids
    rcases get_marked found there with ⟨t', stands, kind, same, -⟩ | ⟨-, rfl⟩
    · obtain ⟨i, p, pickup, voided, reverses⟩ := sound.pickupVoids j t' stands (kind.trans voids)
      exact ⟨i, p, pickup, voided, same ▸ reverses⟩
    · rw [reversalOf, flow] at voids
      cases voids

omit found flow in
theorem markVoided_eq {s' : Books} (done : markVoided s id txn now = .ok s') :
    s' = reversed s (marked s id txn now) s.pickups id := by
  refine reversePayments_rows ?_ done
  intro entry listed
  exact (sound.rows entry.1 entry.2 (Table.mem_select.mp listed).1).1

end

/-- Transactions were voided. -/
structure Voided (s s' : Books) (ids : List Nat) : Prop where
  sound : Sound s'
  differences : s'.differences = s.differences
  resolutions : s'.resolutions = s.resolutions
  size : s.transactions.nextId ≤ s'.transactions.nextId
  kept : ∀ j < s.transactions.nextId, j ∉ ids → s'.transactions.get j = s.transactions.get j
  standing : ∀ drawerName currencyCode, standing s' drawerName currencyCode =
    standing s drawerName currencyCode - (ids.map fun id => movement s id drawerName currencyCode).sum
  before : ∀ j < s.transactions.nextId, ∀ drawerName currencyCode,
    movement s' j drawerName currencyCode = movement s j drawerName currencyCode

theorem Voided.trans {a b c : Books} {first second : List Nat} (one : Voided a b first) (two : Voided b c second)
    (old : ∀ id ∈ second, id < a.transactions.nextId) : Voided a c (first ++ second) where
  sound := two.sound
  differences := two.differences.trans one.differences
  resolutions := two.resolutions.trans one.resolutions
  size := one.size.trans two.size
  kept := by
    intro j within outside
    rw [List.mem_append, not_or] at outside
    rw [two.kept j (within.trans_le one.size) outside.2, one.kept j within outside.1]
  standing := by
    intro drawerName currencyCode
    have same : (second.map fun id => movement b id drawerName currencyCode) =
        second.map fun id => movement a id drawerName currencyCode :=
      List.map_congr_left fun id member => one.before id (old id member) drawerName currencyCode
    rw [two.standing, one.standing, same, List.map_append, List.sum_append, sub_sub]
  before := by
    intro j within drawerName currencyCode
    rw [two.before j (within.trans_le one.size), one.before j within]

theorem Voided.unmoved {a b c : Books} {ids : List Nat} (voided : Voided a b ids) (unmoved : Unmoved b c) (sound : Sound c)
    (differences : c.differences = b.differences) (resolutions : c.resolutions = b.resolutions) : Voided a c ids where
  sound := sound
  differences := differences.trans voided.differences
  resolutions := resolutions.trans voided.resolutions
  size := by
    rw [unmoved.transactions]
    exact voided.size
  kept := by
    rw [unmoved.transactions]
    exact voided.kept
  standing drawerName currencyCode := by rw [unmoved.standing, voided.standing]
  before j within drawerName currencyCode := by rw [unmoved.movement, voided.before j within]

theorem resync_voided {a b : Books} {ids : List Nat} (voided : Voided a b ids) (id : Nat) :
    Voided a (resyncShortageAfterVoid b id) ids := by
  refine voided.unmoved (syncAll_unmoved b _) (Sound.syncAll voided.sound _) ?_ ?_
  · rw [resyncShortageAfterVoid, syncAll_eq]
  · rw [resyncShortageAfterVoid, syncAll_eq]

theorem resync_slack {s : Books} {stale : Nat → Prop} {id : Nat} (slack : Slack s Rises fun j => stale j ∨ j ∈ touched s id) :
    Slack (resyncShortageAfterVoid s id) Rises stale := by
  refine (slack.syncAll rises_wide (touched s id)).mono ?_
  rintro j ⟨late | listed, outside⟩
  · exact late
  · exact absurd listed outside

theorem touched_congr {s s' : Books} (differences : s'.differences = s.differences) (resolutions : s'.resolutions = s.resolutions)
    (id : Nat) : touched s' id = touched s id := by
  unfold touched
  rw [differences, resolutions]

section
variable {s s' : Books} (sound : Sound s) {id : Nat} {txn : Transaction} {now : ℤ} (found : s.transactions.get id = some txn)
  (flow : txn.kind = .flow) (active : txn.status = .active) (notReversal : txn.reversesId = none)
include sound found flow active notReversal

theorem markVoided_voided (done : markVoided s id txn now = .ok s') : Voided s s' [id] := by
  have turns : Turns s (marked s id txn now) id := turns_marked sound found flow active notReversal
  rw [markVoided_eq sound done]
  exact
    { sound := Sound.reversed sound turns (registered_marked sound found flow)
      differences := reversed_differences
      resolutions := reversed_resolutions
      size := by
        rw [reversed_transactions, turns.size]
        exact Nat.le_succ _
      kept := by
        intro j within outside
        rw [reversed_transactions, get_marked_other (fun same => outside (List.mem_singleton.mpr same)) within]
      standing := by
        intro drawerName currencyCode
        rw [standing_reversed sound turns, List.map_singleton, List.sum_singleton]
      before := fun j within => movement_reversed within }

theorem markVoided_slack {stale : Nat → Prop} (slack : Slack s Rises stale) (done : markVoided s id txn now = .ok s') :
    Slack s' Rises fun j => stale j ∨ j ∈ touched s' id := by
  have voided := markVoided_voided sound found flow active notReversal done
  rw [touched_congr voided.differences voided.resolutions]
  rw [markVoided_eq sound done]
  exact slack_reversed sound (turns_marked sound found flow active notReversal) slack

end

/-- The transaction can be voided as an auto expense of another. -/
structure Voidable (s : Books) (entry : Nat × Transaction) : Prop where
  found : s.transactions.get entry.1 = some entry.2
  flow : entry.2.kind = .flow
  active : entry.2.status = .active
  notReversal : entry.2.reversesId = none

theorem voidSiblings_voided {now : ℤ} {entries : List (Nat × Transaction)} {s s' : Books} {stale : Nat → Prop} (sound : Sound s)
    (slack : Slack s Rises stale) (voidable : ∀ entry ∈ entries, Voidable s entry) (distinct : (entries.map (·.1)).Nodup)
    (done : each (voidSibling now) s entries = .ok s') : Voided s s' (entries.map (·.1)) ∧ Slack s' Rises stale := by
  induction entries generalizing s with
  | nil =>
    cases done
    refine ⟨?_, slack⟩
    exact
      { sound := sound
        differences := rfl
        resolutions := rfl
        size := le_rfl
        kept := fun _ _ _ => rfl
        standing := fun _ _ => (sub_zero _).symm
        before := fun _ _ _ _ => rfl }
  | cons entry rest ih =>
    obtain ⟨next, first, others⟩ := each_cons done
    obtain ⟨mark, called, rfl⟩ := map_ok first
    obtain ⟨⟨found, flow, active, notReversal⟩, voidableRest⟩ := List.forall_mem_cons.mp voidable
    rw [List.map_cons, List.nodup_cons] at distinct
    have one := resync_voided (markVoided_voided sound found flow active notReversal called) entry.1
    have slackNext := resync_slack (markVoided_slack sound found flow active notReversal slack called)
    have still : ∀ other ∈ rest, Voidable (resyncShortageAfterVoid mark entry.1) other := by
      intro other member
      have facts := voidableRest other member
      have apart : other.1 ∉ [entry.1] := by
        rw [List.mem_singleton]
        intro same
        exact distinct.1 (same ▸ List.mem_map_of_mem member)
      exact { facts with found := (one.kept _ (Table.get_lt facts.found) apart).trans facts.found }
    obtain ⟨voided, slackEnd⟩ := ih one.sound slackNext still distinct.2 others
    refine ⟨one.trans voided ?_, slackEnd⟩
    intro id listed
    obtain ⟨other, member, rfl⟩ := List.mem_map.mp listed
    exact Table.get_lt (voidableRest other member).found

/-- The void of a transaction leaves its auto expenses as they were. -/
theorem expenseSiblings_marked {s s' : Books} (sound : Sound s) {id : Nat} {txn : Transaction} {now : ℤ}
    (found : s.transactions.get id = some txn) (done : markVoided s id txn now = .ok s') :
    expenseSiblings s' id = expenseSiblings s id := by
  have notOwn : txn.sourceRef ≠ some id := fun own => absurd (sound.sources id txn id found own).1 (lt_irrefl id)
  unfold expenseSiblings
  rw [markVoided_eq sound done, reversed_transactions, marked, Table.select_insert, if_neg (by simp [reversalOf]), List.append_nil,
    Table.select_update]
  · rw [List.map_congr_left (g := fun entry => entry)]
    · exact List.map_id' _
    · intro entry member
      obtain ⟨there, chosen⟩ := Table.mem_select.mp member
      have other : entry.1 ≠ id := by
        intro this
        rw [this, found] at there
        cases there
        simp [notOwn] at chosen
      rw [if_neg other]
  · intro row there
    rw [found] at there
    cases there
    simp [setVoided, notOwn]

/-- A void gives back what the transaction and its auto expenses moved. -/
theorem voidTransaction_voided {s s' : Books} {id : Nat} {now : ℤ} (sound : Sound s) (right : Right s)
    (done : voidTransaction s id now = .ok s') : Voided s s' (id :: (expenseSiblings s id).map (·.1)) ∧ Right s' := by
  unfold voidTransaction at done
  split at done
  · cases done
  · rename_i txn found
    split_ifs at done with voided fixed reversal
    obtain ⟨mark, called, rest⟩ := bind_ok done
    obtain ⟨siblings, others, rfl⟩ := map_ok rest
    have flow : txn.kind = .flow := by
      cases kind : txn.kind with
      | flow => rfl
      | holdMoneyCollect => simp [kind, isNonReversible] at fixed
      | holdMoneyCollectVoid => simp [kind, isNonReversible] at fixed
    have active : txn.status = .active := by
      cases status : txn.status with
      | active => rfl
      | voided => exact absurd status voided
    have notReversal : txn.reversesId = none := Option.not_isSome_iff_eq_none.mp reversal
    have own := markVoided_voided sound found flow active notReversal called
    have slack := markVoided_slack sound found flow active notReversal (right.slack Rises) called
    have voidable : ∀ entry ∈ expenseSiblings mark id, Voidable mark entry := by
      intro entry member
      obtain ⟨there, chosen⟩ := Table.mem_select.mp member
      simp only [Bool.and_eq_true, decide_eq_true_eq, Option.isNone_iff_eq_none] at chosen
      exact ⟨there, (own.sound.sources entry.1 entry.2 id there chosen.1.1).2, chosen.1.2, chosen.2⟩
    obtain ⟨all, slackAll⟩ := voidSiblings_voided own.sound slack voidable (Table.select_nodup _ _) others
    have same := expenseSiblings_marked sound found called
    rw [same] at all
    have both := own.trans all (by
      intro other listed
      obtain ⟨entry, member, rfl⟩ := List.mem_map.mp listed
      exact Table.get_lt (Table.mem_select.mp member).1)
    refine ⟨resync_voided both id, ?_⟩
    have there : touched siblings id = touched mark id := touched_congr all.differences all.resolutions id
    rw [← there] at slackAll
    exact (resync_slack slackAll).right fun _ never => never

/-! The void of a pickup. -/

def pickupReversal (transactionId : Nat) (now : ℤ) : Transaction where
  kind := .holdMoneyCollectVoid
  createdAt := now
  reversesId := some transactionId

section
variable {s : Books} (sound : Sound s) {pickupId : Nat} {pickup : HoldMoneyPickup} {now : ℤ}
  (found : s.pickups.get pickupId = some pickup) (notVoided : pickup.isVoided = false)
include sound found

theorem stillCounts_pickup (notVoided : pickup.isVoided = false) : stillCounts s pickup.transactionId = true := by
  obtain ⟨t, stands, kind, active, -⟩ := (sound.pickups pickupId pickup found).saved
  unfold stillCounts
  rw [stands, Option.any_some, active, Bool.and_eq_true]
  refine ⟨rfl, ?_⟩
  rw [Bool.not_eq_true', List.any_eq_false]
  intro entry member reverses
  rw [Bool.and_eq_true, decide_eq_true_eq, decide_eq_true_eq] at reverses
  obtain ⟨i, p, there, voided, same⟩ := sound.pickupVoids entry.1 entry.2 (Table.mem_rows.mp member) reverses.2
  rw [reverses.1] at same
  have this := sound.apart pickupId i pickup p found there (Option.some.inj same)
  rw [← this, found] at there
  cases there
  rw [notVoided] at voided
  cases voided

include notVoided

theorem turns_pickup :
    Turns s (s.transactions.insert (pickupReversal pickup.transactionId now)) pickup.transactionId where
  before := stillCounts_pickup sound found notVoided
  found := by
    obtain ⟨t, stands, -, -, notReversal⟩ := (sound.pickups pickupId pickup found).saved
    exact ⟨t, stands, notReversal⟩
  size := Table.nextId_insert _ _
  counts := by
    intro j old
    unfold stillCounts
    dsimp only
    rw [Table.get_insert_of_ne _ _ old.ne, Table.rows_insert, List.any_append]
    by_cases this : j = pickup.transactionId
    · simp [this, pickupReversal]
    · simp [this, pickupReversal, Ne.symm this]
  old := by
    intro j t there none
    rcases Table.get_insert there with before | ⟨-, rfl⟩
    · exact ⟨t, before, none⟩
    · cases none

omit notVoided in
theorem registered_pickup : Registered s (s.transactions.insert (pickupReversal pickup.transactionId now))
    (s.pickups.update pickupId setPickupVoided) where
  sources := by
    intro j t source there refers
    rcases Table.get_insert there with before | ⟨-, rfl⟩
    · exact sound.sources j t source before refers
    · cases refers
  saved := by
    intro i p there
    have before : ∃ p', s.pickups.get i = some p' ∧ p'.transactionId = p.transactionId := by
      by_cases this : i = pickupId
      · rw [this, Table.get_update_self, found] at there
        cases there
        exact ⟨pickup, this ▸ found, rfl⟩
      · rw [Table.get_update_of_ne _ _ this] at there
        exact ⟨p, there, rfl⟩
    obtain ⟨p', stands, same⟩ := before
    obtain ⟨t, old, facts⟩ := (sound.pickups i p' stands).saved
    exact ⟨p', stands, same, t, Table.get_insert_of_get (same ▸ old), facts⟩
  pickupVoids := by
    intro j t there voids
    rcases Table.get_insert there with before | ⟨-, rfl⟩
    · obtain ⟨i, p, stands, voided, same⟩ := sound.pickupVoids j t before voids
      refine ⟨i, if pickupId = i then setPickupVoided p else p, Table.get_update_of_get stands _ _, ?_⟩
      split_ifs
      · exact ⟨rfl, same⟩
      · exact ⟨voided, same⟩
    · exact ⟨pickupId, setPickupVoided pickup, by rw [Table.get_update_self, found]; rfl, rfl, rfl⟩

end

/-- A void gives back what the pickup paid out. -/
theorem voidPickup_voided {s s' : Books} {pickupId : Nat} {now : ℤ} (sound : Sound s) (right : Right s)
    (done : voidPickup s pickupId now = .ok s') :
    ∃ pickup, s.pickups.get pickupId = some pickup ∧ Voided s s' [pickup.transactionId] ∧ Right s' := by
  unfold voidPickup at done
  split at done
  · cases done
  · rename_i pickup found
    split_ifs at done with voided
    dsimp only at done
    obtain ⟨posted, mirroring, rfl⟩ := map_ok done
    have notVoided : pickup.isVoided = false := Bool.eq_false_iff.mpr voided
    have turns : Turns s (s.transactions.insert (pickupReversal pickup.transactionId now)) pickup.transactionId :=
      turns_pickup sound found notVoided
    have rows := reversePickup_rows (fun entry listed => by
      obtain ⟨there, own⟩ := Table.mem_select.mp listed
      exact ⟨(sound.rows entry.1 entry.2 there).1,
        (sound.pickups pickupId pickup found).counted entry.1 entry.2 there (of_decide_eq_true own)⟩) mirroring
    have same : { posted with pickups := posted.pickups.update pickupId setPickupVoided } =
        reversed s (s.transactions.insert (pickupReversal pickup.transactionId now)) (s.pickups.update pickupId setPickupVoided)
          pickup.transactionId := by
      rw [rows, bookRows_pickups, bookRows_setPickups]
      rfl
    rw [same]
    have all : Voided s (reversed s (s.transactions.insert (pickupReversal pickup.transactionId now))
        (s.pickups.update pickupId setPickupVoided) pickup.transactionId) [pickup.transactionId] :=
      { sound := Sound.reversed sound turns (registered_pickup sound found)
        differences := reversed_differences
        resolutions := reversed_resolutions
        size := by
          rw [reversed_transactions, turns.size]
          exact Nat.le_succ _
        kept := by
          intro j within _
          rw [reversed_transactions, Table.get_insert_of_ne _ _ within.ne]
        standing := by
          intro drawerName currencyCode
          rw [standing_reversed sound turns, List.map_singleton, List.sum_singleton]
        before := fun j within => movement_reversed within }
    refine ⟨pickup, found, resync_voided all _, ?_⟩
    have slack : Slack (reversed s (s.transactions.insert (pickupReversal pickup.transactionId now))
        (s.pickups.update pickupId setPickupVoided) pickup.transactionId) Rises fun j => False ∨ j ∈ touched s pickup.transactionId :=
      slack_reversed sound turns (right.slack Rises)
    rw [← touched_congr all.differences all.resolutions] at slack
    exact (resync_slack slack).right fun _ never => never

end Liratek.Drawer.VoidedEntries
