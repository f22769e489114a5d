import Liratek.Exchange.Lots
import Liratek.Lib.Draws
import Liratek.Lib.Runs

/-! No quantity of a lot is settled twice, and none is lost, over any sequence of calls. -/

namespace Liratek.Exchange.Lots
open Lib Lib.Draws Lib.Runs

/-- What a settlement holds of a lot while it is active. -/
def reading : Reading ExchangeLot ExchangeLotSettlement ℚ where
  original := ExchangeLot.originalQty
  remaining := ExchangeLot.remainingQty
  holds s id := if s.lotId = some id ∧ s.isRefunded = false then s.qty else 0

theorem holds_active {s : ExchangeLotSettlement} {id : Nat} (on : s.lotId = some id) (active : s.isRefunded = false) :
    reading.holds s id = s.qty :=
  if_pos ⟨on, active⟩

theorem holds_off {s : ExchangeLotSettlement} {id : Nat} (off : s.lotId ≠ some id) : reading.holds s id = 0 :=
  if_neg fun both => off both.1

theorem holds_refunded {s : ExchangeLotSettlement} (refunded : s.isRefunded = true) (id : Nat) :
    reading.holds s id = 0 := by
  refine if_neg ?_
  rw [refunded]
  intro both
  cases both.2

/-- The active settlements of a lot, together. -/
def settledQty (b : Book) (id : Nat) : ℚ :=
  drawnOn reading b.settlements id

structure Sound (b : Book) : Prop where
  balanced : Balanced reading b.lots b.settlements
  nonneg : ∀ id lot, b.lots.get id = some lot → 0 ≤ lot.remainingQty
  positive : ∀ d s, b.settlements.get d = some s → 0 < s.qty
  known : ∀ d s, b.settlements.get d = some s → ∀ id, s.lotId = some id → id < b.lots.nextId
  voided : ∀ id lot, b.lots.get id = some lot → lot.isVoided = true →
    ∀ d s, b.settlements.get d = some s → s.lotId = some id → s.isRefunded = true

theorem sound_empty : Sound {} where
  balanced := balanced_empty
  nonneg id lot found := by cases found
  positive d s found := by cases found
  known d s found := by cases found
  voided id lot found := by cases found

/-- Since `b`, a voided lot stays voided and no settlement on it is new or changed. -/
def Untouched (b b' : Book) : Prop :=
  ∀ id lot, b.lots.get id = some lot → lot.isVoided = true →
    (∃ lot', b'.lots.get id = some lot' ∧ lot'.isVoided = true) ∧
      ∀ d s, b'.settlements.get d = some s → s.lotId = some id → b.settlements.get d = some s

theorem untouched_refl (b : Book) : Untouched b b :=
  fun _ lot found voided => ⟨⟨lot, found, voided⟩, fun _ _ found _ => found⟩

theorem Untouched.trans {a b c : Book} (first : Untouched a b) (second : Untouched b c) : Untouched a c := by
  intro id lot found voided
  obtain ⟨⟨lot', found', voided'⟩, before⟩ := first id lot found voided
  obtain ⟨still, after⟩ := second id lot' found' voided'
  exact ⟨still, fun d s there on => before d s (after d s there on) on⟩

/-! One row written, or one row given back. -/

section
variable {b : Book} (sound : Sound b)
include sound

theorem Sound.holds_nonneg (d : Nat) (s : ExchangeLotSettlement) (found : b.settlements.get d = some s) (id : Nat) :
    0 ≤ reading.holds s id := by
  unfold reading
  dsimp only
  split_ifs
  · exact (sound.positive d s found).le
  · exact le_rfl

theorem Sound.remaining_le {id : Nat} {lot : ExchangeLot} (found : b.lots.get id = some lot) :
    lot.remainingQty ≤ lot.originalQty :=
  sound.balanced.remaining_le sound.holds_nonneg found

theorem createLot_sound (input : CreateLotInput) : Sound (createLot b input) := by
  have undrawn : drawnOn reading b.settlements b.lots.nextId = 0 := by
    apply Table.total_eq_zero
    intro d s found
    apply holds_off
    intro on
    exact absurd (sound.known d s found _ on) (lt_irrefl _)
  refine ⟨sound.balanced.open rfl undrawn, ?_, sound.positive, ?_, ?_⟩
  · intro id lot found
    rcases Table.get_insert found with old | ⟨-, rfl⟩
    · exact sound.nonneg id lot old
    · exact input.positive.le
  · intro d s found id on
    rw [createLot, Table.nextId_insert]
    exact Nat.lt_succ_of_lt (sound.known d s found id on)
  · intro id lot found voided
    rcases Table.get_insert found with old | ⟨-, rfl⟩
    · exact sound.voided id lot old voided
    · cases voided

omit sound in
theorem createLot_untouched (input : CreateLotInput) : Untouched b (createLot b input) :=
  fun _ lot found voided => ⟨⟨lot, Table.get_insert_of_get found, voided⟩, fun _ _ there _ => there⟩

theorem takeFromLot_sound (params : WalkParams) {w : Walk} (here : w.book = b) {lotId : Nat} {lot : ExchangeLot}
    (found : b.lots.get lotId = some lot) (live : lot.isVoided = false) {take : ℚ} (positive : 0 < take)
    (within : take ≤ lot.remainingQty) : Sound (takeFromLot params w lotId lot take).book := by
  subst here
  refine ⟨?_, ?_, ?_, ?_, ?_⟩
  · refine sound.balanced.draw (m := take) (fun _ => rfl) (fun _ => rfl) ?_ ?_
    · exact holds_active rfl rfl
    · intro id other
      apply holds_off
      intro on
      exact other (Option.some.inj on).symm
  · intro id lot' found'
    dsimp only [takeFromLot] at found'
    by_cases this : id = lotId
    · rw [this, Table.get_update_self, found] at found'
      cases found'
      exact sub_nonneg.mpr within
    · rw [Table.get_update_of_ne _ _ this] at found'
      exact sound.nonneg id lot' found'
  · intro d s found'
    rcases Table.get_insert found' with old | ⟨-, rfl⟩
    · exact sound.positive d s old
    · exact positive
  · intro d s found' id on
    dsimp only [takeFromLot]
    rw [Table.nextId_update]
    rcases Table.get_insert found' with old | ⟨-, rfl⟩
    · exact sound.known d s old id on
    · cases on
      exact Table.get_lt found
  · intro id lot' found' voided d s there on
    dsimp only [takeFromLot] at found'
    by_cases this : id = lotId
    · rw [this, Table.get_update_self, found] at found'
      cases found'
      rw [live] at voided
      cases voided
    · rw [Table.get_update_of_ne _ _ this] at found'
      rcases Table.get_insert there with old | ⟨-, rfl⟩
      · exact sound.voided id lot' found' voided d s old on
      · cases on
        exact absurd rfl this

theorem takeFromMarket_sound (params : WalkParams) {w : Walk} (here : w.book = b) :
    Sound (takeFromMarket params w).book := by
  subst here
  unfold takeFromMarket
  split_ifs with short
  · rw [Bool.and_eq_true, decide_eq_true_iff, decide_eq_true_iff] at short
    have positive : 0 < w.remaining := lt_trans (by norm_num [lotQtyEpsilon]) short.2
    refine ⟨?_, sound.nonneg, ?_, ?_, ?_⟩
    · apply sound.balanced.idle
      intro id
      apply holds_off
      intro on
      cases on
    · intro d s found
      rcases Table.get_insert found with old | ⟨-, rfl⟩
      · exact sound.positive d s old
      · exact positive
    · intro d s found id on
      rcases Table.get_insert found with old | ⟨-, rfl⟩
      · exact sound.known d s old id on
      · cases on
    · intro id lot found voided d s there on
      rcases Table.get_insert there with old | ⟨-, rfl⟩
      · exact sound.voided id lot found voided d s old on
      · cases on
  · exact sound

theorem restoreOne_sound {d : Nat} {s : ExchangeLotSettlement} (found : b.settlements.get d = some s)
    (active : s.isRefunded = false) : Sound (restoreOne b d s) := by
  have none : ∀ id, reading.holds { s with isRefunded := true } id = 0 := holds_refunded rfl
  have rows : ∀ d' s', (restoreOne b d s).settlements.get d' = some s' →
      ∃ s₀, b.settlements.get d' = some s₀ ∧ s'.qty = s₀.qty ∧ s'.lotId = s₀.lotId ∧
        (s₀.isRefunded = true → s'.isRefunded = true) := by
    intro d' s' found'
    dsimp only [restoreOne] at found'
    by_cases this : d' = d
    · rw [this, Table.get_update_self, found] at found'
      cases found'
      exact ⟨s, this ▸ found, rfl, rfl, fun _ => rfl⟩
    · rw [Table.get_update_of_ne _ _ this] at found'
      exact ⟨s', found', rfl, rfl, id⟩
  refine ⟨?_, ?_, ?_, ?_, ?_⟩
  · unfold restoreOne
    dsimp only
    rcases on : s.lotId with _ | lotId
    · apply sound.balanced.congr
      intro id
      have idle : reading.holds s id = 0 := by
        apply holds_off
        rw [on]
        exact Option.some_ne_none id |>.symm
      rw [drawnOn_update found, idle, none, sub_zero, add_zero]
    · refine sound.balanced.redraw (m := s.qty) found (fun _ => rfl) (fun _ => rfl) ?_ ?_
      · rw [none, holds_active on active, sub_self]
      · intro id other
        rw [none, holds_off]
        rw [on]
        intro same
        exact other (Option.some.inj same).symm
  · intro id lot found'
    unfold restoreOne at found'
    dsimp only at found'
    rcases on : s.lotId with _ | lotId
    · rw [on] at found'
      exact sound.nonneg id lot found'
    · rw [on] at found'
      dsimp only at found'
      by_cases this : id = lotId
      · rw [this, Table.get_update_self] at found'
        obtain ⟨lot', old, rfl⟩ := Option.map_eq_some_iff.mp found'
        exact add_nonneg (sound.nonneg lotId lot' old) (sound.positive d s found).le
      · rw [Table.get_update_of_ne _ _ this] at found'
        exact sound.nonneg id lot found'
  · intro d' s' found'
    obtain ⟨s₀, old, qty, -, -⟩ := rows d' s' found'
    rw [qty]
    exact sound.positive d' s₀ old
  · intro d' s' found' id on
    obtain ⟨s₀, old, -, lotId, -⟩ := rows d' s' found'
    have before := sound.known d' s₀ old id (lotId ▸ on)
    unfold restoreOne
    dsimp only
    split
    · exact before
    · rwa [Table.nextId_update]
  · intro id lot found' voided d' s' there on
    obtain ⟨s₀, old, -, lotId, refunded⟩ := rows d' s' there
    apply refunded
    unfold restoreOne at found'
    dsimp only at found'
    split at found'
    · exact sound.voided id lot found' voided d' s₀ old (lotId ▸ on)
    · rename_i k _
      by_cases this : id = k
      · rw [this, Table.get_update_self] at found'
        obtain ⟨lot', old', rfl⟩ := Option.map_eq_some_iff.mp found'
        exact sound.voided k lot' old' voided d' s₀ old (this ▸ lotId ▸ on)
      · rw [Table.get_update_of_ne _ _ this] at found'
        exact sound.voided id lot found' voided d' s₀ old (lotId ▸ on)

theorem restoreOne_untouched {d : Nat} {s : ExchangeLotSettlement} (found : b.settlements.get d = some s)
    (active : s.isRefunded = false) : Untouched b (restoreOne b d s) := by
  intro id lot there voided
  constructor
  · unfold restoreOne
    dsimp only
    split
    · exact ⟨lot, there, voided⟩
    · rename_i k _
      by_cases this : id = k
      · rw [← this, Table.get_update_self, there]
        exact ⟨_, rfl, voided⟩
      · rw [Table.get_update_of_ne _ _ this]
        exact ⟨lot, there, voided⟩
  · intro d' s' found' on
    dsimp only [restoreOne] at found'
    by_cases this : d' = d
    · rw [this, Table.get_update_self, found] at found'
      cases found'
      have refunded := sound.voided id lot there voided d s found on
      rw [active] at refunded
      cases refunded
    · rwa [Table.get_update_of_ne _ _ this] at found'

theorem voidLotsBySource_sound {sourceTable : String} {sourceId : Nat}
    (free : hasActiveSettlementsAgainstSource b sourceTable sourceId = false) :
    Sound (voidLotsBySource b sourceTable sourceId) := by
  refine ⟨sound.balanced.mark (fun _ => rfl) fun _ => rfl, ?_, sound.positive, ?_, ?_⟩
  · intro id lot found
    dsimp only [voidLotsBySource] at found
    rw [Table.get_updateWhere] at found
    obtain ⟨lot', old, rfl⟩ := Option.map_eq_some_iff.mp found
    split_ifs
    · exact sound.nonneg id lot' old
    · exact sound.nonneg id lot' old
  · intro d s found id on
    dsimp only [voidLotsBySource]
    rw [Table.nextId_updateWhere]
    exact sound.known d s found id on
  · intro id lot found voided d s there on
    dsimp only [voidLotsBySource] at found
    rw [Table.get_updateWhere] at found
    obtain ⟨lot', old, rfl⟩ := Option.map_eq_some_iff.mp found
    split_ifs at voided with fromSource
    · by_contra active
      rw [Bool.not_eq_true] at active
      unfold hasActiveSettlementsAgainstSource at free
      rw [List.any_eq_false] at free
      apply free (d, s) (Table.mem_select.mpr ⟨there, by rw [active]; rfl⟩)
      dsimp only
      rw [on, Option.bind_some, old, Option.map_some, fromSource]
      rfl
    · exact sound.voided id lot' old voided d s there on

omit sound in
theorem voidLotsBySource_untouched (sourceTable : String) (sourceId : Nat) :
    Untouched b (voidLotsBySource b sourceTable sourceId) := by
  intro id lot found voided
  refine ⟨?_, fun _ _ there _ => there⟩
  dsimp only [voidLotsBySource]
  rw [Table.get_updateWhere, found]
  refine ⟨_, rfl, ?_⟩
  dsimp only
  split_ifs
  · rfl
  · exact voided

end

/-! Rows given back. -/

theorem restoreAll_sound (entries : List (Nat × ExchangeLotSettlement)) (distinct : (entries.map (·.1)).Nodup)
    {b : Book} (sound : Sound b)
    (active : ∀ entry ∈ entries, b.settlements.get entry.1 = some entry.2 ∧ entry.2.isRefunded = false) :
    Sound (entries.foldl (fun acc entry => restoreOne acc entry.1 entry.2) b) ∧
      Untouched b (entries.foldl (fun acc entry => restoreOne acc entry.1 entry.2) b) := by
  induction entries generalizing b with
  | nil => exact ⟨sound, untouched_refl b⟩
  | cons entry rest ih =>
    obtain ⟨found, live⟩ := active entry List.mem_cons_self
    rw [List.map_cons, List.nodup_cons] at distinct
    have later : ∀ entry' ∈ rest,
        (restoreOne b entry.1 entry.2).settlements.get entry'.1 = some entry'.2 ∧ entry'.2.isRefunded = false := by
      intro entry' member
      have other : entry'.1 ≠ entry.1 := fun same => distinct.1 (List.mem_map.mpr ⟨entry', member, same⟩)
      dsimp only [restoreOne]
      rw [Table.get_update_of_ne _ _ other]
      exact active entry' (List.mem_cons_of_mem entry member)
    obtain ⟨after, untouched⟩ := ih distinct.2 (restoreOne_sound sound found live) later
    exact ⟨after, (restoreOne_untouched sound found live).trans untouched⟩

theorem restoreSettlements_sound {b : Book} (sound : Sound b) (settledByTable : String) (settledById : Nat) :
    Sound (restoreSettlements b settledByTable settledById) ∧
      Untouched b (restoreSettlements b settledByTable settledById) := by
  apply restoreAll_sound _ (Table.select_nodup ..) sound
  intro entry member
  obtain ⟨found, chosen⟩ := Table.mem_select.mp member
  rw [Bool.and_eq_true, Bool.not_eq_true'] at chosen
  exact ⟨found, chosen.2⟩

/-! The walk over the open lots. -/

theorem epsilon_pos : 0 < lotQtyEpsilon := by
  norm_num [lotQtyEpsilon]

theorem mem_openLots {b : Book} {currencyCode : String} {id : Nat} {lot : ExchangeLot} :
    (id, lot) ∈ openLots b currencyCode ↔
      b.lots.get id = some lot ∧ lot.currencyCode = currencyCode ∧ isOpen lot = true := by
  unfold openLots
  rw [List.mem_insertionSort, Table.mem_select, Bool.and_eq_true, decide_eq_true_iff]

theorem openLots_nodup (b : Book) (currencyCode : String) : ((openLots b currencyCode).map (·.1)).Nodup :=
  ((List.perm_insertionSort _ _).map _).nodup_iff.mpr (Table.select_nodup ..)

theorem isOpen_iff {lot : ExchangeLot} : isOpen lot = true ↔ lot.isVoided = false ∧ lotQtyEpsilon < lot.remainingQty := by
  unfold isOpen
  rw [Bool.and_eq_true, Bool.not_eq_true', decide_eq_true_iff]

def writtenQty (written : List ExchangeLotSettlement) : ℚ :=
  (written.map (·.qty)).sum

theorem writtenQty_snoc (written : List ExchangeLotSettlement) (s : ExchangeLotSettlement) :
    writtenQty (written ++ [s]) = writtenQty written + s.qty := by
  simp [writtenQty]

/-- Since `w`, a walk over `entries` has written rows of open lots, and has stopped only when little was left to
settle or when every lot was exhausted. -/
structure Walked (w w' : Walk) (entries : List (Nat × ExchangeLot)) : Prop where
  sound : Sound w'.book
  added : ∃ added, w'.written = w.written ++ added ∧
    w'.book.settlements.slots = w.book.settlements.slots ++ added.map some ∧
    writtenQty added = w.remaining - w'.remaining ∧
    ∀ s ∈ added, s.basisSource = .lot ∧ ∃ entry ∈ entries, s.lotId = some entry.1
  nonneg : 0 ≤ w'.remaining
  le : w'.remaining ≤ w.remaining
  others : ∀ id, id ∉ entries.map (·.1) → w'.book.lots.get id = w.book.lots.get id
  exhausted : lotQtyEpsilon < w'.remaining →
    ∀ entry ∈ entries, w'.book.lots.get entry.1 = some { entry.2 with remainingQty := 0 }

theorem walkLots_walked (params : WalkParams) (entries : List (Nat × ExchangeLot))
    (distinct : (entries.map (·.1)).Nodup) {w : Walk} (sound : Sound w.book) (nonneg : 0 ≤ w.remaining)
    (listed : ∀ entry ∈ entries, w.book.lots.get entry.1 = some entry.2 ∧ isOpen entry.2 = true) :
    Walked w (walkLots params w entries) entries := by
  induction entries generalizing w with
  | nil =>
    exact ⟨sound, ⟨[], by simp [walkLots, writtenQty]⟩, nonneg, le_rfl, fun _ _ => rfl,
      fun _ _ member => absurd member List.not_mem_nil⟩
  | cons entry rest ih =>
    obtain ⟨lotId, lot⟩ := entry
    obtain ⟨found, isOpen⟩ := listed _ List.mem_cons_self
    obtain ⟨live, some⟩ := isOpen_iff.mp isOpen
    rw [List.map_cons, List.nodup_cons] at distinct
    unfold walkLots
    split_ifs with done
    · exact ⟨sound, ⟨[], by simp [writtenQty]⟩, nonneg, le_rfl, fun _ _ => rfl,
        fun more => absurd done (not_le.mpr more)⟩
    · dsimp only
      have large : lotQtyEpsilon < min w.remaining lot.remainingQty := lt_min (not_le.mp done) some
      rw [if_neg (not_le.mpr large)]
      set take := min w.remaining lot.remainingQty with take_eq
      have positive : 0 < take := epsilon_pos.trans large
      have after := takeFromLot_sound sound params rfl found live positive (min_le_right _ _)
      have left : 0 ≤ (takeFromLot params w lotId lot take).remaining := sub_nonneg.mpr (min_le_left _ _)
      have later : ∀ entry' ∈ rest,
          (takeFromLot params w lotId lot take).book.lots.get entry'.1 = .some entry'.2 ∧ Lots.isOpen entry'.2 = true := by
        intro entry' member
        have other : entry'.1 ≠ lotId := fun same => distinct.1 (List.mem_map.mpr ⟨entry', member, same⟩)
        dsimp only [takeFromLot]
        rw [Table.get_update_of_ne _ _ other]
        exact listed entry' (List.mem_cons_of_mem _ member)
      obtain ⟨sound', ⟨added, written, slots, qty, from'⟩, nonneg', le, others, exhausted⟩ :=
        ih distinct.2 after left later
      have le : (walkLots params (takeFromLot params w lotId lot take) rest).remaining ≤ w.remaining - take := le
      refine ⟨sound', ⟨settlementOf params lotId lot take :: added, ?_, ?_, ?_, ?_⟩, nonneg',
        le.trans (sub_le_self _ positive.le), ?_, ?_⟩
      · rw [written]
        exact List.append_assoc ..
      · rw [slots]
        exact List.append_assoc ..
      · have first : writtenQty (settlementOf params lotId lot take :: added) = take + writtenQty added :=
          List.sum_cons
        rw [first, qty]
        change take + (w.remaining - take - _) = _
        ring
      · intro s member
        rcases List.mem_cons.mp member with rfl | member
        · exact ⟨rfl, _, List.mem_cons_self, rfl⟩
        · obtain ⟨basis, entry', inside, on⟩ := from' s member
          exact ⟨basis, entry', List.mem_cons_of_mem _ inside, on⟩
      · intro id outside
        rw [List.map_cons, List.mem_cons, not_or] at outside
        rw [others id outside.2]
        exact Table.get_update_of_ne _ _ outside.1
      · intro more entry' member
        rcases List.mem_cons.mp member with rfl | member
        · have all : take = lot.remainingQty := by
            rcases min_choice w.remaining lot.remainingQty with same | same
            · have none : w.remaining - take = 0 := sub_eq_zero.mpr (same.symm.trans take_eq.symm)
              rw [none] at le
              exact absurd more (not_lt.mpr (le.trans epsilon_pos.le))
            · exact same
          rw [others lotId distinct.1]
          dsimp only [takeFromLot]
          rw [Table.get_update_self, found, all, Option.map_some, sub_self]
        · exact exhausted more entry' member

/-! One consumption. -/

def isMarket (s : ExchangeLotSettlement) : Bool :=
  s.basisSource = .market

/-- What a consumption of `qty` writes: rows that sum to it but for a remainder too small to settle, at most one of
them without a lot, and that one only after every open lot of the currency was exhausted. -/
structure Consumed (b b' : Book) (currencyCode : String) (qty : ℚ) (written : List ExchangeLotSettlement) : Prop where
  rows : b'.settlements.slots = b.settlements.slots ++ written.map some
  sum_le : writtenQty written ≤ qty
  sum_ge : qty ≤ writtenQty written + lotQtyEpsilon
  market : (written.filter isMarket).length ≤ 1
  live : ∀ s ∈ written, ∀ id, s.lotId = some id → ∃ lot, b.lots.get id = some lot ∧ lot.isVoided = false
  exhausted : (∃ s ∈ written, isMarket s = true) → ∀ id lot, b.lots.get id = some lot →
    lot.currencyCode = currencyCode → isOpen lot = true → b'.lots.get id = some { lot with remainingQty := 0 }

def startWalk (b : Book) (params : WalkParams) : Walk where
  book := b
  remaining := params.qty

theorem consumed_of_walked {b : Book} {params : WalkParams} (settles : params.mode = .settle) {w : Walk}
    (walked : Walked (startWalk b params) w (openLots b params.currencyCode)) :
    Consumed b (takeFromMarket params w).book params.currencyCode params.qty (takeFromMarket params w).written := by
  obtain ⟨-, ⟨added, written, slots, qty, from'⟩, left, -, -, exhausted⟩ := walked
  have written : w.written = added := written
  have slots : w.book.settlements.slots = b.settlements.slots ++ added.map some := slots
  have qty : writtenQty added = params.qty - w.remaining := qty
  have noMarket : added.filter isMarket = [] := by
    rw [List.filter_eq_nil_iff]
    intro s member
    unfold isMarket
    rw [(from' s member).1]
    decide
  have live : ∀ s ∈ added, ∀ id, s.lotId = some id → ∃ lot, b.lots.get id = some lot ∧ lot.isVoided = false := by
    intro s member id on
    obtain ⟨-, entry, inside, on'⟩ := from' s member
    obtain ⟨found, -, isOpen⟩ := mem_openLots.mp inside
    rw [on] at on'
    cases on'
    exact ⟨entry.2, found, (isOpen_iff.mp isOpen).1⟩
  unfold takeFromMarket
  split_ifs with short
  · rw [Bool.and_eq_true, decide_eq_true_iff, decide_eq_true_iff] at short
    dsimp only
    have all : writtenQty (w.written ++ [marketSettlement params w.remaining]) = params.qty := by
      rw [writtenQty_snoc, written, qty]
      exact sub_add_cancel ..
    refine ⟨?_, all.le, ?_, ?_, ?_, ?_⟩
    · rw [Table.insert, written, slots, List.map_append, List.append_assoc]
      rfl
    · rw [all]
      exact le_add_of_nonneg_right epsilon_pos.le
    · rw [written, List.filter_append, noMarket]
      exact le_rfl
    · intro s member id on
      rw [written] at member
      rcases List.mem_append.mp member with old | last
      · exact live s old id on
      · rw [List.mem_singleton.mp last] at on
        cases on
    · intro _ id lot found currency isOpen
      exact exhausted short.2 (id, lot) (mem_openLots.mpr ⟨found, currency, isOpen⟩)
  · rw [Bool.and_eq_true, decide_eq_true_iff, decide_eq_true_iff, not_and, not_lt] at short
    have little := short settles
    rw [written]
    refine ⟨slots, ?_, ?_, ?_, live, ?_⟩
    · rw [qty]
      exact sub_le_self _ left
    · rw [qty]
      linarith
    · rw [noMarket]
      exact Nat.zero_le 1
    · rintro ⟨s, member, market⟩
      have inside : s ∈ added.filter isMarket := List.mem_filter.mpr ⟨member, market⟩
      rw [noMarket] at inside
      exact absurd inside List.not_mem_nil

section
variable {b : Book} (sound : Sound b) (params : WalkParams) (nonneg : 0 ≤ params.qty)
include sound nonneg

theorem walk_openLots :
    Walked (startWalk b params) (walkLots params (startWalk b params) (openLots b params.currencyCode))
      (openLots b params.currencyCode) := by
  apply walkLots_walked params _ (openLots_nodup ..) sound nonneg
  intro entry member
  obtain ⟨found, -, isOpen⟩ := mem_openLots.mp member
  exact ⟨found, isOpen⟩

theorem walkFifo_sound : Sound (walkFifo b params).book :=
  takeFromMarket_sound (walk_openLots sound params nonneg).sound params rfl

end

theorem takeFromMarket_rows (params : WalkParams) (w : Walk) :
    (takeFromMarket params w).book.lots = w.book.lots ∧
      ∀ d s, (takeFromMarket params w).book.settlements.get d = some s → ∀ id, s.lotId = some id →
        w.book.settlements.get d = some s := by
  unfold takeFromMarket
  split_ifs
  · refine ⟨rfl, ?_⟩
    intro d s found id on
    rcases Table.get_insert found with old | ⟨-, rfl⟩
    · exact old
    · cases on
  · exact ⟨rfl, fun _ _ found _ _ => found⟩

/-- Rows on other lots are not touched by a walk, and a voided lot is not open. -/
theorem walkFifo_untouched {b : Book} (sound : Sound b) (params : WalkParams) (nonneg : 0 ≤ params.qty) :
    Untouched b (walkFifo b params).book := by
  intro id lot found voided
  obtain ⟨-, ⟨added, -, slots, -, from'⟩, -, -, others, -⟩ := walk_openLots sound params nonneg
  obtain ⟨lots, rows⟩ := takeFromMarket_rows params
    (walkLots params (startWalk b params) (openLots b params.currencyCode))
  have closed : id ∉ (openLots b params.currencyCode).map (·.1) := by
    intro member
    obtain ⟨entry, inside, rfl⟩ := List.mem_map.mp member
    obtain ⟨found', -, isOpen⟩ := mem_openLots.mp inside
    rw [found] at found'
    cases found'
    rw [(isOpen_iff.mp isOpen).1] at voided
    cases voided
  constructor
  · refine ⟨lot, ?_, voided⟩
    exact (congrArg (Table.get · id) lots).trans ((others id closed).trans found)
  · intro d s there on
    have there := rows d s there id on
    unfold Table.get at there ⊢
    rw [slots] at there
    have slots₀ : (startWalk b params).book.settlements = b.settlements := rfl
    rw [slots₀] at there
    by_cases old : d < b.settlements.slots.length
    · rwa [List.getElem?_append_left old] at there
    · rw [List.getElem?_append_right (not_lt.mp old), List.getElem?_map, Option.join_eq_some_iff,
        Option.map_eq_some_iff] at there
      obtain ⟨s', new, same⟩ := there
      cases same
      obtain ⟨-, entry, inside, on'⟩ := from' s (List.mem_of_getElem? new)
      rw [on] at on'
      cases on'
      exact absurd (List.mem_map.mpr ⟨entry, inside, rfl⟩) closed

/-! Any sequence of calls. -/

theorem consumeFifo_ok {b : Book} {input : ConsumeFifoInput} {r : Book × FifoConsumeResult}
    (done : consumeFifo b input = .ok r) :
    0 < input.qty ∧ r.1 = (walkFifo b (settleParams input)).book ∧
      r.2.settlements = (walkFifo b (settleParams input)).written := by
  unfold consumeFifo at done
  split_ifs at done with refused
  cases done
  exact ⟨refused, rfl, rfl⟩

/-- Nothing but a quantity that is not above zero is refused. -/
theorem consumeFifo_answers {b : Book} {input : ConsumeFifoInput} (positive : 0 < input.qty) : ∃ r, consumeFifo b input = .ok r :=
  ⟨_, if_neg (not_not.mpr positive)⟩

theorem adjust_ok {b b' : Book} {input : AdjustInput} (done : adjust b input = .ok b') :
    (∃ positive, b' = addToPosition b input positive (input.unitCostUsd.getD 0)) ∨ b' = writeOff b input := by
  unfold adjust at done
  split_ifs at done with exempt zero positive priced
  · cases done
    exact Or.inl ⟨positive, rfl⟩
  · dsimp only at done
    split_ifs at done
    cases done
    exact Or.inr rfl

section
variable {b : Book} (sound : Sound b)
include sound

/-- The lots and settlements are what counts. -/
theorem sound_adjusted (adjustments : Table ExchangePositionAdjustment) :
    Sound { b with adjustments := adjustments } :=
  ⟨sound.balanced, sound.nonneg, sound.positive, sound.known, sound.voided⟩

theorem adjust_kept {b' : Book} {input : AdjustInput} (done : adjust b input = .ok b') : Sound b' ∧ Untouched b b' := by
  rcases adjust_ok done with ⟨positive, rfl⟩ | rfl
  · exact ⟨createLot_sound (sound_adjusted sound _) _, createLot_untouched (b := { b with adjustments := _ }) _⟩
  · have nonneg : 0 ≤ (writeOffParams b input).qty := abs_nonneg _
    refine ⟨walkFifo_sound (sound_adjusted sound _) _ nonneg, ?_⟩
    intro id lot found voided
    exact walkFifo_untouched (sound_adjusted sound _) _ nonneg id lot found voided

theorem consumeFifo_kept {r : Book × FifoConsumeResult} {input : ConsumeFifoInput} (done : consumeFifo b input = .ok r) :
    Sound r.1 ∧ Untouched b r.1 := by
  obtain ⟨positive, book, -⟩ := consumeFifo_ok done
  rw [book]
  exact ⟨walkFifo_sound sound (settleParams input) positive.le, walkFifo_untouched sound (settleParams input) positive.le⟩

theorem consumeFifo_consumed {r : Book × FifoConsumeResult} {input : ConsumeFifoInput}
    (done : consumeFifo b input = .ok r) : Consumed b r.1 input.currencyCode input.qty r.2.settlements := by
  obtain ⟨positive, book, written⟩ := consumeFifo_ok done
  rw [book, written]
  exact consumed_of_walked rfl (walk_openLots sound (settleParams input) positive.le)

theorem exec_kept (action : Action) : Sound (exec b action) ∧ Untouched b (exec b action) := by
  have stays : Sound b ∧ Untouched b b := ⟨sound, untouched_refl b⟩
  cases action with
  | createLot input => exact ⟨createLot_sound sound input, createLot_untouched input⟩
  | consumeFifo input =>
    rcases done : consumeFifo b input with refused | r
    · simp only [exec, done]
      exact stays
    · simp only [exec, done]
      exact consumeFifo_kept sound done
  | restoreSettlements settledByTable settledById => exact restoreSettlements_sound sound settledByTable settledById
  | voidLotsBySource sourceTable sourceId =>
    rcases used : hasActiveSettlementsAgainstSource b sourceTable sourceId
    · simp only [exec, used]
      exact ⟨voidLotsBySource_sound sound used, voidLotsBySource_untouched sourceTable sourceId⟩
    · simp only [exec, used]
      exact stays
  | adjust input =>
    rcases done : adjust b input with refused | b'
    · simp only [exec, done]
      exact stays
    · simp only [exec, done]
      exact adjust_kept sound done

theorem run_kept (actions : List Action) : Sound (run exec b actions) ∧ Untouched b (run exec b actions) := by
  induction actions generalizing b with
  | nil => exact ⟨sound, untouched_refl b⟩
  | cons action rest ih =>
    obtain ⟨after, first⟩ := exec_kept sound action
    obtain ⟨last, later⟩ := ih after
    exact ⟨last, first.trans later⟩

end

/-- What every lot of a reachable book satisfies. -/
structure LotKept (b : Book) (id : Nat) (lot : ExchangeLot) : Prop where
  conserved : lot.remainingQty + settledQty b id = lot.originalQty
  nonneg : 0 ≤ lot.remainingQty
  le : lot.remainingQty ≤ lot.originalQty
  voided : lot.isVoided = true → ∀ d s, b.settlements.get d = some s → s.lotId = some id → s.isRefunded = true

/-- In every reachable book the lots are conserved, a voided lot is left alone by whatever follows, and a consumption of
any quantity above zero is done and writes what it is asked to settle. -/
theorem ledger_kept (actions : List Action) :
    (∀ id lot, (run exec {} actions).lots.get id = some lot → LotKept (run exec {} actions) id lot) ∧
      (∀ later, Untouched (run exec {} actions) (run exec {} (actions ++ later))) ∧
      (∀ input r, consumeFifo (run exec {} actions) input = .ok r →
        Consumed (run exec {} actions) r.1 input.currencyCode input.qty r.2.settlements) ∧
      ∀ input, 0 < input.qty → ∃ r, consumeFifo (run exec {} actions) input = .ok r ∧
        Consumed (run exec {} actions) r.1 input.currencyCode input.qty r.2.settlements := by
  have sound := (run_kept sound_empty actions).1
  refine ⟨?_, ?_, fun input r done => consumeFifo_consumed sound done, fun input positive => ?_⟩
  · intro id lot found
    exact ⟨sound.balanced id lot found, sound.nonneg id lot found, sound.remaining_le found, sound.voided id lot found⟩
  · intro later
    rw [run_append]
    exact (run_kept sound later).2
  · obtain ⟨r, done⟩ := consumeFifo_answers positive
    exact ⟨r, done, consumeFifo_consumed sound done⟩

/-- Ten euros bought, and fifteen settled: ten from the lot and five at the market. -/
theorem ledger_kept_lotAndMarket :
    let bought : Book := run exec {} [.createLot
      { currencyCode := "EUR", sourceType := .exchangeBuy, sourceTable := "exchange_transactions", sourceId := 7, qty := 10
        unitCostUsd := 11 / 10, acquiredAt := "2026-01-05", positive := by decide }]
    let sale : ConsumeFifoInput :=
      { currencyCode := "EUR", qty := 15, unitProceedsUsd := 6 / 5, settledByTable := "exchange_transactions", settledById := 8
        marketUnitCostUsd := 23 / 20 }
    ∃ r, consumeFifo bought sale = .ok r ∧ Consumed bought r.1 "EUR" 15 r.2.settlements ∧ r.2.coveredQty = 10 ∧ r.2.marketQty = 5 := by
  intro bought sale
  obtain ⟨r, done, consumed⟩ := (ledger_kept [.createLot _]).2.2.2 sale (by decide)
  have covered : (consumeFifo bought sale).map (·.2.coveredQty) = .ok 10 := by decide +kernel
  have market : (consumeFifo bought sale).map (·.2.marketQty) = .ok 5 := by decide +kernel
  rw [show consumeFifo bought sale = .ok r from done] at covered market
  exact ⟨r, done, consumed, Except.ok.inj covered, Except.ok.inj market⟩

end Liratek.Exchange.Lots
