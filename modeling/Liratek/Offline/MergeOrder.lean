import Liratek.Offline.ExactlyOnce
import Liratek.Offline.Meanwhile
import Mathlib.Data.Prod.Lex

/-! A merge round keeps the order of every PC, takes the earliest head first and leaves every cursor on settled
ground. -/

namespace Liratek.Offline.MergeOrder
open Tables Channels Replay Outcomes Shop Records Reception Merge Meanwhile Lib.Runs ExactlyOnce

section
variable {policy : Policy} {s t : Store} {d q : Nat}

/-! Stored and settled. -/

/-- The sequence is stored and no longer waits for a round. -/
def SettledAt (s : Store) (d q : Nat) : Prop :=
  (∃ row ∈ s.events, row.deviceId = d ∧ row.deviceSeq = q) ∧
    ∀ row ∈ s.events, row.deviceId = d → row.deviceSeq = q → row.status ≠ .received

theorem eventAt_congr (same : t.events = s.events) (d q : Nat) : eventAt t d q = eventAt s d q := by
  unfold eventAt Store.findBySeq
  rw [same]

theorem eventAt_some {id : RowId} {row : EventRow} (found : eventAt s d q = some (id, row)) :
    s.events[id]? = some row ∧ row.deviceId = d ∧ row.deviceSeq = q := by
  unfold eventAt at found
  obtain ⟨id', isThere, mapped⟩ := Option.bind_eq_some_iff.mp found
  obtain ⟨row', here, same⟩ := Option.map_eq_some_iff.mp mapped
  obtain ⟨rfl, rfl⟩ := Prod.mk.inj same
  obtain ⟨inside, named, -⟩ := List.findIdx?_eq_some_iff_getElem.mp isThere
  rw [List.getElem?_eq_getElem inside] at here
  rw [Option.some.inj here] at named
  refine ⟨by rw [List.getElem?_eq_getElem inside, here], ?_⟩
  simpa [hasSeq] using named

/-- The unique index of the table: one event a sequence. -/
theorem row_unique (distinct : Distinct (records s)) {row other : EventRow} (member : row ∈ s.events)
    (member' : other ∈ s.events) (device : row.deviceId = other.deviceId) (seq : row.deviceSeq = other.deviceSeq) :
    row = other := by
  have unique := distinct.seqs
  rw [records, List.map_map] at unique
  exact List.inj_on_of_nodup_map unique member member' (Prod.ext device seq)

theorem settledAt_of_row (distinct : Distinct (records s)) {row : EventRow} (member : row ∈ s.events)
    (device : row.deviceId = d) (seq : row.deviceSeq = q) (settled : row.status ≠ .received) : SettledAt s d q := by
  refine ⟨⟨row, member, device, seq⟩, fun other inside device' seq' => ?_⟩
  rw [← row_unique distinct member inside (device.trans device'.symm) (seq.trans seq'.symm)]
  exact settled

theorem SettledAt.past (settled : SettledAt s d q) (past : Past s t) (distinct : Distinct (records t)) :
    SettledAt t d q := by
  obtain ⟨⟨row, member, device, seq⟩, all⟩ := settled
  obtain ⟨id, found⟩ := List.mem_iff_getElem?.mp member
  obtain ⟨row', found', record, settles⟩ := past.rows id row found
  have device' : row'.deviceId = row.deviceId := congrArg EventRecord.deviceId record
  have seq' : row'.deviceSeq = row.deviceSeq := congrArg EventRecord.deviceSeq record
  exact settledAt_of_row distinct (List.mem_of_getElem? found') (device'.trans device) (seq'.trans seq)
    (settles (all row member device seq))

/-! Skipping. -/

/-- The stored events of a PC from a sequence on. -/
def fromSeq (s : Store) (d q : Nat) : List EventRow :=
  s.events.filter fun row => row.deviceId = d && q ≤ row.deviceSeq

theorem fromSeq_succ_lt {row : EventRow} (member : row ∈ s.events) (device : row.deviceId = d)
    (seq : row.deviceSeq = q) : (fromSeq s d (q + 1)).length < (fromSeq s d q).length := by
  have inside : row ∈ fromSeq s d q := List.mem_filter.mpr ⟨member, by simp [device, seq]⟩
  have narrower : fromSeq s d (q + 1) = (fromSeq s d q).filter fun row => q + 1 ≤ row.deviceSeq := by
    rw [fromSeq, fromSeq, List.filter_filter]
    apply List.filter_congr
    intro other _
    by_cases here : other.deviceId = d
    · simp only [here, decide_true, Bool.true_and]
      rw [Bool.eq_iff_iff]
      simp only [Bool.and_eq_true, decide_eq_true_eq]
      omega
    · simp [here]
  rw [narrower]
  refine List.length_filter_lt_length_iff_exists.mpr ⟨row, inside, ?_⟩
  simp [seq]

structure Skipped (s : Store) (d q q' : Nat) : Prop where
  forward : q ≤ q'
  settled : ∀ k, q ≤ k → k < q' → SettledAt s d k
  stops : ∀ id event, eventAt s d q' = some (id, event) → event.status = .received

/-- Skipping ends at a gap or at an event that waits. -/
theorem skipSettled_skipped (distinct : Distinct (records s)) {fuel : Nat} (enough : (fromSeq s d q).length ≤ fuel) :
    Skipped s d q (skipSettled s d fuel q) := by
  induction fuel generalizing q with
  | zero =>
    refine ⟨le_rfl, fun k low high => absurd low (Nat.not_le.mpr high), fun id event found => ?_⟩
    obtain ⟨there, device, seq⟩ := eventAt_some found
    have shorter := fromSeq_succ_lt (List.mem_of_getElem? there) device seq
    exact absurd (shorter.trans_le enough) (Nat.not_lt_zero _)
  | succ fuel ih =>
    unfold skipSettled
    cases found : eventAt s d q with
    | none => exact ⟨le_rfl, fun k low high => absurd low (Nat.not_le.mpr high), fun id event there => by
        rw [found] at there
        cases there⟩
    | some entry =>
      obtain ⟨id, event⟩ := entry
      dsimp only
      split_ifs with waits
      · refine ⟨le_rfl, fun k low high => absurd low (Nat.not_le.mpr high), fun id' event' there => ?_⟩
        rw [found] at there
        obtain ⟨-, rfl⟩ := Prod.mk.inj (Option.some.inj there)
        exact waits
      · obtain ⟨there, device, seq⟩ := eventAt_some found
        have member := List.mem_of_getElem? there
        have rest : Skipped s d (q + 1) (skipSettled s d fuel (q + 1)) := by
          apply ih
          have shorter := fromSeq_succ_lt member device seq
          omega
        refine ⟨(Nat.le_succ q).trans rest.forward, fun k low high => ?_, rest.stops⟩
        rcases Nat.eq_or_lt_of_le low with rfl | later
        · exact settledAt_of_row distinct member device seq waits
        · exact rest.settled k later high

theorem skip_skipped (distinct : Distinct (records s)) (d q : Nat) :
    Skipped s d q (skipSettled s d s.events.length q) :=
  skipSettled_skipped distinct (List.length_filter_le _ _)

/-! Cursors. -/

def cursor (s : Store) (d : Nat) : Option Nat :=
  (s.devices[d]?).map (·.nextExpectedSeq)

theorem cursor_set (s : Store) (d d' q : Nat) :
    cursor (s.setNextExpectedSeq d q) d' = if d' = d then (cursor s d').map fun _ => q else cursor s d' := by
  simp only [cursor, Store.setNextExpectedSeq, List.getElem?_modify]
  by_cases same : d = d'
  · rw [if_pos same.symm]
    simp only [same, if_true]
    cases s.devices[d']? <;> rfl
  · rw [if_neg (Ne.symm same)]
    simp only [same, if_false]
    cases s.devices[d']? <;> rfl

theorem Past.cursor (past : Past s t) (d : Nat) : cursor t d = cursor s d := by
  have same := congrArg (Option.map Prod.snd) (past.pcs d)
  rw [Option.map_map, Option.map_map] at same
  exact same

end

/-! What holds of the round at every moment. -/

/-- `s₀` is the store the round started from. -/
structure Kept (s₀ s : Store) (heads : List Head) (calls : List Call) : Prop where
  distinct : Distinct (records s)
  lasting : ∀ d q, SettledAt s₀ d q → SettledAt s d q
  known : ∀ d c, cursor s d = some c → ∃ c₀, cursor s₀ d = some c₀
  cursors : ∀ d c₀, cursor s₀ d = some c₀ → ∃ c, cursor s d = some c ∧ c₀ ≤ c ∧
    ∀ q, c₀ ≤ q → q < c → SettledAt s d q
  /-- a head has its cursor, and only settled events before it -/
  standing : ∀ h ∈ heads, cursor s h.deviceId = some h.startSeq ∧ h.startSeq ≤ h.seq ∧
    ∀ q, h.startSeq ≤ q → q < h.seq → SettledAt s h.deviceId q
  single : (heads.map (·.deviceId)).Nodup
  made : ∀ c ∈ calls, (∃ row ∈ s.events, row.deviceId = c.deviceId ∧ row.deviceSeq = c.seq) ∧
    ∀ h ∈ heads, h.deviceId = c.deviceId → c.seq < h.startSeq
  ordered : calls.Pairwise fun a b => a.deviceId = b.deviceId → a.seq < b.seq

namespace Kept
variable {s₀ s t : Store} {heads heads' : List Head} {calls : List Call} {h : Head} {d q : Nat}

theorem past (kept : Kept s₀ s heads calls) (past : Past s t) : Kept s₀ t heads calls where
  distinct := past.distinct kept.distinct
  lasting d q settled := (kept.lasting d q settled).past past (past.distinct kept.distinct)
  known d c here := kept.known d c (by rw [← Past.cursor past, here])
  cursors d c₀ here := by
    obtain ⟨c, now, grown, settled⟩ := kept.cursors d c₀ here
    exact ⟨c, by rw [Past.cursor past, now], grown, fun q low high =>
      (settled q low high).past past (past.distinct kept.distinct)⟩
  standing h member := by
    obtain ⟨here, forward, settled⟩ := kept.standing h member
    exact ⟨by rw [Past.cursor past, here], forward, fun q low high =>
      (settled q low high).past past (past.distinct kept.distinct)⟩
  single := kept.single
  made c member := by
    obtain ⟨⟨row, inside, device, seq⟩, before⟩ := kept.made c member
    obtain ⟨id, found⟩ := List.mem_iff_getElem?.mp inside
    obtain ⟨row', found', record, -⟩ := past.rows id row found
    have device' : row'.deviceId = row.deviceId := congrArg EventRecord.deviceId record
    have seq' : row'.deviceSeq = row.deviceSeq := congrArg EventRecord.deviceSeq record
    exact ⟨⟨row', List.mem_of_getElem? found', device'.trans device, seq'.trans seq⟩, before⟩
  ordered := kept.ordered

theorem sublist (kept : Kept s₀ s heads calls) (fewer : heads'.Sublist heads) : Kept s₀ s heads' calls where
  distinct := kept.distinct
  lasting := kept.lasting
  known := kept.known
  cursors := kept.cursors
  standing h member := kept.standing h (fewer.subset member)
  single := kept.single.sublist (fewer.map _)
  made c member := ⟨(kept.made c member).1, fun h inside => (kept.made c member).2 h (fewer.subset inside)⟩
  ordered := kept.ordered

/-- The head of a PC moves over settled events. -/
theorem skip {before after : List Head} (kept : Kept s₀ s (before ++ h :: after) calls) (forward : h.seq ≤ q)
    (settled : ∀ k, h.seq ≤ k → k < q → SettledAt s h.deviceId k) :
    Kept s₀ s (before ++ { h with seq := q } :: after) calls := by
  have same : (before ++ { h with seq := q } :: after).map (·.deviceId) = (before ++ h :: after).map (·.deviceId) := by
    simp
  have old : ∀ k ∈ before ++ { h with seq := q } :: after, k = { h with seq := q } ∨ k ∈ before ++ h :: after := by
    intro k member
    rcases List.mem_append.mp member with early | late
    · exact .inr (List.mem_append_left _ early)
    · rcases List.mem_cons.mp late with here | later
      · exact .inl here
      · exact .inr (List.mem_append_right _ (List.mem_cons_of_mem h later))
  have here : h ∈ before ++ h :: after := List.mem_append_right _ List.mem_cons_self
  refine ⟨kept.distinct, kept.lasting, kept.known, kept.cursors, fun k member => ?_, same ▸ kept.single,
    fun c member => ⟨(kept.made c member).1, fun k inside => ?_⟩, kept.ordered⟩
  · rcases old k member with rfl | was
    · obtain ⟨start, ahead, done⟩ := kept.standing h here
      refine ⟨start, ahead.trans forward, fun j low high => ?_⟩
      rcases Nat.lt_or_ge j h.seq with earlier | later
      · exact done j low earlier
      · exact settled j later high
    · exact kept.standing k was
  · rcases old k inside with rfl | was
    · exact (kept.made c member).2 h here
    · exact (kept.made c member).2 k was

/-- Everything from the first cursor to a head is settled. -/
theorem settled_below (kept : Kept s₀ s heads calls) (member : h ∈ heads) {c₀ : Nat}
    (first : cursor s₀ h.deviceId = some c₀) : c₀ ≤ h.seq ∧ ∀ k, c₀ ≤ k → k < h.seq → SettledAt s h.deviceId k := by
  obtain ⟨start, ahead, done⟩ := kept.standing h member
  obtain ⟨c, now, grown, settled⟩ := kept.cursors _ c₀ first
  rw [start] at now
  obtain rfl := Option.some.inj now
  refine ⟨grown.trans ahead, fun k low high => ?_⟩
  rcases Nat.lt_or_ge k h.startSeq with early | late
  · exact settled k low early
  · exact done k late high

theorem cursors_set (kept : Kept s₀ s heads calls) (member : h ∈ heads) (forward : h.startSeq ≤ q)
    (settled : ∀ k, h.startSeq ≤ k → k < q → SettledAt s h.deviceId k) (d c₀ : Nat) (first : cursor s₀ d = some c₀) :
    ∃ c, cursor (s.setNextExpectedSeq h.deviceId q) d = some c ∧ c₀ ≤ c ∧ ∀ k, c₀ ≤ k → k < c → SettledAt s d k := by
  obtain ⟨c, now, grown, done⟩ := kept.cursors d c₀ first
  rw [cursor_set]
  split_ifs with same
  · subst same
    have start := (kept.standing h member).1
    rw [now] at start
    obtain rfl := Option.some.inj start
    refine ⟨q, by rw [now]; rfl, grown.trans forward, fun k low high => ?_⟩
    rcases Nat.lt_or_ge k h.startSeq with early | late
    · exact done k low early
    · exact settled k late high
  · exact ⟨c, now, grown, done⟩

theorem known_set (kept : Kept s₀ s heads calls) (d' : Nat) (d c : Nat)
    (here : cursor (s.setNextExpectedSeq d' q) d = some c) : ∃ c₀, cursor s₀ d = some c₀ := by
  rw [cursor_set] at here
  split_ifs at here
  · obtain ⟨c', was, -⟩ := Option.map_eq_some_iff.mp here
    exact kept.known d c' was
  · exact kept.known d c here

/-- A PC leaves the round, with its cursor on settled ground. -/
theorem leave (kept : Kept s₀ s heads calls) (member : h ∈ heads) (forward : h.startSeq ≤ q)
    (settled : ∀ k, h.startSeq ≤ k → k < q → SettledAt s h.deviceId k) (fewer : heads'.Sublist heads)
    (gone : ∀ k ∈ heads', k.deviceId ≠ h.deviceId) :
    Kept s₀ (s.setNextExpectedSeq h.deviceId q) heads' calls where
  distinct := kept.distinct
  lasting := kept.lasting
  known := kept.known_set h.deviceId
  cursors := kept.cursors_set member forward settled
  standing k inside := by
    rw [cursor_set, if_neg (gone k inside)]
    exact kept.standing k (fewer.subset inside)
  single := kept.single.sublist (fewer.map _)
  made c inside := ⟨(kept.made c inside).1, fun k there => (kept.made c inside).2 k (fewer.subset there)⟩
  ordered := kept.ordered

/-- The head and the cursor of a PC move on together. -/
def moved (d q : Nat) (k : Head) : Head :=
  if k.deviceId = d then { k with seq := q, startSeq := q } else k

theorem deviceId_moved (d q : Nat) (k : Head) : (moved d q k).deviceId = k.deviceId := by
  unfold moved
  split_ifs <;> rfl

theorem advance (kept : Kept s₀ s heads calls) (member : h ∈ heads) (forward : h.startSeq ≤ q)
    (settled : ∀ k, h.startSeq ≤ k → k < q → SettledAt s h.deviceId k) :
    Kept s₀ (s.setNextExpectedSeq h.deviceId q) (heads.map (moved h.deviceId q)) calls where
  distinct := kept.distinct
  lasting := kept.lasting
  known := kept.known_set h.deviceId
  cursors := kept.cursors_set member forward settled
  standing k inside := by
    obtain ⟨old, was, rfl⟩ := List.mem_map.mp inside
    rw [deviceId_moved, cursor_set]
    by_cases same : old.deviceId = h.deviceId
    · rw [if_pos same, moved, if_pos same, (kept.standing old was).1]
      exact ⟨rfl, le_rfl, fun j low high => absurd low (Nat.not_le.mpr high)⟩
    · rw [if_neg same, moved, if_neg same]
      exact kept.standing old was
  single := by
    rw [List.map_map]
    have same : ((·.deviceId) ∘ moved h.deviceId q) = fun k : Head => k.deviceId := funext (deviceId_moved _ _)
    rw [same]
    exact kept.single
  made c inside := by
    refine ⟨(kept.made c inside).1, fun k there device => ?_⟩
    obtain ⟨old, was, rfl⟩ := List.mem_map.mp there
    rw [deviceId_moved] at device
    unfold moved
    split_ifs with same
    · exact ((kept.made c inside).2 h member (same ▸ device)).trans_le forward
    · exact (kept.made c inside).2 old was device
  ordered := kept.ordered

theorem call {c : Call} (kept : Kept s₀ s heads calls)
    (stored : ∃ row ∈ s.events, row.deviceId = c.deviceId ∧ row.deviceSeq = c.seq)
    (ahead : ∀ h ∈ heads, h.deviceId = c.deviceId → c.seq < h.startSeq)
    (later : ∀ c' ∈ calls, c'.deviceId = c.deviceId → c'.seq < c.seq) : Kept s₀ s heads (calls ++ [c]) where
  distinct := kept.distinct
  lasting := kept.lasting
  known := kept.known
  cursors := kept.cursors
  standing := kept.standing
  single := kept.single
  made c' member := by
    rcases List.mem_append.mp member with old | new
    · exact kept.made c' old
    · rw [List.mem_singleton.mp new]
      exact ⟨stored, ahead⟩
  ordered := by
    refine List.pairwise_append.mpr ⟨kept.ordered, List.pairwise_singleton _ _, fun c' old new isNew => ?_⟩
    rw [List.mem_singleton.mp isNew]
    exact later c' old

end Kept

/-! One walk over the heads. -/

section
variable {s₀ : Store} {calls : List Call} {trialEnd : Option Int}

theorem keepCursor_kept {s : Store} {before after : List Head} {h : Head} {q : Nat}
    (kept : Kept s₀ s (before ++ h :: after) calls) (skipped : Skipped s h.deviceId h.seq q) :
    Kept s₀ (keepCursor s h q) (before ++ after) calls := by
  have here : h ∈ before ++ h :: after := List.mem_append_right _ List.mem_cons_self
  have fewer : (before ++ after).Sublist (before ++ h :: after) := (List.sublist_cons_self h after).append_left before
  obtain ⟨start, ahead, done⟩ := kept.standing h here
  unfold keepCursor
  split_ifs
  · refine kept.leave here (ahead.trans skipped.forward) (fun k low high => ?_) fewer fun k inside same => ?_
    · rcases Nat.lt_or_ge k h.seq with early | late
      · exact done k low early
      · exact skipped.settled k late high
    · have single := kept.single
      rw [List.map_append, List.map_cons] at single
      refine (List.nodup_middle.mp single).notMem ?_
      rw [← List.map_append]
      exact List.mem_map.mpr ⟨k, inside, same⟩
  · exact kept.sublist fewer

theorem visit_kept {p : Pass} {h : Head} {rest : List Head} (kept : Kept s₀ p.store (p.heads ++ h :: rest) calls) :
    Kept s₀ (visit trialEnd p h).store ((visit trialEnd p h).heads ++ rest) calls := by
  have skipped := skip_skipped kept.distinct h.deviceId h.seq
  unfold visit
  dsimp only
  generalize skipSettled p.store h.deviceId p.store.events.length h.seq = q at skipped
  split
  · exact keepCursor_kept kept skipped
  · split_ifs
    · exact keepCursor_kept kept skipped
    · rw [List.append_assoc]
      exact kept.skip skipped.forward skipped.settled

theorem visits_kept (heads : List Head) {p : Pass} (kept : Kept s₀ p.store (p.heads ++ heads) calls) :
    Kept s₀ (heads.foldl (visit trialEnd) p).store (heads.foldl (visit trialEnd) p).heads calls := by
  induction heads generalizing p with
  | nil => rwa [List.append_nil] at kept
  | cons h rest ih => exact ih (visit_kept kept)

theorem pass_kept {s : Store} {heads : List Head} (kept : Kept s₀ s heads calls) :
    Kept s₀ (pass trialEnd s heads).store (pass trialEnd s heads).heads calls :=
  visits_kept heads kept

end

/-! The chosen head. -/

/-- The event a head stands on, open for this round. -/
structure Candidate (trialEnd : Option Int) (s : Store) (h : Head) (b : Best) : Prop where
  head : b.head = h
  here : eventAt s h.deviceId h.seq = some (b.id, b.event)
  waits : b.event.status = .received
  instant : b.instant = correctedInstant b.event
  isOpen : heldByTrial trialEnd b.instant = false

def bestKey (b : Best) : Int ×ₗ Nat ×ₗ Nat :=
  toLex (b.instant, toLex (b.head.deviceNo, b.event.deviceSeq))

theorem earlier_iff (a b : Best) : earlier a b = true ↔ bestKey a < bestKey b := by
  unfold earlier bestKey
  rw [Prod.Lex.toLex_lt_toLex, Prod.Lex.toLex_lt_toLex]
  simp only [Bool.or_eq_true, Bool.and_eq_true, decide_eq_true_eq]

/-- The pass has found the earliest of its heads. -/
structure Chosen (trialEnd : Option Int) (p : Pass) : Prop where
  isOpen : ∀ h ∈ p.heads, ∃ c, Candidate trialEnd p.store h c
  idle : p.best = none → p.heads = []
  least : ∀ b, p.best = some b → b.head ∈ p.heads ∧ Candidate trialEnd p.store b.head b ∧
    ∀ h ∈ p.heads, ∀ c, Candidate trialEnd p.store h c → bestKey b ≤ bestKey c

section
variable {trialEnd : Option Int} {p : Pass} {h : Head}

theorem Candidate.unique {s : Store} {b c : Best} (one : Candidate trialEnd s h b) (two : Candidate trialEnd s h c) :
    b = c := by
  have same := two.here
  rw [one.here] at same
  obtain ⟨id, event⟩ := Prod.mk.inj (Option.some.inj same)
  have instant : b.instant = c.instant := by rw [one.instant, two.instant, event]
  have head : b.head = c.head := one.head.trans two.head.symm
  cases b
  cases c
  simp_all

theorem candidate_congr {s t : Store} (same : t.events = s.events) {b : Best} :
    Candidate trialEnd t h b ↔ Candidate trialEnd s h b := by
  constructor
  · exact fun c => ⟨c.head, eventAt_congr same _ _ ▸ c.here, c.waits, c.instant, c.isOpen⟩
  · exact fun c => ⟨c.head, (eventAt_congr same _ _).trans c.here, c.waits, c.instant, c.isOpen⟩

theorem chosen_congr (chosen : Chosen trialEnd p) {s : Store} (same : s.events = p.store.events) :
    Chosen trialEnd { p with store := s } where
  isOpen k inside := by
    obtain ⟨c, candidate⟩ := chosen.isOpen k inside
    exact ⟨c, (candidate_congr same).mpr candidate⟩
  idle := chosen.idle
  least b isBest := by
    obtain ⟨member, candidate, least⟩ := chosen.least b isBest
    exact ⟨member, (candidate_congr same).mpr candidate, fun k inside c here => least k inside c ((candidate_congr same).mp here)⟩

theorem events_keepCursor (s : Store) (h : Head) (q : Nat) : (keepCursor s h q).events = s.events := by
  unfold keepCursor
  split_ifs <;> rfl

/-- A head whose event is open is weighed against the best so far. -/
theorem Chosen.offer (chosen : Chosen trialEnd p) (found : Best)
    (candidate : Candidate trialEnd p.store found.head found) :
    Chosen trialEnd { p with heads := p.heads ++ [found.head], best := some (better p.best found) } where
  isOpen k inside := by
    rcases List.mem_append.mp inside with old | new
    · exact chosen.isOpen k old
    · rw [List.mem_singleton.mp new]
      exact ⟨found, candidate⟩
  idle empty := by cases empty
  least b isBest := by
    have choice : better p.best found = b := Option.some.inj isBest
    unfold better at choice
    have isNew : ∀ k ∈ [found.head], ∀ c, Candidate trialEnd p.store k c → c = found := by
      intro k new c here
      rw [List.mem_singleton.mp new] at here
      exact here.unique candidate
    split at choice
    · rename_i none
      subst choice
      refine ⟨List.mem_append_right _ (List.mem_singleton_self _), candidate, fun k inside c here => ?_⟩
      rw [chosen.idle none] at inside
      rw [isNew k inside c here]
    · rename_i best wasBest
      obtain ⟨member, isCandidate, least⟩ := chosen.least best wasBest
      split_ifs at choice with sooner
      · subst choice
        refine ⟨List.mem_append_right _ (List.mem_singleton_self _), candidate, fun k inside c here => ?_⟩
        rcases List.mem_append.mp inside with old | new
        · exact ((earlier_iff _ _).mp sooner).le.trans (least k old c here)
        · rw [isNew k new c here]
      · subst choice
        refine ⟨List.mem_append_left _ member, isCandidate, fun k inside c here => ?_⟩
        rcases List.mem_append.mp inside with old | new
        · exact least k old c here
        · rw [isNew k new c here]
          exact not_lt.mp fun less => sooner ((earlier_iff _ _).mpr less)

theorem visit_chosen (distinct : Distinct (records p.store)) (chosen : Chosen trialEnd p) (h : Head) :
    Chosen trialEnd (visit trialEnd p h) := by
  have skipped := skip_skipped distinct h.deviceId h.seq
  unfold visit
  dsimp only
  generalize skipSettled p.store h.deviceId p.store.events.length h.seq = q at skipped
  split
  · exact chosen_congr chosen (events_keepCursor _ _ _)
  · rename_i id event found
    split_ifs with held
    · exact chosen_congr chosen (events_keepCursor _ _ _)
    · exact chosen.offer { head := { h with seq := q }, id := id, event := event, instant := correctedInstant event }
        ⟨rfl, found, skipped.stops id event found, rfl, by simpa using held⟩

theorem visits_chosen {s₀ : Store} {calls : List Call} (heads : List Head) {p : Pass}
    (kept : Kept s₀ p.store (p.heads ++ heads) calls) (chosen : Chosen trialEnd p) :
    Chosen trialEnd (heads.foldl (visit trialEnd) p) := by
  induction heads generalizing p with
  | nil => exact chosen
  | cons h rest ih => exact ih (visit_kept kept) (visit_chosen kept.distinct chosen h)

theorem pass_chosen {s₀ s : Store} {heads : List Head} {calls : List Call} (kept : Kept s₀ s heads calls) :
    Chosen trialEnd (pass trialEnd s heads) := by
  refine visits_chosen heads kept ⟨fun h none => ?_, fun _ => rfl, fun b none => ?_⟩
  · exact absurd none List.not_mem_nil
  · cases none

end

/-! One turn. -/

section
variable {policy : Policy} {trialEnd : Option Int} {s₀ : Store}

/-- A call that ends without a technical failure takes its event out of the waiting ones. -/
theorem process_settles {s : Store} {id : RowId} {event : EventRow} (found : s.events[id]? = some event)
    (waits : event.status = .received) (answers : Answers)
    (ended : (process policy s id event { mode := .auto } answers).2.technical = false) :
    ∃ row, (process policy s id event { mode := .auto } answers).1.events[id]? = some row ∧
      row.toEventRecord = event.toEventRecord ∧ row.status ≠ .received := by
  have cases : Processed policy s id event { mode := .auto } answers
    (process policy s id event { mode := .auto } answers) := process_cases found
  generalize process policy s id event { mode := .auto } answers = result at cases ended
  cases cases with
  | kept t out row written status items idMap audit quiet =>
    have notDue : due event { mode := .auto } = false := by
      rcases quiet with failed | ⟨-, applying | idle⟩
      · rw [failed.1] at ended
        cases ended
      · cases applying.1
      · exact idle
    simp [due, waits] at notDue
  | parked t out row kind opened isDue status parking =>
    exact ⟨row, opened.written.here, opened.written.record event found, status ▸ parking_status parking⟩
  | skipped t out row opened isDue status =>
    exact ⟨row, opened.written.here, opened.written.record event found, by simp [status]⟩
  | booked t out row booking isDue status =>
    exact ⟨row, booking.written.here, booking.written.record event found, by simp [status, bookedStatus]⟩

theorem callEngine_kept {r : Round} {p : Pass} {b : Best} (kept : Kept s₀ p.store p.heads r.calls)
    (member : b.head ∈ p.heads) (candidate : Candidate trialEnd p.store b.head b) (answers : Answers) :
    Kept s₀ (callEngine policy r p b answers).store (callEngine policy r p b answers).heads
      (callEngine policy r p b answers).calls := by
  obtain ⟨found, device, seq⟩ := eventAt_some candidate.here
  have follows : Follows p.store (process policy p.store b.id b.event { mode := .auto } answers).1 :=
    follows_process policy found _ answers follows_refl
  have settles := @process_settles policy _ _ _ found candidate.waits answers
  have after := kept.past (Follows.past follows)
  have ahead := (after.standing b.head member).2.1
  have before := (after.standing b.head member).2.2
  have old : ∀ c ∈ r.calls, c.deviceId = b.head.deviceId → c.seq < b.head.seq := fun c inside same =>
    ((after.made c inside).2 b.head member same.symm).trans_le ahead
  obtain ⟨row, there, record, -⟩ := (Follows.past follows).rows b.id b.event found
  have stored : ∃ row ∈ (process policy p.store b.id b.event { mode := .auto } answers).1.events,
      row.deviceId = b.head.deviceId ∧ row.deviceSeq = b.head.seq :=
    ⟨row, List.mem_of_getElem? there, (congrArg EventRecord.deviceId record).trans device,
      (congrArg EventRecord.deviceSeq record).trans seq⟩
  unfold callEngine
  dsimp only
  generalize process policy p.store b.id b.event { mode := .auto } answers = called at follows settles after before stored
  split_ifs with failed
  · refine (after.leave member ahead before (List.filter_sublist ..) fun k inside => ?_).call stored
      (fun k inside same => ?_) old
    · simpa using (List.mem_filter.mp inside).2
    · exact absurd same (by simpa using (List.mem_filter.mp inside).2)
  · obtain ⟨row', there', record', settled⟩ := settles (by simpa using failed)
    have here : SettledAt called.1 b.head.deviceId b.head.seq :=
      settledAt_of_row after.distinct (List.mem_of_getElem? there') ((congrArg EventRecord.deviceId record').trans device)
        ((congrArg EventRecord.deviceSeq record').trans seq) settled
    refine (after.advance member (q := b.head.seq + 1) (ahead.trans (Nat.le_succ _)) fun k low high => ?_).call stored
      (fun k inside same => ?_) old
    · rcases Nat.lt_succ_iff_lt_or_eq.mp high with earlier | rfl
      · exact before k low earlier
      · exact here
    · obtain ⟨was, inside', rfl⟩ := List.mem_map.mp inside
      rw [Kept.deviceId_moved] at same
      rw [Kept.moved, if_pos same]
      exact Nat.lt_succ_self _

/-- One turn keeps what holds of the round. -/
theorem turn_kept {r : Round} (kept : Kept s₀ r.store r.heads r.calls) (t : Turn) :
    Kept s₀ (turn policy trialEnd r t).store (turn policy trialEnd r t).heads (turn policy trialEnd r t).calls := by
  have passed := @pass_kept _ _ trialEnd _ _ kept
  have chosen := @pass_chosen trialEnd _ _ _ _ kept
  unfold turn
  split_ifs
  · exact kept
  · dsimp only
    split
    · exact passed
    · rename_i b isBest
      obtain ⟨member, candidate, -⟩ := chosen.least b isBest
      exact (callEngine_kept passed member candidate t.answers).past (others_past t.others)

theorem openHead_some {s : Store} {stopped : List Nat} {d : Nat} {h : Head} (opened : openHead s stopped d = some h) :
    h.deviceId = d ∧ cursor s d = some h.startSeq ∧ h.seq = h.startSeq := by
  unfold openHead at opened
  split_ifs at opened
  obtain ⟨device, found, rfl⟩ := Option.map_eq_some_iff.mp opened
  exact ⟨rfl, by rw [cursor, found]; rfl, rfl⟩

theorem openHeads_single (s : Store) (stopped : List Nat) : ((openHeads s stopped).map (·.deviceId)).Nodup := by
  have distinct : (devicesWithReceived s).Nodup :=
    (List.perm_insertionSort _ _).nodup_iff.mpr (List.nodup_dedup _)
  rw [openHeads, List.map_filterMap]
  refine distinct.filterMap fun d d' name here here' => ?_
  obtain ⟨h, opened, rfl⟩ := Option.map_eq_some_iff.mp here
  obtain ⟨h', opened', same⟩ := Option.map_eq_some_iff.mp here'
  rw [← (openHead_some opened).1, ← (openHead_some opened').1, same]

theorem start_kept (distinct : Distinct (records s₀)) (stopped : List Nat) :
    Kept s₀ (start s₀ stopped).store (start s₀ stopped).heads (start s₀ stopped).calls where
  distinct := distinct
  lasting _ _ settled := settled
  known d c here := ⟨c, here⟩
  cursors d c₀ here := ⟨c₀, here, le_rfl, fun k low high => absurd low (Nat.not_le.mpr high)⟩
  standing h member := by
    obtain ⟨d, -, opened⟩ := List.mem_filterMap.mp member
    obtain ⟨rfl, here, fresh⟩ := openHead_some opened
    exact ⟨here, fresh.ge, fun k low high => absurd (low.trans_lt high) (fresh ▸ lt_irrefl _)⟩
  single := openHeads_single s₀ stopped
  made c member := absurd member List.not_mem_nil
  ordered := List.Pairwise.nil

theorem merge_kept (distinct : Distinct (records s₀)) (stopped : List Nat) (turns : List Turn) :
    Kept s₀ (merge policy trialEnd s₀ stopped turns).store (merge policy trialEnd s₀ stopped turns).heads
      (merge policy trialEnd s₀ stopped turns).calls :=
  run_always (fun r : Round => Kept s₀ r.store r.heads r.calls) (fun _ t kept => turn_kept kept t)
    (start_kept distinct stopped) turns

end

/-! Why a PC leaves the round. -/

/-- The cursor of the PC is on a gap, or on an event held by the ended trial. -/
def Halted (trialEnd : Option Int) (s : Store) (d : Nat) : Prop :=
  ∃ q, cursor s d = some q ∧
    ∀ id event, eventAt s d q = some (id, event) → heldByTrial trialEnd (correctedInstant event) = true

section
variable {trialEnd : Option Int} {s₀ : Store} {calls : List Call}

theorem events_visit (trialEnd : Option Int) (p : Pass) (h : Head) : (visit trialEnd p h).store.events = p.store.events := by
  unfold visit
  dsimp only
  split
  · exact events_keepCursor _ _ _
  · split_ifs
    · exact events_keepCursor _ _ _
    · rfl

theorem cursor_keepCursor {s : Store} {h : Head} {q : Nat} (standing : cursor s h.deviceId = some h.startSeq) :
    cursor (keepCursor s h q) h.deviceId = some q := by
  unfold keepCursor
  split_ifs with moved
  · rw [cursor_set, if_pos rfl, standing]
    rfl
  · rw [standing, not_not.mp moved]

theorem cursor_visit_other {p : Pass} {h : Head} {d : Nat} (other : d ≠ h.deviceId) :
    cursor (visit trialEnd p h).store d = cursor p.store d := by
  have kept : ∀ q, cursor (keepCursor p.store h q) d = cursor p.store d := by
    intro q
    unfold keepCursor
    split_ifs
    · rw [cursor_set, if_neg other]
    · rfl
  unfold visit
  dsimp only
  split
  · exact kept _
  · split_ifs
    · exact kept _
    · rfl

theorem visit_heads (p : Pass) (h : Head) : ∃ added, (visit trialEnd p h).heads = p.heads ++ added := by
  unfold visit
  dsimp only
  split
  · exact ⟨[], (List.append_nil _).symm⟩
  · split_ifs
    · exact ⟨[], (List.append_nil _).symm⟩
    · exact ⟨_, rfl⟩

/-- The visited PC stays in the round, or its cursor says why it left. -/
theorem visit_stays {p : Pass} {h : Head} (standing : cursor p.store h.deviceId = some h.startSeq) :
    (∃ k ∈ (visit trialEnd p h).heads, k.deviceId = h.deviceId) ∨ Halted trialEnd (visit trialEnd p h).store h.deviceId := by
  unfold visit
  dsimp only
  generalize skipSettled p.store h.deviceId p.store.events.length h.seq = q
  split
  · rename_i gap
    refine .inr ⟨q, cursor_keepCursor standing, fun id event found => ?_⟩
    rw [eventAt_congr (events_keepCursor _ _ _), gap] at found
    cases found
  · rename_i id event here
    split_ifs with held
    · refine .inr ⟨q, cursor_keepCursor standing, fun id' event' found => ?_⟩
      rw [eventAt_congr (events_keepCursor _ _ _), here] at found
      obtain ⟨-, rfl⟩ := Prod.mk.inj (Option.some.inj found)
      exact held
    · exact .inl ⟨_, List.mem_append_right _ (List.mem_singleton_self _), rfl⟩

theorem halted_visit {p : Pass} {h : Head} {d : Nat} (other : d ≠ h.deviceId) (halted : Halted trialEnd p.store d) :
    Halted trialEnd (visit trialEnd p h).store d := by
  obtain ⟨q, here, held⟩ := halted
  refine ⟨q, by rw [cursor_visit_other other, here], fun id event found => held id event ?_⟩
  rwa [eventAt_congr (events_visit trialEnd p h)] at found

theorem visits_stay (heads : List Head) {p : Pass} (kept : Kept s₀ p.store (p.heads ++ heads) calls) {d : Nat}
    (inside : (∃ k ∈ heads, k.deviceId = d) ∨ (∃ k ∈ p.heads, k.deviceId = d) ∨
      ((∀ k ∈ heads, k.deviceId ≠ d) ∧ Halted trialEnd p.store d)) :
    (∃ k ∈ (heads.foldl (visit trialEnd) p).heads, k.deviceId = d) ∨
      Halted trialEnd (heads.foldl (visit trialEnd) p).store d := by
  induction heads generalizing p with
  | nil =>
    rcases inside with ⟨k, none, -⟩ | there | ⟨-, halted⟩
    · exact absurd none List.not_mem_nil
    · exact .inl there
    · exact .inr halted
  | cons h rest ih =>
    have single := kept.single
    rw [List.map_append, List.map_cons] at single
    have fresh : ∀ k ∈ rest, k.deviceId ≠ h.deviceId := fun k member same =>
      (List.nodup_middle.mp single).notMem (List.mem_append_right _ (List.mem_map.mpr ⟨k, member, same⟩))
    have standing := (kept.standing h (List.mem_append_right _ List.mem_cons_self)).1
    obtain ⟨added, grown⟩ := @visit_heads trialEnd p h
    have stays : (∃ k ∈ p.heads, k.deviceId = d) → ∃ k ∈ (visit trialEnd p h).heads, k.deviceId = d := by
      intro ⟨k, member, same⟩
      exact ⟨k, grown ▸ List.mem_append_left _ member, same⟩
    refine ih (visit_kept kept) ?_
    rcases inside with ⟨k, member, same⟩ | there | ⟨others, halted⟩
    · rcases List.mem_cons.mp member with rfl | later
      · subst same
        rcases @visit_stays trialEnd _ _ standing with there | halted
        · exact .inr (.inl there)
        · exact .inr (.inr ⟨fresh, halted⟩)
      · exact .inl ⟨k, later, same⟩
    · exact .inr (.inl (stays there))
    · exact .inr (.inr ⟨fun k member => others k (List.mem_cons_of_mem h member),
        halted_visit (others h List.mem_cons_self).symm halted⟩)

theorem pass_stays {s : Store} {heads : List Head} (kept : Kept s₀ s heads calls) {h : Head} (member : h ∈ heads) :
    (∃ k ∈ (pass trialEnd s heads).heads, k.deviceId = h.deviceId) ∨
      Halted trialEnd (pass trialEnd s heads).store h.deviceId :=
  visits_stay heads kept (.inl ⟨h, member, rfl⟩)

end

/-! The end of the round. -/

section
variable {policy : Policy} {trialEnd : Option Int} {s₀ s : Store} {heads : List Head} {calls : List Call}

/-- Every call has its own stored event. -/
theorem Kept.calls_le (kept : Kept s₀ s heads calls) : calls.length ≤ s.events.length := by
  have distinct : (calls.map fun c => (c.deviceId, c.seq)).Nodup := by
    rw [List.Nodup, List.pairwise_map]
    exact kept.ordered.imp fun {a b} later same => (later (congrArg Prod.fst same)).ne (congrArg Prod.snd same)
  have inside : (calls.map fun c => (c.deviceId, c.seq)) ⊆ s.events.map fun row => (row.deviceId, row.deviceSeq) := by
    intro key member
    obtain ⟨c, called, rfl⟩ := List.mem_map.mp member
    obtain ⟨row, stored, device, seq⟩ := (kept.made c called).1
    exact List.mem_map.mpr ⟨row, stored, by rw [device, seq]⟩
  have fits := (List.subperm_of_subset distinct inside).length_le
  rwa [List.length_map, List.length_map] at fits

theorem run_finished {r : Round} (finished : r.finished = true) (turns : List Turn) :
    run (turn policy trialEnd) r turns = r := by
  induction turns with
  | nil => rfl
  | cons t rest ih =>
    have idle : turn policy trialEnd r t = r := if_pos finished
    rw [run_cons, idle, ih]

/-- Every turn of a round that goes on has called the engine once. -/
theorem calls_of_going {r : Round} (turns : List Turn) (going : (run (turn policy trialEnd) r turns).finished = false) :
    (run (turn policy trialEnd) r turns).calls.length = r.calls.length + turns.length := by
  induction turns generalizing r with
  | nil => rfl
  | cons t rest ih =>
    rw [run_cons] at going ⊢
    rw [ih going, List.length_cons]
    have called : (turn policy trialEnd r t).calls.length = r.calls.length + 1 := by
      have stillGoing : (turn policy trialEnd r t).finished = false := by
        by_contra done
        have finished : (turn policy trialEnd r t).finished = true := by simpa using done
        rw [run_finished finished rest, finished] at going
        cases going
      revert stillGoing
      unfold turn
      split_ifs with finished
      · intro open_
        rw [finished] at open_
        cases open_
      · dsimp only
        split
        · intro open_
          cases open_
        · intro _
          unfold afterOthers callEngine
          dsimp only
          split_ifs <;> simp
    rw [called]
    omega

/-- Without a PC there is nothing to merge. -/
theorem openHeads_of_none (none : s.devices = []) (stopped : List Nat) : openHeads s stopped = [] := by
  unfold openHeads
  rw [List.filterMap_eq_nil_iff]
  intro d _
  unfold openHead
  rw [none]
  split_ifs <;> rfl

/-- A round ends within as many turns as there are stored events and PCs. -/
theorem merge_finishes (distinct : Distinct (records s₀)) (stopped : List Nat) (turns : List Turn)
    (noArrival : (merge policy trialEnd s₀ stopped turns).store.events.length = s₀.events.length)
    (entered : 0 < turns.length) (enough : s₀.events.length + s₀.devices.length ≤ turns.length) :
    (merge policy trialEnd s₀ stopped turns).finished = true := by
  by_contra unfinished
  have going : (merge policy trialEnd s₀ stopped turns).finished = false := by simpa using unfinished
  have made := calls_of_going turns going
  have fits := (@merge_kept policy trialEnd _ distinct stopped turns).calls_le
  rw [noArrival] at fits
  have count : (merge policy trialEnd s₀ stopped turns).calls.length = turns.length := by
    rw [merge, made]
    exact Nat.zero_add _
  have noPc : s₀.devices = [] := List.eq_nil_of_length_eq_zero (by omega)
  cases turns with
  | nil => cases entered
  | cons t rest =>
    have first : (turn policy trialEnd (start s₀ stopped) t).finished = true := by
      unfold turn start
      rw [openHeads_of_none noPc]
      rfl
    rw [merge, run_cons, run_finished first, first] at going
    cases going

end

/-! A round is a run of the shop: engine calls, cursor writes and the steps between. -/

section
variable {policy : Policy} {trialEnd : Option Int} {s₀ s : Store} {heads : List Head} {calls : List Call}

/-- The shop can get from `s` to `t`. -/
def Reaches (policy : Policy) (s t : Store) : Prop :=
  ∃ steps : List Step, t = run (exec policy) s steps

theorem reaches_refl (s : Store) : Reaches policy s s :=
  ⟨[], rfl⟩

theorem Reaches.trans {t u : Store} (first : Reaches policy s t) (second : Reaches policy t u) : Reaches policy s u := by
  obtain ⟨steps, rfl⟩ := first
  obtain ⟨more, rfl⟩ := second
  exact ⟨steps ++ more, (run_append s steps more).symm⟩

theorem reaches_cursor (s : Store) (d q : Nat) : Reaches policy s (s.setNextExpectedSeq d q) :=
  ⟨[.cursor d q], rfl⟩

theorem reaches_visit (p : Pass) (h : Head) : Reaches policy p.store (visit trialEnd p h).store := by
  have kept : ∀ q, Reaches policy p.store (keepCursor p.store h q) := by
    intro q
    unfold keepCursor
    split_ifs
    · exact reaches_cursor p.store h.deviceId q
    · exact reaches_refl p.store
  unfold visit
  dsimp only
  split
  · exact kept _
  · split_ifs
    · exact kept _
    · exact reaches_refl p.store

theorem reaches_visits (heads : List Head) (p : Pass) : Reaches policy p.store (heads.foldl (visit trialEnd) p).store := by
  induction heads generalizing p with
  | nil => exact reaches_refl p.store
  | cons h rest ih => exact (reaches_visit p h).trans (ih _)

theorem reaches_callEngine {r : Round} {p : Pass} {b : Best} (found : p.store.events[b.id]? = some b.event)
    (answers : Answers) : Reaches policy p.store (callEngine policy r p b answers).store := by
  have called : Reaches policy p.store (process policy p.store b.id b.event { mode := .auto } answers).1 :=
    ⟨[.merge b.id answers], by simp only [run_cons, run_nil, exec, mergeEvent, found]⟩
  unfold callEngine
  dsimp only
  split_ifs
  · exact called.trans (reaches_cursor _ _ _)
  · exact called.trans (reaches_cursor _ _ _)

theorem reaches_turn {r : Round} (kept : Kept s₀ r.store r.heads r.calls) (t : Turn) :
    Reaches policy r.store (turn policy trialEnd r t).store := by
  have passed : Reaches policy r.store (pass trialEnd r.store r.heads).store := reaches_visits r.heads _
  unfold turn
  split_ifs
  · exact reaches_refl _
  · dsimp only
    split
    · exact passed
    · rename_i b isBest
      have here := ((@pass_chosen trialEnd _ _ _ _ kept).least b isBest).2.1.here
      exact (passed.trans (reaches_callEngine (eventAt_some here).1 t.answers)).trans ⟨_, rfl⟩

theorem merge_reaches (distinct : Distinct (records s₀)) (stopped : List Nat) (turns : List Turn) :
    Reaches policy s₀ (merge policy trialEnd s₀ stopped turns).store := by
  have both : Kept s₀ (merge policy trialEnd s₀ stopped turns).store (merge policy trialEnd s₀ stopped turns).heads
        (merge policy trialEnd s₀ stopped turns).calls ∧
      Reaches policy s₀ (merge policy trialEnd s₀ stopped turns).store :=
    run_always (fun r : Round => Kept s₀ r.store r.heads r.calls ∧ Reaches policy s₀ r.store)
      (fun _ t now => ⟨turn_kept now.1 t, now.2.trans (reaches_turn now.1 t)⟩)
      ⟨start_kept distinct stopped, reaches_refl s₀⟩ turns
  exact both.2

end

/-! The claim of a round. -/

/-- What one call of the engine is made on. `r` is the round before the turn, `p` its walk over the heads. -/
structure Turned (trialEnd : Option Int) (s₀ : Store) (r : Round) (p : Pass) (b : Best) : Prop where
  stored : b.event ∈ p.store.events ∧ b.event.deviceId = b.head.deviceId ∧ b.event.deviceSeq = b.head.seq ∧
    b.event.status = .received
  /-- the PC's sequences strictly increase -/
  increasing : ∀ c ∈ r.calls, c.deviceId = b.head.deviceId → c.seq < b.head.seq
  /-- from the PC's first cursor on, or from wherever all was settled before it, nothing is passed over -/
  noSkip : ∃ c₀, cursor s₀ b.head.deviceId = some c₀ ∧ c₀ ≤ b.head.seq ∧
    ∀ low, (∀ q, low ≤ q → q < c₀ → SettledAt s₀ b.head.deviceId q) →
      ∀ q, low ≤ q → q < b.head.seq → SettledAt p.store b.head.deviceId q
  /-- least by instant, PC number and sequence among the heads of the round -/
  least : b.head ∈ p.heads ∧ ∀ h ∈ p.heads, ∃ c, Candidate trialEnd p.store h c ∧ bestKey b ≤ bestKey c
  /-- a PC is missing among them only for a gap or the trial -/
  present : ∀ h ∈ r.heads, (∃ k ∈ p.heads, k.deviceId = h.deviceId) ∨ Halted trialEnd p.store h.deviceId
  inTime : ∀ trialEnd', trialEnd = some trialEnd' → correctedInstant b.event < trialEnd'

/-- What holds of a round after any number of turns, whatever ran between them. -/
structure Merged (policy : Policy) (trialEnd : Option Int) (s₀ : Store) (stopped : List Nat) (turns : List Turn) : Prop where
  turned : ∀ before t after, turns = before ++ t :: after →
    (merge policy trialEnd s₀ stopped before).finished = false →
    ∀ b, (pass trialEnd (merge policy trialEnd s₀ stopped before).store
        (merge policy trialEnd s₀ stopped before).heads).best = some b →
      Turned trialEnd s₀ (merge policy trialEnd s₀ stopped before)
        (pass trialEnd (merge policy trialEnd s₀ stopped before).store (merge policy trialEnd s₀ stopped before).heads) b
  ordered : (merge policy trialEnd s₀ stopped turns).calls.Pairwise fun a b => a.deviceId = b.deviceId → a.seq < b.seq
  cursors : ∀ d c₀, cursor s₀ d = some c₀ → ∃ c, cursor (merge policy trialEnd s₀ stopped turns).store d = some c ∧
    c₀ ≤ c ∧ ∀ q, c₀ ≤ q → q < c → SettledAt (merge policy trialEnd s₀ stopped turns).store d q
  ends : (merge policy trialEnd s₀ stopped turns).store.events.length = s₀.events.length → 0 < turns.length →
    s₀.events.length + s₀.devices.length ≤ turns.length → (merge policy trialEnd s₀ stopped turns).finished = true

section
variable {policy : Policy} {trialEnd : Option Int} {s₀ : Store}

theorem turned_of_kept {r : Round} (kept : Kept s₀ r.store r.heads r.calls) {b : Best}
    (isBest : (pass trialEnd r.store r.heads).best = some b) :
    Turned trialEnd s₀ r (pass trialEnd r.store r.heads) b := by
  have passed := @pass_kept _ _ trialEnd _ _ kept
  have chosen := @pass_chosen trialEnd _ _ _ _ kept
  obtain ⟨member, candidate, least⟩ := chosen.least b isBest
  obtain ⟨found, device, seq⟩ := eventAt_some candidate.here
  have ahead := (passed.standing b.head member).2.1
  refine ⟨⟨List.mem_of_getElem? found, device, seq, candidate.waits⟩, fun c called same => ?_, ?_, ⟨member, ?_⟩, ?_, ?_⟩
  · exact ((passed.made c called).2 b.head member same.symm).trans_le ahead
  · obtain ⟨c₀, first⟩ := passed.known _ _ (passed.standing b.head member).1
    obtain ⟨grown, settled⟩ := passed.settled_below member first
    refine ⟨c₀, first, grown, fun low before q isLow isHigh => ?_⟩
    rcases Nat.lt_or_ge q c₀ with early | late
    · exact passed.lasting _ q (before q isLow early)
    · exact settled q late isHigh
  · intro h inside
    obtain ⟨c, here⟩ := chosen.isOpen h inside
    exact ⟨c, here, least h inside c here⟩
  · exact fun h inside => pass_stays kept inside
  · intro trialEnd' same
    have open_ := candidate.isOpen
    rw [same, candidate.instant] at open_
    simpa [heldByTrial] using open_

/-- Every merge round keeps each PC's order, takes the earliest head, stops at the trial's end, leaves each cursor
behind settled events only, and ends. -/
theorem merge_merged (policy : Policy) (trialEnd : Option Int) (s₀ : Store) (distinct : Distinct (records s₀))
    (stopped : List Nat) (turns : List Turn) : Merged policy trialEnd s₀ stopped turns where
  turned before _ _ _ _ _ isBest := turned_of_kept (merge_kept distinct stopped before) isBest
  ordered := (merge_kept distinct stopped turns).ordered
  cursors := (merge_kept distinct stopped turns).cursors
  ends := merge_finishes distinct stopped turns

end

def waitingRow (deviceId seq eventId : Nat) (ms : Int) : EventRow where
  deviceId := deviceId
  eventId := eventId
  deviceSeq := seq
  channel := "sales:process"
  payload := "p"
  payloadHash := ""
  actorUserId := 1
  occurredAt := { text := "", ms := ms }
  correctedAt := none
  copyId := 1
  schemaShape := ""
  rates := ""
  created := []
  dependsOn := []

/-- Two PCs, the second with a gap after its first event. -/
def twoPcs : Store where
  devices := [{ deviceNo := 1 }, { deviceNo := 2 }]
  events := [waitingRow 0 1 1 10, waitingRow 0 2 2 20, waitingRow 1 1 3 15, waitingRow 1 3 4 16]

theorem merge_merged_twoPcs : Merged openPolicy none twoPcs [] (List.replicate 6 {}) ∧
    ((merge openPolicy none twoPcs [] (List.replicate 6 {})).calls.map fun c => (c.deviceId, c.seq)) =
      [(0, 1), (1, 1), (0, 2)] ∧
    (merge openPolicy none twoPcs [] (List.replicate 6 {})).store.devices.map (·.nextExpectedSeq) = [3, 2] :=
  ⟨merge_merged openPolicy none twoPcs ⟨by decide, by decide⟩ [] _, by decide +kernel, by decide +kernel⟩

end Liratek.Offline.MergeOrder
