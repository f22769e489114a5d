import Liratek.Offline.DeviceLog
import Liratek.Lib.Runs

/-! A PC whose saved state may be rolled back. Recovery renumbers what waits on the PC; the server's numbers
stay gap-free as long as that moves nothing the server has stored. -/

namespace Liratek.Offline.Recovery
open Tables Channels Upload Outbox Network Records Reception DeviceLog
open Lib.Runs Lib.Numbering

/-- The link with every state the PC's disk was ever in. -/
structure Machine where
  link : Link
  saved : List Pc := []

inductive Move where
  | link (step : Step)
  /-- outbox and pairing file go back to an earlier point, together -/
  | rollback (point : Nat)

/-- Uuids are never drawn twice: not by the PC, and not by another PC. -/
def fresh (l : Link) : Step → Bool
  | .record draft => !l.recorded.contains draft.eventId && (records l.server).all fun r => r.eventId ≠ draft.eventId
  | .shop (.upload _ body _) => body.events.all fun event => !l.recorded.contains event.eventId
  | _ => true

def act (policy : Policy) (deviceId : Nat) (m : Machine) : Move → Machine
  | .link step =>
    if fresh m.link step then { link := exec policy deviceId m.link step, saved := m.saved ++ [m.link.pc] } else m
  | .rollback point =>
    match m.saved[point]? with
    | none => m
    | some pc => { link := { m.link with pc := pc }, saved := m.saved ++ [m.link.pc] }

def paired (devices : List DeviceRow) : Machine where
  link := start devices

/-- The check-in renumbers no stored event above the server's last number. -/
def KeepsStored (deviceId : Nat) (m : Machine) : Move → Prop
  | .link (.receiveCheckin response) => ∀ data, m.link.checkins[response]? = some data → data.renumberUnsent = true →
      ∀ (place : Nat) (row : OutboxRow), (waitingRows m.link.pc.outbox)[place]? = some row →
        (∃ r ∈ records m.link.server, r.eventId = row.eventId) →
        data.maxSeq + 1 + place ≤ Network.Store.maxSeq m.link.server deviceId
  | _ => True

/-! What the server may still receive. -/

def rowEntry (row : OutboxRow) : EventId × Nat :=
  (row.eventId, row.seq)

/-- The waiting work of one state of the PC, in the order of recording. -/
def waitingCopy (pc : Pc) : List (EventId × Nat) :=
  (pc.outbox.filter (·.isWaiting)).map rowEntry

def copies (m : Machine) : Set (List (EventId × Nat)) :=
  { copy | (∃ pc ∈ m.link.pc :: m.saved, copy = waitingCopy pc) ∨
    ∃ body ∈ m.link.requests, copy = body.events.map sentEntry }

/-- One state of the PC against the stored numbers. -/
structure Fits (log : List (EventId × Nat)) (recorded : List EventId) (pc : Pc) : Prop where
  ids : (pc.outbox.map (·.eventId)).Nodup
  named : ∀ row ∈ pc.outbox, row.eventId ∈ recorded
  marked : ∀ row ∈ pc.outbox, row.isWaiting = false → row.seq ≤ log.length
  used : pc.pairing.lastSeq ≤ log.length ∨ ∃ e ∈ waitingCopy pc, pc.pairing.lastSeq ≤ e.2
  seen : pc.pairing.serverMaxSeq ≤ log.length

structure Recoverable (deviceId : Nat) (m : Machine) : Prop where
  sound : Sound (deviceLog deviceId m.link.server) (copies m)
  fits : ∀ pc ∈ m.link.pc :: m.saved, Fits (deviceLog deviceId m.link.server) m.link.recorded pc
  sent : ∀ body ∈ m.link.requests, ∀ event ∈ body.events, event.eventId ∈ m.link.recorded
  own : Owns deviceId m.link.recorded m.link.server
  acked : ∀ acked rejected, UploadResult.done acked rejected ∈ m.link.responses → ∀ eventId ∈ acked,
    Knows (deviceLog deviceId m.link.server) eventId
  outcomes : ∀ views ∈ m.link.outcomes, ∀ view ∈ views, Knows (deviceLog deviceId m.link.server) view.eventId
  checkins : ∀ data ∈ m.link.checkins, data.maxSeq ≤ (deviceLog deviceId m.link.server).length

section
variable {policy : Policy} {deviceId : Nat} {m : Machine}

theorem mem_waitingCopy {pc : Pc} {e : EventId × Nat} :
    e ∈ waitingCopy pc ↔ ∃ row ∈ pc.outbox, row.isWaiting = true ∧ rowEntry row = e := by
  simp only [waitingCopy, List.mem_map, List.mem_filter, and_assoc]

/-- The waiting rows were recorded in the order of their numbers. -/
theorem waitingRows_eq {pc : Pc} (increasing : Increasing (waitingCopy pc)) :
    waitingRows pc.outbox = pc.outbox.filter (·.isWaiting) := by
  have sorted : (pc.outbox.filter (·.isWaiting)).Pairwise fun a b => a.seq ≤ b.seq :=
    (List.pairwise_map.mp increasing).imp fun less => Nat.le_of_lt less
  exact sorted.insertionSort_eq

theorem waitingCopy_sorted {pc : Pc} (increasing : Increasing (waitingCopy pc)) :
    (waitingRows pc.outbox).map rowEntry = waitingCopy pc := by
  rw [waitingRows_eq increasing, waitingCopy]

theorem Fits.mono {log more : List (EventId × Nat)} {recorded names : List EventId} {pc : Pc}
    (fits : Fits log recorded pc) (longer : log.length ≤ more.length) (wider : recorded ⊆ names) : Fits more names pc where
  ids := fits.ids
  named row member := wider (fits.named row member)
  marked row member gone := (fits.marked row member gone).trans longer
  used := fits.used.imp_left fun low => low.trans longer
  seen := fits.seen.trans longer

/-! The PC's steps, each with the state it leaves and the copy it makes. -/

/-- A state of the PC that the system may take on. -/
structure Admits (deviceId : Nat) (m : Machine) (recorded : List EventId) (pc : Pc) : Prop where
  sound : Sound (deviceLog deviceId m.link.server) (insert (waitingCopy pc) (copies m))
  fits : Fits (deviceLog deviceId m.link.server) recorded pc

theorem mem_copies (m : Machine) : waitingCopy m.link.pc ∈ copies m :=
  .inl ⟨m.link.pc, List.mem_cons_self, rfl⟩

theorem Recoverable.admits (r : Recoverable deviceId m) : Admits deviceId m m.link.recorded m.link.pc := by
  refine ⟨?_, r.fits _ List.mem_cons_self⟩
  rw [Set.insert_eq_of_mem (mem_copies m)]
  exact r.sound

/-- The PC moves on, and the state it leaves joins the saved ones. -/
theorem Recoverable.moves (r : Recoverable deviceId m) {pc : Pc} {recorded : List EventId}
    (wider : m.link.recorded ⊆ recorded) (own : Owns deviceId recorded m.link.server)
    (admits : Admits deviceId m recorded pc) :
    Recoverable deviceId { link := { m.link with pc := pc, recorded := recorded }, saved := m.saved ++ [m.link.pc] } := by
  refine ⟨admits.sound.mono ?_, ?_, fun body member event inside => wider (r.sent body member event inside), own, r.acked,
    r.outcomes, r.checkins⟩
  · rintro copy (⟨state, member, rfl⟩ | request)
    · rcases List.mem_cons.mp member with rfl | saved
      · exact .inl rfl
      · refine .inr (.inl ⟨state, ?_, rfl⟩)
        rcases List.mem_append.mp saved with old | last
        · exact List.mem_cons_of_mem _ old
        · rw [List.mem_singleton.mp last]
          exact List.mem_cons_self
    · exact .inr (.inr request)
  · intro state member
    rcases List.mem_cons.mp member with rfl | saved
    · exact admits.fits
    · refine (r.fits state ?_).mono (Nat.le_refl _) wider
      rcases List.mem_append.mp saved with old | last
      · exact List.mem_cons_of_mem _ old
      · rw [List.mem_singleton.mp last]
        exact List.mem_cons_self

/-- Rows marked by an answer leave the copy; the server knows them. -/
theorem Admits.mark {recorded : List EventId} {pc : Pc} (a : Admits deviceId m recorded pc)
    {change : OutboxRow → OutboxRow} (keep : EventId × Nat → Bool)
    (entry : ∀ row, rowEntry (change row) = rowEntry row)
    (waits : ∀ row, (change row).isWaiting = (row.isWaiting && keep (rowEntry row)))
    (dropped : ∀ e ∈ waitingCopy pc, keep e = false → Knows (deviceLog deviceId m.link.server) e.1) :
    Admits deviceId m recorded { pc with outbox := pc.outbox.map change } := by
  have inside : waitingCopy pc ∈ insert (waitingCopy pc) (copies m) := Set.mem_insert _ _
  have id : ∀ row, (change row).eventId = row.eventId := fun row => (Prod.mk.inj (entry row)).1
  have seq : ∀ row, (change row).seq = row.seq := fun row => (Prod.mk.inj (entry row)).2
  have copy : waitingCopy { pc with outbox := pc.outbox.map change } = (waitingCopy pc).filter keep := by
    have kept : pc.outbox.filter ((fun row => row.isWaiting) ∘ change) =
        pc.outbox.filter fun row => (keep ∘ rowEntry) row && row.isWaiting :=
      List.filter_congr fun row _ => (waits row).trans (Bool.and_comm _ _)
    simp only [waitingCopy, List.filter_map, List.map_map, List.filter_filter]
    rw [kept]
    exact List.map_congr_left fun row _ => entry row
  have low : ∀ e ∈ waitingCopy pc, keep e = false → e.2 ≤ (deviceLog deviceId m.link.server).length :=
    fun e member gone => a.sound.confirmed _ inside e member (dropped e member gone)
  refine ⟨?_, ?_, ?_, ?_, ?_, a.fits.seen⟩
  · rw [copy]
    refine (sound_insert_filter a.sound inside keep dropped).mono ?_
    exact Set.insert_subset_insert (Set.subset_insert _ _)
  · rw [List.map_map]
    exact (List.map_congr_left fun row _ => id row) ▸ a.fits.ids
  · intro row member
    obtain ⟨old, isOld, rfl⟩ := List.mem_map.mp member
    rw [id]
    exact a.fits.named old isOld
  · intro row member gone
    obtain ⟨old, isOld, rfl⟩ := List.mem_map.mp member
    rw [seq]
    rw [waits, Bool.and_eq_false_iff] at gone
    cases waiting : old.isWaiting with
    | false => exact a.fits.marked old isOld waiting
    | true =>
      refine low (rowEntry old) (mem_waitingCopy.mpr ⟨old, isOld, waiting, rfl⟩) (gone.resolve_left ?_)
      rw [waiting]
      decide
  · rw [copy]
    rcases a.fits.used with small | ⟨e, member, top⟩
    · exact .inl small
    · cases kept : keep e with
      | false => exact .inl (top.trans (low e member kept))
      | true => exact .inr ⟨e, List.mem_filter.mpr ⟨member, kept⟩, top⟩

theorem Admits.ack {recorded : List EventId} {pc : Pc} (a : Admits deviceId m recorded pc) (eventIds : List EventId)
    (known : ∀ eventId ∈ eventIds, Knows (deviceLog deviceId m.link.server) eventId) :
    Admits deviceId m recorded { pc with outbox := markAcked pc.outbox eventIds } := by
  refine a.mark (fun e => !eventIds.contains e.1) (fun row => ?_) (fun row => isWaiting_ackRow eventIds row) ?_
  · unfold ackRow
    split_ifs <;> rfl
  · intro e _ gone
    rw [Bool.not_eq_false', List.contains_iff_mem] at gone
    exact known e.1 gone

theorem Admits.status {recorded : List EventId} {pc : Pc} (a : Admits deviceId m recorded pc)
    (views : List EventOutcomeView) (known : ∀ view ∈ views, Knows (deviceLog deviceId m.link.server) view.eventId) :
    Admits deviceId m recorded (receiveStatus pc views) := by
  induction views generalizing pc with
  | nil => exact a
  | cons view rest ih =>
    refine ih (a.mark (fun e => e.1 ≠ view.eventId || view.status = .received) (fun row => ?_) (fun row => ?_) ?_)
      fun later member => known later (List.mem_cons_of_mem _ member)
    · unfold statusRow
      split_ifs <;> rfl
    · exact isWaiting_statusRow_eq view.eventId view.status view.error row
    · intro e _ gone
      have named : e.1 = view.eventId := by
        by_contra other
        simp [other] at gone
      rw [named]
      exact known view List.mem_cons_self

/-- A check-in's answer raises or repeats the server's last number. -/
theorem Admits.seen {recorded : List EventId} {pc : Pc} (a : Admits deviceId m recorded pc) {serverMaxSeq : Nat}
    (low : serverMaxSeq ≤ (deviceLog deviceId m.link.server).length) :
    Admits deviceId m recorded { pc with pairing := { pc.pairing with serverMaxSeq := serverMaxSeq } } :=
  ⟨a.sound, a.fits.ids, a.fits.named, a.fits.marked, a.fits.used, low⟩

/-! Recording. -/

theorem le_maxSeq {outbox : List OutboxRow} {row : OutboxRow} (member : row ∈ outbox) : row.seq ≤ maxSeq outbox := by
  induction outbox with
  | nil => cases member
  | cons first rest ih =>
    rcases List.mem_cons.mp member with rfl | later
    · exact Nat.le_max_left _ _
    · exact (ih later).trans (Nat.le_max_right _ _)

theorem maxSeq_attained (outbox : List OutboxRow) : maxSeq outbox = 0 ∨ ∃ row ∈ outbox, row.seq = maxSeq outbox := by
  induction outbox with
  | nil => exact .inl rfl
  | cons first rest ih =>
    have whole : maxSeq (first :: rest) = max first.seq (maxSeq rest) := rfl
    rcases Nat.le_total (maxSeq rest) first.seq with small | large
    · exact .inr ⟨first, List.mem_cons_self, by rw [whole, Nat.max_eq_left small]⟩
    · rw [whole, Nat.max_eq_right large]
      exact ih.imp_right fun ⟨row, member, same⟩ => ⟨row, List.mem_cons_of_mem _ member, same⟩

theorem waitingCopy_le {pc : Pc} {e : EventId × Nat} (member : e ∈ waitingCopy pc) : e.2 ≤ maxSeq pc.outbox := by
  obtain ⟨row, inside, -, rfl⟩ := mem_waitingCopy.mp member
  exact le_maxSeq inside

/-- A last sequence above the stored numbers is a waiting row's. -/
theorem maxSeq_waiting {log : List (EventId × Nat)} {recorded : List EventId} {pc : Pc} (fits : Fits log recorded pc)
    (high : log.length < maxSeq pc.outbox) : ∃ previous ∈ waitingCopy pc, previous.2 = maxSeq pc.outbox := by
  rcases maxSeq_attained pc.outbox with zero | ⟨row, inside, same⟩
  · omega
  · cases waiting : row.isWaiting with
    | true => exact ⟨rowEntry row, mem_waitingCopy.mpr ⟨row, inside, waiting, rfl⟩, same⟩
    | false =>
      have small := fits.marked row inside waiting
      omega

/-- The next sequence follows the stored numbers or a waiting row. -/
theorem nextSeq_follows {log : List (EventId × Nat)} {recorded : List EventId} {pc : Pc} (fits : Fits log recorded pc) :
    nextSeq pc ≤ log.length + 1 ∨ ∃ previous ∈ waitingCopy pc, previous.2 + 1 = nextSeq pc := by
  have seen := fits.seen
  by_cases low : nextSeq pc ≤ log.length + 1
  · exact .inl low
  · right
    have whole : nextSeq pc = maxSeq pc.outbox + 1 := by
      unfold nextSeq at low ⊢
      rcases fits.used with small | ⟨e, member, top⟩
      · omega
      · have bound := waitingCopy_le member
        omega
    obtain ⟨previous, inside, same⟩ := maxSeq_waiting fits (by omega)
    exact ⟨previous, inside, by rw [same, whole]⟩

theorem Recoverable.record (r : Recoverable deviceId m) (draft : OfflineEvent) (unused : draft.eventId ∉ m.link.recorded)
    (unstored : ∀ old ∈ records m.link.server, old.eventId ≠ draft.eventId) :
    Admits deviceId m (m.link.recorded ++ [draft.eventId])
      { outbox := m.link.pc.outbox ++ [newRow policy { draft with seq := nextSeq m.link.pc }]
        pairing := { m.link.pc.pairing with lastSeq := max m.link.pc.pairing.lastSeq (nextSeq m.link.pc) } } := by
  have fits := r.fits _ List.mem_cons_self
  have copy : ∀ pairing, waitingCopy
      { outbox := m.link.pc.outbox ++ [newRow policy { draft with seq := nextSeq m.link.pc }], pairing := pairing } =
        waitingCopy m.link.pc ++ [(draft.eventId, nextSeq m.link.pc)] := by
    intro pairing
    simp only [waitingCopy, List.filter_append, List.map_append]
    rfl
  have above : ∀ row ∈ m.link.pc.outbox, row.seq < nextSeq m.link.pc := by
    intro row member
    have bound := le_maxSeq member
    unfold nextSeq
    omega
  refine ⟨?_, ?_, ?_, ?_, ?_, fits.seen⟩
  · rw [copy]
    refine sound_insert_snoc r.sound (mem_copies m) _ _ ?_ ?_ ?_ (Nat.succ_pos _) (nextSeq_follows fits)
    · intro known
      obtain ⟨old, member, -, same⟩ := knows_deviceLog.mp known
      exact unstored old member same
    · rintro c (⟨pc, member, rfl⟩ | ⟨body, member, rfl⟩) e inside same
      · obtain ⟨row, isThere, -, rfl⟩ := mem_waitingCopy.mp inside
        have named := (r.fits pc member).named row isThere
        rw [show row.eventId = draft.eventId from same] at named
        exact unused named
      · obtain ⟨event, isThere, rfl⟩ := List.mem_map.mp inside
        have named := r.sent body member event isThere
        rw [show event.eventId = draft.eventId from same] at named
        exact unused named
    · intro e inside
      obtain ⟨row, isThere, -, rfl⟩ := mem_waitingCopy.mp inside
      exact above row isThere
  · rw [List.map_append, List.map_singleton]
    refine List.Nodup.append fits.ids (List.nodup_singleton _) (List.disjoint_singleton.mpr fun member => ?_)
    obtain ⟨row, isThere, same⟩ := List.mem_map.mp member
    have named := fits.named row isThere
    rw [same] at named
    exact unused named
  · intro row member
    rcases List.mem_append.mp member with old | new
    · exact List.mem_append_left _ (fits.named row old)
    · rw [List.mem_singleton.mp new]
      exact List.mem_append_right _ List.mem_cons_self
  · intro row member gone
    rcases List.mem_append.mp member with old | new
    · exact fits.marked row old gone
    · rw [List.mem_singleton.mp new] at gone
      cases gone
  · right
    rw [copy]
    refine ⟨_, List.mem_append_right _ List.mem_cons_self, Nat.max_le.mpr ⟨?_, Nat.le_refl _⟩⟩
    unfold nextSeq
    omega

/-! Renumbering. -/

theorem waitingIds_eq {pc : Pc} (increasing : Increasing (waitingCopy pc)) :
    waitingIds pc.outbox = (pc.outbox.filter (·.isWaiting)).map (·.eventId) := by
  rw [waitingIds, waitingRows_eq increasing]

/-- The sequences a renumbering assigns, row by row, are the renumbered copy. -/
theorem waitingCopy_assignSeq {pc : Pc} (ids : (pc.outbox.map (·.eventId)).Nodup)
    (increasing : Increasing (waitingCopy pc)) (startSeq : Nat) (pairing : PairingFile) :
    waitingCopy { outbox := pc.outbox.map (assignSeq (waitingIds pc.outbox) startSeq), pairing := pairing } =
      renumber startSeq (waitingCopy pc) := by
  have distinct := waitingIds_nodup ids
  have kept : pc.outbox.filter ((fun row => row.isWaiting) ∘ assignSeq (waitingIds pc.outbox) startSeq) =
      pc.outbox.filter (·.isWaiting) := List.filter_congr fun row _ => isWaiting_assignSeq _ _ row
  simp only [waitingCopy, List.filter_map, List.map_map]
  rw [kept]
  rw [waitingIds_eq increasing] at distinct ⊢
  generalize pc.outbox.filter (·.isWaiting) = rows at distinct
  apply List.ext_getElem?
  intro i
  rw [getElem?_renumber, List.getElem?_map, List.getElem?_map, Option.map_map]
  cases found : rows[i]? with
  | none => rfl
  | some row =>
    have member : row.eventId ∈ rows.map (·.eventId) := List.mem_map_of_mem (List.mem_of_getElem? found)
    have there : (rows.map (·.eventId))[i]? = some row.eventId := by rw [List.getElem?_map, found, Option.map_some]
    obtain ⟨inside, same⟩ := List.getElem?_eq_some_iff.mp there
    have place : (rows.map (·.eventId)).idxOf row.eventId = i := by
      rw [← same]
      exact distinct.idxOf_getElem i inside
    simp only [Option.map_some, Function.comp_apply, rowEntry, assignSeq, if_pos member, place]

/-- A renumbering that moves no stored event above the stored numbers. -/
theorem Admits.renumber {recorded : List EventId} {pc : Pc} (a : Admits deviceId m recorded pc) {serverMaxSeq : Nat}
    (low : serverMaxSeq ≤ (deviceLog deviceId m.link.server).length)
    (unmoved : ∀ e ∈ Lib.Numbering.renumber (serverMaxSeq + 1) (waitingCopy pc),
      Knows (deviceLog deviceId m.link.server) e.1 → e.2 ≤ (deviceLog deviceId m.link.server).length) :
    Admits deviceId m recorded (renumberUnsent pc serverMaxSeq) := by
  have inside : waitingCopy pc ∈ insert (waitingCopy pc) (copies m) := Set.mem_insert _ _
  have increasing := a.sound.increasing _ inside
  unfold renumberUnsent
  split
  · exact a
  · rename_i outbox last done
    obtain ⟨rfl, rfl⟩ := renumberWaiting_spec a.fits.ids done
    have copy := waitingCopy_assignSeq a.fits.ids increasing (serverMaxSeq + 1)
    have action := sameAction_assignSeq (waitingIds pc.outbox) (serverMaxSeq + 1)
    refine ⟨?_, ?_, ?_, ?_, ?_, a.fits.seen⟩
    · rw [copy]
      exact (sound_insert_renumber a.sound inside (serverMaxSeq + 1) (Nat.succ_le_succ low) (Nat.succ_pos _) unmoved).mono
        (Set.insert_subset_insert (Set.subset_insert _ _))
    · rw [List.map_map]
      exact (List.map_congr_left fun row _ => (action row).eventId) ▸ a.fits.ids
    · intro row member
      obtain ⟨old, isOld, rfl⟩ := List.mem_map.mp member
      rw [(action old).eventId]
      exact a.fits.named old isOld
    · intro row member gone
      obtain ⟨old, isOld, rfl⟩ := List.mem_map.mp member
      rw [isWaiting_assignSeq] at gone
      -- a marked row is not among those renumbered, ids being unique
      have unnamed : old.eventId ∉ waitingIds pc.outbox := by
        intro named
        obtain ⟨other, waits, same⟩ := List.mem_map.mp named
        obtain ⟨isThere, waiting⟩ := mem_waitingRows.mp waits
        rw [List.inj_on_of_nodup_map a.fits.ids isThere isOld same, gone] at waiting
        cases waiting
      rw [assignSeq, if_neg unnamed]
      exact a.fits.marked old isOld gone
    · rw [copy]
      have size : (waitingIds pc.outbox).length = (waitingCopy pc).length := by
        rw [waitingIds_eq increasing, waitingCopy, List.length_map, List.length_map]
      rw [size]
      cases whole : waitingCopy pc with
      | nil =>
        left
        simpa using low
      | cons first rest =>
        right
        have there : (Lib.Numbering.renumber (serverMaxSeq + 1) (first :: rest))[rest.length]? =
            some (((first :: rest).get ⟨rest.length, Nat.lt_succ_self _⟩).1, serverMaxSeq + 1 + rest.length) := by
          rw [getElem?_renumber, List.getElem?_eq_getElem (Nat.lt_succ_self rest.length), Option.map_some]
          rfl
        refine ⟨_, List.mem_of_getElem? there, ?_⟩
        simp only [List.length_cons]
        omega

end

end Liratek.Offline.Recovery
