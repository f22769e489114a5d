import Liratek.Offline.Recovery
import Liratek.Offline.Protocol
import Liratek.Offline.ExactlyOnce

/-! The stored numbers of a PC under recording, resends, rollbacks and renumberings. They are gap-free in every
run whose check-ins renumber no stored event; otherwise a number may stay empty for good. -/

namespace Liratek.Offline.GapFree
open Tables Channels Upload Outbox Network Records Reception DeviceLog Recovery
open ExactlyOnce Lib.Runs Lib.Numbering

section
variable {policy : Policy} {deviceId : Nat} {m : Machine}

theorem recoverable_paired (devices : List DeviceRow) : Recoverable deviceId (paired devices) := by
  have only : ∀ copy ∈ copies (paired devices), copy = [] := by
    rintro copy (⟨pc, member, rfl⟩ | ⟨body, member, -⟩)
    · rw [List.mem_singleton.mp member]
      rfl
    · cases member
  refine ⟨⟨rfl, ?_, ?_, ?_, ?_, ?_⟩, ?_, ?_, ?_, ?_, ?_, ?_⟩
  · intro copy member
    rw [only copy member]
    exact List.Pairwise.nil
  · intro copy member e inside
    rw [only copy member] at inside
    cases inside
  · intro copy member e inside
    rw [only copy member] at inside
    cases inside
  · intro copy member e inside
    rw [only copy member] at inside
    cases inside
  · intro one isOne two isTwo w e f before inside
    rw [only two isTwo] at inside
    cases inside
  · intro pc member
    rw [List.mem_singleton.mp member]
    exact ⟨List.nodup_nil, fun _ none => absurd none List.not_mem_nil, fun _ none => absurd none List.not_mem_nil,
      .inl (Nat.zero_le _), Nat.zero_le _⟩
  · exact fun _ none => absurd none List.not_mem_nil
  · exact fun _ none => absurd none List.not_mem_nil
  · exact fun _ _ none => absurd none List.not_mem_nil
  · exact fun _ none => absurd none List.not_mem_nil
  · exact fun _ none => absurd none List.not_mem_nil

/-! Steps of the PC. -/

/-- The state before a step joins the saved ones. -/
theorem stays (r : Recoverable deviceId m) : Recoverable deviceId { link := m.link, saved := m.saved ++ [m.link.pc] } :=
  r.moves (fun _ member => member) r.own r.admits

theorem recoverable_record (r : Recoverable deviceId m) (draft : OfflineEvent)
    (isFresh : fresh m.link (.record draft) = true) :
    Recoverable deviceId
      { link := exec policy deviceId m.link (.record draft), saved := m.saved ++ [m.link.pc] } := by
  simp only [fresh, Bool.and_eq_true, Bool.not_eq_true', List.all_eq_true, decide_eq_true_eq] at isFresh
  obtain ⟨unrecorded, unstored⟩ := isFresh
  have unused : draft.eventId ∉ m.link.recorded := fun member => by
    rw [List.contains_iff_mem.mpr member] at unrecorded
    cases unrecorded
  simp only [exec]
  rcases record_cases policy m.link.pc draft with refused | ⟨newId, appended⟩
  · rw [refused, noteRecorded, if_neg (Nat.lt_irrefl _)]
    exact stays r
  · have longer : m.link.pc.outbox.length < (record policy m.link.pc draft).outbox.length := by
      rw [appended, List.length_append]
      exact Nat.lt_succ_self _
    rw [noteRecorded, if_pos longer, appended]
    refine r.moves (fun _ member => List.mem_append_left _ member) ?_ (r.record draft unused unstored)
    intro old member named
    rcases List.mem_append.mp named with before | new
    · exact r.own old member before
    · exact absurd (List.mem_singleton.mp new) (unstored old member)

theorem recoverable_receive (r : Recoverable deviceId m) (response : Nat) :
    Recoverable deviceId
      { link := exec policy deviceId m.link (.receive response), saved := m.saved ++ [m.link.pc] } := by
  simp only [exec]
  split
  · exact stays r
  · rename_i result found
    cases result with
    | validationError => exact stays r
    | versionAhead => exact stays r
    | done acked rejected =>
      have known := r.acked acked rejected (List.mem_of_getElem? found)
      exact r.moves (fun _ member => member) r.own (r.admits.ack acked known)

theorem recoverable_receiveStatus (r : Recoverable deviceId m) (response : Nat) :
    Recoverable deviceId
      { link := exec policy deviceId m.link (.receiveStatus response), saved := m.saved ++ [m.link.pc] } := by
  simp only [exec]
  split
  · exact stays r
  · rename_i views found
    have known := r.outcomes views (List.mem_of_getElem? found)
    exact r.moves (fun _ member => member) r.own (r.admits.status views known)

theorem recoverable_receiveCheckin (r : Recoverable deviceId m) (response : Nat)
    (keeps : KeepsStored deviceId m (.link (.receiveCheckin response))) :
    Recoverable deviceId
      { link := exec policy deviceId m.link (.receiveCheckin response), saved := m.saved ++ [m.link.pc] } := by
  simp only [exec]
  split
  · exact stays r
  · rename_i data found
    have low := r.checkins data (List.mem_of_getElem? found)
    have seen := r.admits.seen low
    refine r.moves (fun _ member => member) r.own ?_
    unfold receiveCheckin
    split_ifs with asked
    · refine seen.renumber low fun e inside known => ?_
      obtain ⟨place, there⟩ := List.mem_iff_getElem?.mp inside
      rw [getElem?_renumber] at there
      obtain ⟨old, isOld, rfl⟩ := Option.map_eq_some_iff.mp there
      have increasing : Increasing (waitingCopy m.link.pc) := r.sound.increasing _ (mem_copies m)
      have isRow : ((waitingRows m.link.pc.outbox).map rowEntry)[place]? = some old := by
        rw [waitingCopy_sorted increasing]
        exact isOld
      rw [List.getElem?_map] at isRow
      obtain ⟨row, isThere, rfl⟩ := Option.map_eq_some_iff.mp isRow
      obtain ⟨stored, member, -, same⟩ := knows_deviceLog.mp known
      have bound := keeps data found asked place row isThere ⟨stored, member, same⟩
      rw [maxSeq_deviceLog r.sound.numbered] at bound
      exact bound
    · exact seen

theorem recoverable_rollback (r : Recoverable deviceId m) (point : Nat) :
    Recoverable deviceId (act policy deviceId m (.rollback point)) := by
  simp only [act]
  split
  · exact r
  · rename_i pc found
    have saved : pc ∈ m.link.pc :: m.saved := List.mem_cons_of_mem _ (List.mem_of_getElem? found)
    refine r.moves (fun _ member => member) r.own ⟨?_, r.fits pc saved⟩
    rw [Set.insert_eq_of_mem (.inl ⟨pc, saved, rfl⟩)]
    exact r.sound

/-! Messages. -/

theorem recoverable_send (r : Recoverable deviceId m) (schemaVersion : Nat) (pcClock : Int) :
    Recoverable deviceId { m with link := exec policy deviceId m.link (.send schemaVersion pcClock) } := by
  simp only [exec]
  split_ifs
  · exact r
  · have increasing : Increasing (waitingCopy m.link.pc) := r.sound.increasing _ (mem_copies m)
    have batch : ((listWaiting m.link.pc.outbox uploadBatch).map (·.toOfflineEvent)).map sentEntry =
        (waitingCopy m.link.pc).take uploadBatch := by
      rw [← waitingCopy_sorted increasing, listWaiting, List.map_map, List.map_take]
      rfl
    refine ⟨(sound_insert_take r.sound (mem_copies m) uploadBatch).mono ?_, r.fits, ?_, r.own, r.acked, r.outcomes,
      r.checkins⟩
    · rintro copy (state | ⟨body, member, rfl⟩)
      · exact .inr (.inl state)
      · rcases List.mem_append.mp member with old | new
        · exact .inr (.inr ⟨body, old, rfl⟩)
        · rw [List.mem_singleton.mp new]
          exact .inl batch
    · intro body member event inside
      rcases List.mem_append.mp member with old | new
      · exact r.sent body old event inside
      · rw [List.mem_singleton.mp new] at inside
        obtain ⟨row, batched, rfl⟩ := List.mem_map.mp inside
        exact (r.fits _ List.mem_cons_self).named row (mem_waitingRows.mp (List.mem_of_mem_take batched)).1

theorem recoverable_answer (r : Recoverable deviceId m) (request : Nat) :
    Recoverable deviceId { m with link := exec policy deviceId m.link (.answer request) } := by
  simp only [exec]
  split
  · exact r
  · refine ⟨r.sound, r.fits, r.sent, r.own, r.acked, ?_, r.checkins⟩
    intro views member view inside
    rcases List.mem_append.mp member with old | new
    · exact r.outcomes views old view inside
    · rw [List.mem_singleton.mp new] at inside
      obtain ⟨row, listed, rfl⟩ := List.mem_map.mp inside
      have sorted := List.mem_of_mem_take listed
      rw [(List.perm_insertionSort _ _).mem_iff, List.mem_filter, Bool.and_eq_true] at sorted
      exact knows_deviceLog.mpr ⟨_, List.mem_map_of_mem sorted.1, by simpa using sorted.2.1, rfl⟩

/-! Steps of the server. -/

/-- The log grew soundly. -/
theorem recoverable_server (r : Recoverable deviceId m) {server : Store}
    (sound : Sound (deviceLog deviceId server) (copies m))
    (grows : deviceLog deviceId m.link.server <+: deviceLog deviceId server) (own : Owns deviceId m.link.recorded server) :
    Recoverable deviceId { m with link := { m.link with server := server } } := by
  have known : ∀ eventId, Knows (deviceLog deviceId m.link.server) eventId → Knows (deviceLog deviceId server) eventId :=
    fun eventId old => (List.map_subset Prod.fst grows.subset) old
  exact ⟨sound, fun pc member => (r.fits pc member).mono grows.length_le (List.Subset.refl _), r.sent, own,
    fun acked rejected member eventId isAcked => known eventId (r.acked acked rejected member eventId isAcked),
    fun views member view inside => known _ (r.outcomes views member view inside),
    fun data member => (r.checkins data member).trans grows.length_le⟩

theorem recoverable_same (r : Recoverable deviceId m) {server : Store}
    (same : deviceLog deviceId server = deviceLog deviceId m.link.server) (own : Owns deviceId m.link.recorded server) :
    Recoverable deviceId { m with link := { m.link with server := server } } := by
  refine recoverable_server r ?_ ?_ own
  · rw [same]
    exact r.sound
  · exact ⟨[], by rw [List.append_nil, same]⟩

theorem recoverable_records (r : Recoverable deviceId m) {server : Store} (same : records server = records m.link.server) :
    Recoverable deviceId { m with link := { m.link with server := server } } := by
  refine recoverable_same r (deviceLog_congr same) ?_
  unfold Owns
  rw [same]
  exact r.own

theorem recoverable_deliver (r : Recoverable deviceId m) (request : Nat) (receipt : Receipt) :
    Recoverable deviceId { m with link := exec policy deviceId m.link (.deliver request receipt) } := by
  simp only [exec]
  split
  · exact r
  · rename_i body found
    have sent := r.sent body (List.mem_of_getElem? found)
    have received := upload_received policy m.link.server deviceId body receipt
    have own : Owns deviceId m.link.recorded (upload policy m.link.server deviceId body receipt).1 := by
      intro old member named
      rcases received.origin old member with before | ⟨event, -, device, -⟩
      · exact r.own old before named
      · exact device
    have server : Recoverable deviceId
        { m with link := { m.link with server := (upload policy m.link.server deviceId body receipt).1 } } := by
      rcases upload_accept policy body receipt r.own sent with same | accepted
      · exact recoverable_same r same own
      · have copy : [] ++ body.events.map sentEntry ∈ copies m := .inr ⟨body, List.mem_of_getElem? found, rfl⟩
        refine recoverable_server r ?_ ?_ own
        · rw [accepted]
          exact sound_accept [] _ _ r.sound copy fun e none => absurd none List.not_mem_nil
        · rw [accepted]
          exact accept_prefix _ _
    refine ⟨server.sound, server.fits, server.sent, server.own, ?_, server.outcomes, server.checkins⟩
    intro acked rejected member eventId isAcked
    rcases List.mem_append.mp member with old | new
    · exact server.acked acked rejected old eventId isAcked
    · obtain ⟨event, inside, named, stored, isThere, same, -⟩ :=
        received.acked acked rejected (List.mem_singleton.mp new).symm eventId isAcked
      refine knows_deviceLog.mpr ⟨stored, isThere, own stored isThere ?_, same⟩
      rw [same, ← named]
      exact sent event inside

theorem recoverable_checkin (r : Recoverable deviceId m) (input : CheckinInput) (now : Int) :
    Recoverable deviceId { m with link := exec policy deviceId m.link (.checkin input now) } := by
  have server : Recoverable deviceId
      { m with link := { m.link with server := (checkin m.link.server deviceId input now).1 } } := recoverable_records r rfl
  refine ⟨server.sound, server.fits, server.sent, server.own, server.acked, server.outcomes, ?_⟩
  intro data member
  rcases List.mem_append.mp member with old | new
  · exact server.checkins data old
  · rw [List.mem_singleton.mp new]
    exact (maxSeq_deviceLog r.sound.numbered).le

theorem recoverable_shop (r : Recoverable deviceId m) (step : Shop.Step) (isFresh : fresh m.link (.shop step) = true) :
    Recoverable deviceId { m with link := exec policy deviceId m.link (.shop step) } := by
  simp only [exec]
  split_ifs with allowed
  · rcases exec_records policy m.link.server step with ⟨sender, body, receipt, rfl⟩ | same
    · have other : sender ≠ deviceId := by simpa [foreign] using allowed
      have received := upload_received policy m.link.server sender body receipt
      obtain ⟨added, grows, sent⟩ := received.adds
      refine recoverable_same r (deviceLog_others grows fun old member => ?_) fun old member named => ?_
      · obtain ⟨event, -, device, -⟩ := sent old member
        rw [device]
        exact other
      · rcases received.origin old member with before | ⟨event, inside, -, same, -⟩
        · exact r.own old before named
        · have unused : m.link.recorded.contains event.eventId = false := by
            simpa using (List.all_eq_true.mp isFresh) event inside
          rw [← same, List.contains_iff_mem.mpr named] at unused
          cases unused
    · exact recoverable_records r same
  · exact r

/-- Every admitted move keeps the invariant. -/
theorem recoverable_act (r : Recoverable deviceId m) (move : Move) (keeps : KeepsStored deviceId m move) :
    Recoverable deviceId (act policy deviceId m move) := by
  cases move with
  | rollback point => exact recoverable_rollback r point
  | link step =>
    simp only [act]
    split_ifs with isFresh
    · have kept := stays r
      cases step with
      | record draft => exact recoverable_record r draft isFresh
      | receive response => exact recoverable_receive r response
      | receiveStatus response => exact recoverable_receiveStatus r response
      | receiveCheckin response => exact recoverable_receiveCheckin r response keeps
      | send schemaVersion pcClock => exact recoverable_send kept schemaVersion pcClock
      | answer request => exact recoverable_answer kept request
      | deliver request receipt => exact recoverable_deliver kept request receipt
      | checkin input now => exact recoverable_checkin kept input now
      | shop step => exact recoverable_shop kept step isFresh
      | requestRenumber adminId => exact recoverable_records kept (Protocol.records_requestRenumber m.link.server adminId)
      | poll =>
        simp only [exec]
        split
        · exact kept
        · exact ⟨kept.sound, kept.fits, kept.sent, kept.own, kept.acked, kept.outcomes, kept.checkins⟩
    · exact r

end

/-- The numbers stored for the PC are those from 1 to the greatest. -/
def Gapless (deviceId : Nat) (s : Store) : Prop :=
  ∀ n, (∃ r ∈ records s, r.deviceId = deviceId ∧ r.deviceSeq = n) ↔ 1 ≤ n ∧ n ≤ Network.Store.maxSeq s deviceId

theorem gapless_of_recoverable {deviceId : Nat} {m : Machine} (r : Recoverable deviceId m) :
    Gapless deviceId m.link.server := by
  intro n
  rw [← number_deviceLog, mem_numbers r.sound.numbered, maxSeq_deviceLog r.sound.numbered]

/-- Without a check-in that renumbers stored events, the stored numbers of a PC have no gap. -/
theorem gapless_of_run (policy : Policy) (deviceId : Nat) (devices : List DeviceRow) (moves : List Move)
    (keeps : Meets (act policy deviceId) (KeepsStored deviceId) (paired devices) moves) :
    Gapless deviceId (run (act policy deviceId) (paired devices) moves).link.server := by
  have start : Recoverable deviceId (paired devices) := recoverable_paired devices
  have step : ∀ m move, Recoverable deviceId m → KeepsStored deviceId m move →
      Recoverable deviceId (act policy deviceId m move) := fun m move here allowed => recoverable_act here move allowed
  exact gapless_of_recoverable (run_invariant step start keeps)

/-- Enough for a check-in: nothing that waits on the PC is stored. -/
theorem keepsStored_of_unsent {deviceId response : Nat} {m : Machine}
    (unsent : ∀ eventId ∈ waitingIds m.link.pc.outbox, eventId ∉ (records m.link.server).map (·.eventId)) :
    KeepsStored deviceId m (.link (.receiveCheckin response)) := by
  intro data found asked place row isThere ⟨r, member, same⟩
  have waits : row.eventId ∈ waitingIds m.link.pc.outbox := List.mem_map_of_mem (List.mem_of_getElem? isThere)
  have stored : r.eventId ∈ (records m.link.server).map (·.eventId) := List.mem_map_of_mem member
  rw [same] at stored
  exact absurd stored (unsent _ waits)

/-! A rolled-back PC. Its first event is stored and still waits, since the answer was lost. -/

def workOf (eventId : EventId) : OfflineEvent :=
  { parentEvent with eventId := eventId, created := [] }

def sendBatch (request : Nat) : List Move :=
  [.link (.send 1 0), .link (.deliver request { receivedAt := 0 })]

/-- Events 1 and 2 are stored, the PC goes back to where it only had event 1, and records event 3 under the
number of event 2. -/
def rolledBack : List Move :=
  [.link (.record (workOf 1))] ++ sendBatch 0 ++ [.link (.record (workOf 2))] ++ sendBatch 1 ++
    [.rollback 1, .link (.record (workOf 3))] ++ sendBatch 2

def recovery : List Move :=
  [.link (.requestRenumber 1), .link (.checkin { state := .offline, pcClock := 0 } 0), .link (.receiveCheckin 0)] ++
    sendBatch 3

/-- Event 1 moves to number 3 and event 3 to number 4. The server knows event 1, so number 3 stays empty. -/
theorem lostAnswer_leaves_gap :
    ¬ Gapless 0 (run (act openPolicy 0) (paired [{ deviceNo := 1 }]) (rolledBack ++ recovery)).link.server := by
  intro gapless
  have numbers : (records (run (act openPolicy 0) (paired [{ deviceNo := 1 }])
      (rolledBack ++ recovery)).link.server).map (fun r => (r.deviceId, r.deviceSeq)) = [(0, 1), (0, 2), (0, 4)] := by
    decide
  have top : Network.Store.maxSeq (run (act openPolicy 0) (paired [{ deviceNo := 1 }])
      (rolledBack ++ recovery)).link.server 0 = 4 := by decide
  obtain ⟨r, member, device, seq⟩ := (gapless 3).mpr (by rw [top]; decide)
  have third := List.mem_map_of_mem (f := fun r : EventRecord => (r.deviceId, r.deviceSeq)) member
  rw [numbers, device, seq] at third
  revert third
  decide

/-- The answer to the last upload arrives: event 1 is marked, and only event 3 is renumbered. -/
def answeredRecovery : List Move :=
  rolledBack ++ .link (.receive 2) :: recovery

theorem answeredRecovery_gapless :
    Gapless 0 (run (act openPolicy 0) (paired [{ deviceNo := 1 }]) answeredRecovery).link.server ∧
      Network.Store.maxSeq (run (act openPolicy 0) (paired [{ deviceNo := 1 }]) answeredRecovery).link.server 0 = 3 := by
  refine ⟨gapless_of_run openPolicy 0 [{ deviceNo := 1 }] answeredRecovery ?_, by decide⟩
  refine ⟨trivial, trivial, trivial, trivial, trivial, trivial, trivial, trivial, trivial, trivial, trivial, trivial,
    trivial, ?_, trivial, trivial, trivial⟩
  exact keepsStored_of_unsent (by decide)

end Liratek.Offline.GapFree
