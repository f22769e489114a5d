import Liratek.Offline.Records
import Liratek.Offline.Arrivals

/-! What an upload adds to the records. An event is stored once, under one number, and is acknowledged only
when its content is stored. -/

namespace Liratek.Offline.Reception
open Tables Channels Upload Arrivals Records

/-- Event ids are unique, and so are the sequences of each PC. -/
structure Distinct (rs : List EventRecord) : Prop where
  ids : (rs.map (·.eventId)).Nodup
  seqs : (rs.map fun r => (r.deviceId, r.deviceSeq)).Nodup

/-- The record stores the event as this PC sent it. -/
def StoresAs (policy : Policy) (deviceId : Nat) (event : OfflineEvent) (r : EventRecord) : Prop :=
  r.deviceId = deviceId ∧ r.eventId = event.eventId ∧ r.deviceSeq = event.seq ∧
    r.payloadHash = offlineEventHash policy event

/-- The five ways one event of a batch goes. -/
inductive Arrival (policy : Policy) (deviceId : Nat) (batch : Batch) (event : OfflineEvent) : Batch → Prop where
  | stopped (b : Batch) (was : batch.conflicted = true) (halted : b.conflicted = true) (same : b.store = batch.store)
      (acked : b.acked = batch.acked) : Arrival policy deviceId batch event b
  | stored (b : Batch) (r : EventRecord) (was : batch.conflicted = false) (goes : b.conflicted = false)
      (newId : ∀ old ∈ records batch.store, old.eventId ≠ event.eventId)
      (newSeq : ∀ old ∈ records batch.store, ¬ (old.deviceId = deviceId ∧ old.deviceSeq = event.seq))
      (stores : StoresAs policy deviceId event r) (adds : records b.store = records batch.store ++ [r])
      (acked : b.acked = batch.acked ++ [event.eventId]) : Arrival policy deviceId batch event b
  | known (b : Batch) (was : batch.conflicted = false) (goes : b.conflicted = false) (r : EventRecord)
      (member : r ∈ records batch.store) (named : r.eventId = event.eventId)
      (content : r.payloadHash = offlineEventHash policy event) (same : b.store = batch.store)
      (acked : b.acked = batch.acked ++ [event.eventId]) : Arrival policy deviceId batch event b
  | reused (b : Batch) (was : batch.conflicted = false) (goes : b.conflicted = false) (r : EventRecord)
      (member : r ∈ records batch.store) (named : r.eventId = event.eventId) (same : b.store = batch.store)
      (acked : b.acked = batch.acked) : Arrival policy deviceId batch event b
  | conflict (b : Batch) (was : batch.conflicted = false) (halted : b.conflicted = true) (r : EventRecord)
      (member : r ∈ records batch.store) (newId : ∀ old ∈ records batch.store, old.eventId ≠ event.eventId)
      (taken : r.deviceId = deviceId ∧ r.deviceSeq = event.seq) (same : b.store = batch.store)
      (acked : b.acked = batch.acked) : Arrival policy deviceId batch event b

section
variable {policy : Policy} {deviceId : Nat} (receipt : Receipt) (skewMs : Int) (onlineSkewMs : Option Int)

theorem uploadOne_arrival (batch : Batch) (event : OfflineEvent) :
    Arrival policy deviceId batch event (uploadOne policy deviceId receipt skewMs onlineSkewMs batch event) := by
  unfold uploadOne
  split_ifs with was
  · exact .stopped _ was was rfl rfl
  · have going : batch.conflicted = false := by simpa using was
    dsimp only
    generalize (skewOf policy batch.store deviceId receipt skewMs onlineSkewMs event).note = note
    generalize isRecord : toRow policy deviceId event _ = record
    have stores : StoresAs policy deviceId event record := by
      rw [← isRecord]
      exact ⟨rfl, rfl, rfl, rfl⟩
    have cases := insertReceived_cases batch.store record (refusalOf policy event.channel)
    generalize insertReceived batch.store record (refusalOf policy event.channel) = result at cases
    have inRecords : ∀ (id : RowId) (row : EventRow), batch.store.events[id]? = some row →
        row.toEventRecord ∈ records batch.store := fun id row found => mem_records.mpr ⟨id, row, found, rfl⟩
    obtain ⟨device, named, numbered, content⟩ := stores
    cases cases with
    | inserted newId newSeq =>
      refine .stored _ record going going ?_ ?_ ⟨device, named, numbered, content⟩ ?_ rfl
      · intro old member
        obtain ⟨id, row, found, same⟩ := mem_records.mp member
        rw [← same, ← named]
        exact newId id row found
      · intro old member
        obtain ⟨id, row, found, same⟩ := mem_records.mp member
        rw [← same, ← device, ← numbered]
        exact newSeq id row found
      · simp only [records, List.map_append, List.map_singleton]
        rfl
    | duplicate id row found same sameContent =>
      exact .known _ going going _ (inRecords id row found) (same.trans named) (sameContent.trans content) rfl rfl
    | reused id row found same otherContent =>
      exact .reused _ going going _ (inRecords id row found) (same.trans named) rfl rfl
    | seqConflict id row found newId sameSeq =>
      refine .conflict _ going rfl _ (inRecords id row found) ?_ ⟨sameSeq.1.trans device, sameSeq.2.trans numbered⟩ rfl rfl
      intro old member
      obtain ⟨id', row', found', same⟩ := mem_records.mp member
      rw [← same, ← named]
      exact newId id' row' found'

/-- What a batch of events has done so far. -/
structure Taken (policy : Policy) (deviceId : Nat) (rs : List EventRecord) (sent : List OfflineEvent) (b : Batch) :
    Prop where
  adds : ∃ added : List EventRecord, records b.store = rs ++ added ∧
    ∀ r ∈ added, ∃ event ∈ sent, StoresAs policy deviceId event r
  distinct : Distinct rs → Distinct (records b.store)
  acked : ∀ eventId ∈ b.acked, ∃ event ∈ sent, event.eventId = eventId ∧
    ∃ r ∈ records b.store, r.eventId = eventId ∧ r.payloadHash = offlineEventHash policy event

theorem Distinct.snoc {rs : List EventRecord} (distinct : Distinct rs) {r : EventRecord}
    (newId : ∀ old ∈ rs, old.eventId ≠ r.eventId)
    (newSeq : ∀ old ∈ rs, ¬ (old.deviceId = r.deviceId ∧ old.deviceSeq = r.deviceSeq)) : Distinct (rs ++ [r]) := by
  constructor
  · rw [List.map_append, List.map_singleton, List.nodup_append]
    refine ⟨distinct.ids, List.nodup_singleton _, fun id member other isNew => ?_⟩
    obtain ⟨old, inside, rfl⟩ := List.mem_map.mp member
    rw [List.mem_singleton.mp isNew]
    exact newId old inside
  · rw [List.map_append, List.map_singleton, List.nodup_append]
    refine ⟨distinct.seqs, List.nodup_singleton _, fun key member other isNew => ?_⟩
    obtain ⟨old, inside, rfl⟩ := List.mem_map.mp member
    rw [List.mem_singleton.mp isNew]
    intro same
    exact newSeq old inside (Prod.mk.inj same)

theorem uploadOne_taken {rs : List EventRecord} {sent : List OfflineEvent} {batch : Batch}
    (taken : Taken policy deviceId rs sent batch) (event : OfflineEvent) (member : event ∈ sent) :
    Taken policy deviceId rs sent (uploadOne policy deviceId receipt skewMs onlineSkewMs batch event) := by
  have unchanged : ∀ b : Batch, b.store = batch.store → b.acked = batch.acked → Taken policy deviceId rs sent b := by
    intro b same acked
    refine ⟨?_, ?_, ?_⟩
    · rw [same]
      exact taken.adds
    · rw [same]
      exact taken.distinct
    · rw [same, acked]
      exact taken.acked
  cases uploadOne_arrival receipt skewMs onlineSkewMs batch event with
  | stopped was halted same acked => exact unchanged _ same acked
  | reused was goes r inside named same acked => exact unchanged _ same acked
  | conflict was halted r inside newId taken' same acked => exact unchanged _ same acked
  | known was goes r inside named content same acked =>
    refine ⟨?_, ?_, ?_⟩
    · rw [same]
      exact taken.adds
    · rw [same]
      exact taken.distinct
    · rw [same, acked]
      intro eventId isAcked
      rcases List.mem_append.mp isAcked with old | new
      · exact taken.acked eventId old
      · rw [List.mem_singleton.mp new]
        exact ⟨event, member, rfl, r, inside, named, content⟩
  | stored r was goes newId newSeq stores adds acked =>
    have device := stores.1
    have named := stores.2.1
    have numbered := stores.2.2.1
    refine ⟨?_, ?_, ?_⟩
    · obtain ⟨added, before, origin⟩ := taken.adds
      refine ⟨added ++ [r], by rw [adds, before, List.append_assoc], fun r' isThere => ?_⟩
      rcases List.mem_append.mp isThere with old | new
      · exact origin r' old
      · rw [List.mem_singleton.mp new]
        exact ⟨event, member, stores⟩
    · rw [adds]
      intro distinct
      refine (taken.distinct distinct).snoc (fun old inside => ?_) fun old inside => ?_
      · rw [named]
        exact newId old inside
      · rw [device, numbered]
        exact newSeq old inside
    · rw [adds, acked]
      intro eventId isAcked
      rcases List.mem_append.mp isAcked with old | new
      · obtain ⟨event', sent', named', r', inside, rest⟩ := taken.acked eventId old
        exact ⟨event', sent', named', r', List.mem_append_left _ inside, rest⟩
      · rw [List.mem_singleton.mp new]
        exact ⟨event, member, rfl, r, List.mem_append_right _ List.mem_cons_self, named, stores.2.2.2⟩

theorem uploads_taken {rs : List EventRecord} {sent : List OfflineEvent} (events : List OfflineEvent) (batch : Batch)
    (taken : Taken policy deviceId rs sent batch) (inside : ∀ event ∈ events, event ∈ sent) :
    Taken policy deviceId rs sent (events.foldl (uploadOne policy deviceId receipt skewMs onlineSkewMs) batch) := by
  induction events generalizing batch with
  | nil => exact taken
  | cons event rest ih =>
    exact ih _ (uploadOne_taken receipt skewMs onlineSkewMs taken event (inside event List.mem_cons_self))
      fun e later => inside e (List.mem_cons_of_mem event later)

/-- A conflict item or the end of a renumbering leaves the records. -/
theorem records_afterUpload (body : UploadInput) (batch : Batch) :
    records (afterUpload deviceId body batch) = records batch.store := by
  unfold afterUpload
  split_ifs
  · rfl
  · rfl
  · split <;> rfl
  · rfl

end

/-- What one upload guarantees. -/
structure Received (policy : Policy) (deviceId : Nat) (s : Store) (body : UploadInput) (done : Store × UploadResult) :
    Prop where
  adds : ∃ added : List EventRecord, records done.1 = records s ++ added ∧
    ∀ r ∈ added, ∃ event ∈ body.events, StoresAs policy deviceId event r
  distinct : Distinct (records s) → Distinct (records done.1)
  acked : ∀ acked rejected, done.2 = .done acked rejected → ∀ eventId ∈ acked, ∃ event ∈ body.events,
    event.eventId = eventId ∧ ∃ r ∈ records done.1, r.eventId = eventId ∧ r.payloadHash = offlineEventHash policy event

theorem upload_received (policy : Policy) (s : Store) (deviceId : Nat) (body : UploadInput) (receipt : Receipt) :
    Received policy deviceId s body (upload policy s deviceId body receipt) := by
  have idle : ∃ added : List EventRecord, records s = records s ++ added ∧
      ∀ r ∈ added, ∃ event ∈ body.events, StoresAs policy deviceId event r :=
    ⟨[], (List.append_nil _).symm, fun r member => absurd member List.not_mem_nil⟩
  unfold upload
  split_ifs
  · exact ⟨idle, id, fun _ _ same => by cases same⟩
  · exact ⟨idle, id, fun _ _ same => by cases same⟩
  · dsimp only
    have empty : Taken policy deviceId (records s) body.events
        { store := s.recordUploadSeen deviceId (receipt.receivedAt - body.pcClock) } :=
      ⟨idle, id, fun eventId none => by cases none⟩
    have taken := uploads_taken receipt (receipt.receivedAt - body.pcClock) ((s.devices[deviceId]?).bind (·.lastOnlineSkewMs))
      body.events _ empty fun _ member => member
    refine ⟨?_, ?_, ?_⟩
    · rw [records_afterUpload]
      exact taken.adds
    · rw [records_afterUpload]
      exact taken.distinct
    · intro acked rejected same
      injection same with ackedSame
      rw [records_afterUpload, ← ackedSame]
      exact taken.acked

namespace Received
variable {policy : Policy} {deviceId : Nat} {s : Store} {body : UploadInput} {done : Store × UploadResult}

theorem grows (received : Received policy deviceId s body done) : records s <+: records done.1 := by
  obtain ⟨added, same, -⟩ := received.adds
  rw [same]
  exact List.prefix_append _ _

theorem origin (received : Received policy deviceId s body done) (r : EventRecord) (member : r ∈ records done.1) :
    r ∈ records s ∨ ∃ event ∈ body.events, StoresAs policy deviceId event r := by
  obtain ⟨added, same, sent⟩ := received.adds
  rw [same] at member
  exact (List.mem_append.mp member).imp_right (sent r)

end Received

end Liratek.Offline.Reception
