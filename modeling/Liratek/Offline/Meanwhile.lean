import Liratek.Offline.Merge
import Liratek.Offline.Reception

/-! What a merge round can rely on while other steps of the shop run between its turns. -/

namespace Liratek.Offline.Meanwhile
open Tables Channels Replay Upload Shop Records Reception Arrivals Merge Lib.Runs

/-- Number and cursor of a PC. -/
def pc (row : DeviceRow) : Nat × Nat :=
  (row.deviceNo, row.nextExpectedSeq)

/-- Stored events stay, a settled one stays settled, and the PCs keep their numbers and cursors. -/
structure Past (s t : Store) : Prop where
  rows : ∀ (id : RowId) (row : EventRow), s.events[id]? = some row → ∃ row', t.events[id]? = some row' ∧
    row'.toEventRecord = row.toEventRecord ∧ (row.status ≠ .received → row'.status ≠ .received)
  pcs : ∀ d : Nat, (t.devices[d]?).map pc = (s.devices[d]?).map pc
  distinct : Distinct (records s) → Distinct (records t)

section
variable {policy : Policy} {s t u : Store}

theorem past_refl (s : Store) : Past s s where
  rows _ row found := ⟨row, found, rfl, fun done => done⟩
  pcs _ := rfl
  distinct same := same

theorem Past.trans (first : Past s t) (second : Past t u) : Past s u where
  rows id row found := by
    obtain ⟨row', found', record', settled'⟩ := first.rows id row found
    obtain ⟨last, there, record, settled⟩ := second.rows id row' found'
    exact ⟨last, there, record.trans record', fun done => settled (settled' done)⟩
  pcs d := (second.pcs d).trans (first.pcs d)
  distinct unique := second.distinct (first.distinct unique)

theorem Follows.past (follows : Follows s t) : Past s t where
  rows id row found := by
    have record : (t.events[id]?).map (·.toEventRecord) = some row.toEventRecord := by
      have same : (records t)[id]? = (records s)[id]? := by rw [follows.records]
      rw [records, records, List.getElem?_map, List.getElem?_map, found] at same
      exact same
    obtain ⟨row', found', sameRecord⟩ := Option.map_eq_some_iff.mp record
    refine ⟨row', found', sameRecord, fun done => ?_⟩
    obtain ⟨last, there, settled⟩ := follows.settled id row found done
    rw [found'] at there
    exact Option.some.inj there ▸ settled
  pcs d := by rw [follows.devices]
  distinct unique := by rwa [follows.records]

/-! An upload appends. -/

theorem uploadOne_appends (deviceId : Nat) (receipt : Receipt) (skewMs : Int) (onlineSkewMs : Option Int) (batch : Batch)
    (event : OfflineEvent) : ∃ added, (uploadOne policy deviceId receipt skewMs onlineSkewMs batch event).store.events =
        batch.store.events ++ added ∧
      (uploadOne policy deviceId receipt skewMs onlineSkewMs batch event).store.devices = batch.store.devices := by
  have same : ∃ added, batch.store.events = batch.store.events ++ added ∧ batch.store.devices = batch.store.devices :=
    ⟨[], (List.append_nil _).symm, rfl⟩
  unfold uploadOne
  split_ifs
  · exact same
  · dsimp only
    generalize toRow policy deviceId event _ = record
    have cases := insertReceived_cases batch.store record (refusalOf policy event.channel)
    generalize insertReceived batch.store record (refusalOf policy event.channel) = result at cases
    cases cases with
    | inserted newId newSeq => exact ⟨_, rfl, rfl⟩
    | duplicate id row found named sameContent => exact same
    | reused id row found named otherContent => exact same
    | seqConflict id row found newId sameSeq => exact same

theorem uploads_append (deviceId : Nat) (receipt : Receipt) (skewMs : Int) (onlineSkewMs : Option Int)
    (events : List OfflineEvent) (batch : Batch) :
    ∃ added, (events.foldl (uploadOne policy deviceId receipt skewMs onlineSkewMs) batch).store.events =
        batch.store.events ++ added ∧
      (events.foldl (uploadOne policy deviceId receipt skewMs onlineSkewMs) batch).store.devices = batch.store.devices := by
  induction events generalizing batch with
  | nil => exact ⟨[], (List.append_nil _).symm, rfl⟩
  | cons event rest ih =>
    obtain ⟨first, events, devices⟩ := @uploadOne_appends policy deviceId receipt skewMs onlineSkewMs batch event
    obtain ⟨later, events', devices'⟩ := ih (uploadOne policy deviceId receipt skewMs onlineSkewMs batch event)
    refine ⟨first ++ later, ?_, devices'.trans devices⟩
    rw [List.foldl_cons, events', events, List.append_assoc]

theorem afterUpload_frame (deviceId : Nat) (body : UploadInput) (batch : Batch) :
    (afterUpload deviceId body batch).events = batch.store.events ∧
      (afterUpload deviceId body batch).devices = batch.store.devices := by
  unfold afterUpload
  split_ifs
  · exact ⟨rfl, rfl⟩
  · exact ⟨rfl, rfl⟩
  · split
    · exact ⟨rfl, rfl⟩
    · exact ⟨rfl, rfl⟩
  · exact ⟨rfl, rfl⟩

theorem pcs_recordUploadSeen (s : Store) (deviceId : Nat) (skewMs : Int) (d : Nat) :
    ((s.recordUploadSeen deviceId skewMs).devices[d]?).map pc = (s.devices[d]?).map pc := by
  simp only [Store.recordUploadSeen, List.getElem?_modify]
  split_ifs
  · cases s.devices[d]? <;> rfl
  · cases s.devices[d]? <;> rfl

theorem upload_past (deviceId : Nat) (body : UploadInput) (receipt : Receipt) :
    Past s (upload policy s deviceId body receipt).1 := by
  have distinct := (upload_received policy s deviceId body receipt).distinct
  revert distinct
  unfold upload
  split_ifs
  · exact fun _ => past_refl s
  · exact fun _ => past_refl s
  · dsimp only
    intro distinct
    obtain ⟨added, events, devices⟩ := @uploads_append policy deviceId receipt (receipt.receivedAt - body.pcClock)
      ((s.devices[deviceId]?).bind (·.lastOnlineSkewMs)) body.events
      { store := s.recordUploadSeen deviceId (receipt.receivedAt - body.pcClock) }
    obtain ⟨events', devices'⟩ := afterUpload_frame deviceId body (body.events.foldl (uploadOne policy deviceId receipt
      (receipt.receivedAt - body.pcClock) ((s.devices[deviceId]?).bind (·.lastOnlineSkewMs)))
      { store := s.recordUploadSeen deviceId (receipt.receivedAt - body.pcClock) })
    refine ⟨fun id row found => ⟨row, ?_, rfl, fun done => done⟩, fun d => ?_, distinct⟩
    · rw [events', events]
      have inside : id < s.events.length := (List.getElem?_eq_some_iff.mp found).1
      exact (List.getElem?_append_left inside).trans found
    · rw [devices', devices]
      exact pcs_recordUploadSeen s deviceId _ d

theorem exec_past {step : Step} (foreign : isForeign step = true) : Past s (exec policy s step) := by
  cases step with
  | upload deviceId body receipt => exact upload_past deviceId body receipt
  | merge id answers => cases foreign
  | cursor deviceId seq => cases foreign
  | _ => exact Follows.past (exec_follows policy s rfl)

theorem others_past (others : List { step : Step // isForeign step = true }) :
    Past s (run (exec policy) s (others.map (·.val))) := by
  induction others generalizing s with
  | nil => exact past_refl s
  | cons step rest ih => exact (exec_past step.property).trans ih

end

end Liratek.Offline.Meanwhile
