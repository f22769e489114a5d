import Liratek.Offline.Network
import Liratek.Offline.Reception
import Liratek.Lib.Runs

/-! The upload protocol over any order of its steps. One invariant says what the server, the messages under
way and the PC's marks may hold, all in terms of rows of the outbox. -/

namespace Liratek.Offline.Protocol
open Tables Channels Upload Outbox Network Records Reception
open Lib.Runs

/-- An event id with the hash of its content. -/
def recordKey (r : EventRecord) : EventId × String :=
  (r.eventId, r.payloadHash)

def outboxKeys (l : Link) : List (EventId × String) :=
  l.pc.outbox.map (·.key)

def storedKeys (l : Link) : List (EventId × String) :=
  (records l.server).map recordKey

/-- Recorded on the PC and stored on the server, with one content. -/
def Delivered (l : Link) (eventId : EventId) : Prop :=
  ∃ hash, (eventId, hash) ∈ outboxKeys l ∧ (eventId, hash) ∈ storedKeys l

structure Faithful (policy : Policy) (deviceId : Nat) (l : Link) : Prop where
  ids : (l.pc.outbox.map (·.eventId)).Nodup
  hashed : ∀ row ∈ l.pc.outbox, row.payloadHash = offlineEventHash policy row.toOfflineEvent
  sent : ∀ body ∈ l.requests, ∀ event ∈ body.events, (event.eventId, offlineEventHash policy event) ∈ outboxKeys l
  stored : ∀ r ∈ records l.server, r.deviceId = deviceId → recordKey r ∈ outboxKeys l
  delivered : ∀ row ∈ l.pc.outbox, row.isWaiting = false → row.key ∈ storedKeys l
  acked : ∀ acked rejected, UploadResult.done acked rejected ∈ l.responses → ∀ eventId ∈ acked, Delivered l eventId
  outcomes : ∀ views ∈ l.outcomes, ∀ view ∈ views, Delivered l view.eventId
  recorded : ∀ eventId ∈ l.recorded, eventId ∈ l.pc.outbox.map (·.eventId)
  distinct : Distinct (records l.server)

section
variable {policy : Policy} {deviceId : Nat} {l : Link}

theorem faithful_start (devices : List DeviceRow) : Faithful policy deviceId (start devices) where
  ids := List.nodup_nil
  hashed _ member := absurd member List.not_mem_nil
  sent _ member := absurd member List.not_mem_nil
  stored _ member := absurd member List.not_mem_nil
  delivered _ member := absurd member List.not_mem_nil
  acked _ _ member := absurd member List.not_mem_nil
  outcomes _ member := absurd member List.not_mem_nil
  recorded _ member := absurd member List.not_mem_nil
  distinct := ⟨List.nodup_nil, List.nodup_nil⟩

/-- One id stands for one content on the PC. -/
theorem key_unique (f : Faithful policy deviceId l) {eventId : EventId} {one two : String}
    (first : (eventId, one) ∈ outboxKeys l) (second : (eventId, two) ∈ outboxKeys l) : one = two := by
  obtain ⟨a, inside, sameA⟩ := List.mem_map.mp first
  obtain ⟨b, isThere, sameB⟩ := List.mem_map.mp second
  obtain ⟨idA, hashA⟩ := Prod.mk.inj sameA
  obtain ⟨idB, hashB⟩ := Prod.mk.inj sameB
  have same : a = b := List.inj_on_of_nodup_map f.ids inside isThere (idA.trans idB.symm)
  rw [← hashA, ← hashB, same]

/-- A delivered row is stored under its own key. -/
theorem delivered_row (f : Faithful policy deviceId l) {row : OutboxRow} (member : row ∈ l.pc.outbox)
    (delivered : Delivered l row.eventId) : row.key ∈ storedKeys l := by
  obtain ⟨hash, onPc, onServer⟩ := delivered
  have here : (row.eventId, row.payloadHash) ∈ outboxKeys l := List.mem_map_of_mem member
  rw [key_unique f onPc here] at onServer
  exact onServer

/-! Steps of the PC. -/

/-- The PC's rows were rewritten one by one, and a row left `waiting` only when it was delivered. -/
theorem faithful_rows (f : Faithful policy deviceId l) {change : OutboxRow → OutboxRow} (pairing : PairingFile)
    (same : ∀ row, SameAction row (change row))
    (marks : ∀ row ∈ l.pc.outbox, row.isWaiting = true → (change row).isWaiting = false → Delivered l row.eventId) :
    Faithful policy deviceId { l with pc := { outbox := l.pc.outbox.map change, pairing := pairing } } := by
  have keys : outboxKeys { l with pc := { outbox := l.pc.outbox.map change, pairing := pairing } } = outboxKeys l :=
    keys_map same l.pc.outbox
  have names : (l.pc.outbox.map change).map (·.eventId) = l.pc.outbox.map (·.eventId) := by
    rw [List.map_map]
    exact List.map_congr_left fun row _ => (same row).eventId
  have still : ∀ eventId, Delivered l eventId →
      Delivered { l with pc := { outbox := l.pc.outbox.map change, pairing := pairing } } eventId := by
    intro eventId ⟨hash, onPc, onServer⟩
    exact ⟨hash, by rw [keys]; exact onPc, onServer⟩
  refine ⟨?_, ?_, ?_, ?_, ?_, ?_, ?_, ?_, f.distinct⟩
  · rw [names]
    exact f.ids
  · intro row member
    obtain ⟨old, inside, rfl⟩ := List.mem_map.mp member
    exact (same old).hashed (f.hashed old inside)
  · rw [keys]
    exact f.sent
  · rw [keys]
    exact f.stored
  · intro row member gone
    obtain ⟨old, inside, rfl⟩ := List.mem_map.mp member
    rw [(same old).key]
    cases waiting : old.isWaiting with
    | true => exact delivered_row f inside (marks old inside waiting gone)
    | false => exact f.delivered old inside waiting
  · intro acked rejected member eventId isAcked
    exact still eventId (f.acked acked rejected member eventId isAcked)
  · intro views member view inside
    exact still _ (f.outcomes views member view inside)
  · rw [names]
    exact f.recorded

theorem faithful_pairing (f : Faithful policy deviceId l) (pairing : PairingFile) :
    Faithful policy deviceId { l with pc := { l.pc with pairing := pairing } } :=
  ⟨f.ids, f.hashed, f.sent, f.stored, f.delivered, f.acked, f.outcomes, f.recorded, f.distinct⟩

/-- A recorded event joins the outbox, waiting. -/
theorem faithful_append (f : Faithful policy deviceId l) {row : OutboxRow} (pairing : PairingFile)
    (newId : row.eventId ∉ l.pc.outbox.map (·.eventId))
    (hashed : row.payloadHash = offlineEventHash policy row.toOfflineEvent) (waiting : row.isWaiting = true) :
    Faithful policy deviceId { l with pc := { outbox := l.pc.outbox ++ [row], pairing := pairing }
                                      recorded := l.recorded ++ [row.eventId] } := by
  have keys : ∀ key ∈ outboxKeys l, key ∈ (l.pc.outbox ++ [row]).map (·.key) := by
    intro key member
    rw [List.map_append]
    exact List.mem_append_left _ member
  have still : ∀ eventId, Delivered l eventId →
      Delivered { l with pc := { outbox := l.pc.outbox ++ [row], pairing := pairing }
                         recorded := l.recorded ++ [row.eventId] } eventId :=
    fun eventId ⟨hash, onPc, onServer⟩ => ⟨hash, keys _ onPc, onServer⟩
  refine ⟨?_, ?_, ?_, ?_, ?_, ?_, ?_, ?_, f.distinct⟩
  · rw [List.map_append, List.map_singleton]
    exact List.Nodup.append f.ids (List.nodup_singleton _) (List.disjoint_singleton.mpr newId)
  · intro other member
    rcases List.mem_append.mp member with old | new
    · exact f.hashed other old
    · rw [List.mem_singleton.mp new]
      exact hashed
  · exact fun body member event inside => keys _ (f.sent body member event inside)
  · exact fun r member device => keys _ (f.stored r member device)
  · intro other member gone
    rcases List.mem_append.mp member with old | new
    · exact f.delivered other old gone
    · rw [List.mem_singleton.mp new, waiting] at gone
      cases gone
  · exact fun acked rejected member eventId isAcked => still eventId (f.acked acked rejected member eventId isAcked)
  · exact fun views member view inside => still _ (f.outcomes views member view inside)
  · intro eventId member
    rw [List.map_append, List.map_singleton]
    rcases List.mem_append.mp member with old | new
    · exact List.mem_append_left _ (f.recorded eventId old)
    · exact List.mem_append_right _ new

theorem faithful_record (f : Faithful policy deviceId l) (draft : OfflineEvent) :
    Faithful policy deviceId (exec policy deviceId l (.record draft)) := by
  simp only [exec]
  rcases record_cases policy l.pc draft with refused | ⟨newId, appended⟩
  · rw [refused, noteRecorded, if_neg (Nat.lt_irrefl _)]
    exact f
  · have longer : l.pc.outbox.length < (record policy l.pc draft).outbox.length := by
      rw [appended, List.length_append]
      exact Nat.lt_succ_self _
    rw [noteRecorded, if_pos longer, appended]
    exact faithful_append f _ newId rfl rfl

theorem faithful_receive (f : Faithful policy deviceId l) (response : Nat) :
    Faithful policy deviceId (exec policy deviceId l (.receive response)) := by
  simp only [exec]
  split
  · exact f
  · rename_i result found
    cases result with
    | validationError => exact f
    | versionAhead => exact f
    | done acked rejected =>
      refine faithful_rows f _ (sameAction_ackRow acked) fun row _ waiting gone => ?_
      rw [isWaiting_ackRow, waiting, Bool.true_and, Bool.not_eq_false', List.contains_iff_mem] at gone
      exact f.acked acked rejected (List.mem_of_getElem? found) _ gone

theorem faithful_outcomes (f : Faithful policy deviceId l) (views : List EventOutcomeView)
    (delivered : ∀ view ∈ views, Delivered l view.eventId) :
    Faithful policy deviceId { l with pc := receiveStatus l.pc views } := by
  induction views generalizing l with
  | nil => exact f
  | cons view rest ih =>
    have first := faithful_rows f l.pc.pairing (sameAction_statusRow view.eventId view.status view.error) ?_
    · refine ih first fun later member => ?_
      obtain ⟨hash, onPc, onServer⟩ := delivered later (List.mem_cons_of_mem _ member)
      refine ⟨hash, ?_, onServer⟩
      rw [outboxKeys, keys_map (sameAction_statusRow _ _ _)]
      exact onPc
    · intro row _ waiting gone
      by_cases named : row.eventId = view.eventId
      · rw [named]
        exact delivered view List.mem_cons_self
      · rw [isWaiting_statusRow named, waiting] at gone
        cases gone

theorem faithful_renumber (f : Faithful policy deviceId l) (serverMaxSeq : Nat) :
    Faithful policy deviceId { l with pc := renumberUnsent l.pc serverMaxSeq } := by
  unfold renumberUnsent
  split
  · exact f
  · rename_i outbox last done
    obtain ⟨rfl, -⟩ := renumberWaiting_spec f.ids done
    refine faithful_rows f _ (sameAction_assignSeq _ _) fun row _ waiting gone => ?_
    rw [isWaiting_assignSeq, waiting] at gone
    cases gone

theorem faithful_receiveCheckin (f : Faithful policy deviceId l) (response : Nat) :
    Faithful policy deviceId (exec policy deviceId l (.receiveCheckin response)) := by
  simp only [exec]
  split
  · exact f
  · rename_i data _
    have seen := faithful_pairing f { l.pc.pairing with serverMaxSeq := data.maxSeq }
    unfold receiveCheckin
    split_ifs
    · exact faithful_renumber seen data.maxSeq
    · exact seen

/-! Steps of the network. -/

theorem faithful_send (f : Faithful policy deviceId l) (schemaVersion : Nat) (pcClock : Int) :
    Faithful policy deviceId (exec policy deviceId l (.send schemaVersion pcClock)) := by
  simp only [exec]
  split_ifs
  · exact f
  · refine ⟨f.ids, f.hashed, ?_, f.stored, f.delivered, f.acked, f.outcomes, f.recorded, f.distinct⟩
    intro body member event inside
    rcases List.mem_append.mp member with old | new
    · exact f.sent body old event inside
    · rw [List.mem_singleton.mp new] at inside
      obtain ⟨row, batched, rfl⟩ := List.mem_map.mp inside
      have here := (mem_waitingRows.mp (List.mem_of_mem_take batched)).1
      rw [← f.hashed row here]
      exact List.mem_map_of_mem here

theorem faithful_answer (f : Faithful policy deviceId l) (request : Nat) :
    Faithful policy deviceId (exec policy deviceId l (.answer request)) := by
  simp only [exec]
  split
  · exact f
  · rename_i fromSeq _
    refine ⟨f.ids, f.hashed, f.sent, f.stored, f.delivered, f.acked, ?_, f.recorded, f.distinct⟩
    intro views member view inside
    rcases List.mem_append.mp member with old | new
    · exact f.outcomes views old view inside
    · rw [List.mem_singleton.mp new] at inside
      obtain ⟨row, listed, rfl⟩ := List.mem_map.mp inside
      have sorted := List.mem_of_mem_take listed
      rw [(List.perm_insertionSort _ _).mem_iff, List.mem_filter, Bool.and_eq_true] at sorted
      have isRecord : row.toEventRecord ∈ records l.server := List.mem_map_of_mem sorted.1
      exact ⟨row.payloadHash, f.stored _ isRecord (by simpa using sorted.2.1), List.mem_map_of_mem isRecord⟩

/-! Steps of the server. -/

/-- The server's records grew by rows that may be there. -/
theorem faithful_server (f : Faithful policy deviceId l) {server : Store}
    (grows : records l.server <+: records server) (distinct : Distinct (records server))
    (stored : ∀ r ∈ records server, r.deviceId = deviceId → r ∈ records l.server ∨ recordKey r ∈ outboxKeys l) :
    Faithful policy deviceId { l with server := server } := by
  have keys : ∀ key ∈ storedKeys l, key ∈ (records server).map recordKey :=
    fun key member => (List.map_subset recordKey grows.subset) member
  have still : ∀ eventId, Delivered l eventId → Delivered { l with server := server } eventId :=
    fun eventId ⟨hash, onPc, onServer⟩ => ⟨hash, onPc, keys _ onServer⟩
  refine ⟨f.ids, f.hashed, f.sent, ?_, ?_, ?_, ?_, f.recorded, distinct⟩
  · intro r member device
    rcases stored r member device with old | new
    · exact f.stored r old device
    · exact new
  · exact fun row member gone => keys _ (f.delivered row member gone)
  · exact fun acked rejected member eventId isAcked => still eventId (f.acked acked rejected member eventId isAcked)
  · exact fun views member view inside => still _ (f.outcomes views member view inside)

theorem faithful_same (f : Faithful policy deviceId l) {server : Store} (same : records server = records l.server) :
    Faithful policy deviceId { l with server := server } := by
  refine faithful_server f ?_ ?_ fun r member _ => ?_
  · exact ⟨[], by rw [List.append_nil, same]⟩
  · rw [same]
    exact f.distinct
  · rw [same] at member
    exact .inl member

theorem faithful_deliver (f : Faithful policy deviceId l) (request : Nat) (receipt : Receipt) :
    Faithful policy deviceId (exec policy deviceId l (.deliver request receipt)) := by
  simp only [exec]
  split
  · exact f
  · rename_i body found
    have received := upload_received policy l.server deviceId body receipt
    have sent := f.sent body (List.mem_of_getElem? found)
    have server := faithful_server f received.grows (received.distinct f.distinct) fun r member _ => ?_
    · refine ⟨server.ids, server.hashed, server.sent, server.stored, server.delivered, ?_, server.outcomes,
        server.recorded, server.distinct⟩
      intro acked rejected member eventId isAcked
      rcases List.mem_append.mp member with old | new
      · exact server.acked acked rejected old eventId isAcked
      · obtain ⟨event, inside, named, r, isThere, sameId, content⟩ :=
          received.acked acked rejected (List.mem_singleton.mp new).symm eventId isAcked
        refine ⟨offlineEventHash policy event, ?_, ?_⟩
        · rw [← named]
          exact sent event inside
        · rw [← sameId, ← content]
          exact List.mem_map_of_mem isThere
    · rcases received.origin r member with old | ⟨event, inside, -, sameId, -, content⟩
      · exact .inl old
      · refine .inr ?_
        rw [recordKey, sameId, content]
        exact sent event inside

theorem records_requestRenumber (s : Store) (adminId : Nat) : records (requestRenumber s deviceId adminId) = records s := by
  unfold requestRenumber
  split <;> rfl

theorem faithful_shop (f : Faithful policy deviceId l) (step : Shop.Step) :
    Faithful policy deviceId (exec policy deviceId l (.shop step)) := by
  simp only [exec]
  split_ifs with allowed
  · rcases exec_records policy l.server step with ⟨sender, body, receipt, rfl⟩ | same
    · have other : sender ≠ deviceId := by simpa [foreign] using allowed
      have received := upload_received policy l.server sender body receipt
      refine faithful_server f received.grows (received.distinct f.distinct) fun r member device => ?_
      rcases received.origin r member with old | ⟨event, -, isSender, -⟩
      · exact .inl old
      · exact absurd (isSender.symm.trans device) other
    · exact faithful_same f same
  · exact f

/-- Every step keeps the invariant. -/
theorem faithful_exec (f : Faithful policy deviceId l) (step : Step) : Faithful policy deviceId (exec policy deviceId l step) := by
  cases step with
  | record draft => exact faithful_record f draft
  | send schemaVersion pcClock => exact faithful_send f schemaVersion pcClock
  | deliver request receipt => exact faithful_deliver f request receipt
  | receive response => exact faithful_receive f response
  | poll =>
    simp only [exec]
    split
    · exact f
    · exact ⟨f.ids, f.hashed, f.sent, f.stored, f.delivered, f.acked, f.outcomes, f.recorded, f.distinct⟩
  | answer request => exact faithful_answer f request
  | receiveStatus response =>
    simp only [exec]
    split
    · exact f
    · rename_i views found
      exact faithful_outcomes f views (f.outcomes views (List.mem_of_getElem? found))
  | checkin input now =>
    have same : Faithful policy deviceId { l with server := (checkin l.server deviceId input now).1 } :=
      faithful_same f rfl
    exact ⟨same.ids, same.hashed, same.sent, same.stored, same.delivered, same.acked, same.outcomes, same.recorded,
      same.distinct⟩
  | receiveCheckin response => exact faithful_receiveCheckin f response
  | requestRenumber adminId => exact faithful_same f (records_requestRenumber l.server adminId)
  | shop step => exact faithful_shop f step

/-! Runs. -/

theorem faithful_run (f : Faithful policy deviceId l) (steps : List Step) :
    Faithful policy deviceId (run (exec policy deviceId) l steps) :=
  run_always (Faithful policy deviceId) (fun _ step here => faithful_exec here step) f steps

/-- The server forgets no record. -/
theorem records_grow (l : Link) (step : Step) : records l.server <+: records (exec policy deviceId l step).server := by
  have still := List.prefix_refl (records l.server)
  cases step with
  | record draft => exact still
  | send schemaVersion pcClock =>
    simp only [exec]
    split_ifs <;> exact still
  | deliver request receipt =>
    simp only [exec]
    split
    · exact still
    · exact (upload_received policy l.server deviceId _ receipt).grows
  | receive response =>
    simp only [exec]
    split <;> exact still
  | poll =>
    simp only [exec]
    split <;> exact still
  | answer request =>
    simp only [exec]
    split <;> exact still
  | receiveStatus response =>
    simp only [exec]
    split <;> exact still
  | checkin input now => exact still
  | receiveCheckin response =>
    simp only [exec]
    split <;> exact still
  | requestRenumber adminId =>
    have same : records (requestRenumber l.server deviceId adminId) = records l.server := records_requestRenumber _ _
    simp only [exec, same]
    exact still
  | shop step =>
    simp only [exec]
    split_ifs
    · rcases exec_records policy l.server step with ⟨sender, body, receipt, rfl⟩ | same
      · exact (upload_received policy l.server sender body receipt).grows
      · exact ⟨[], by rw [List.append_nil, same]⟩
    · exact still

theorem records_grow_run (l : Link) (steps : List Step) :
    records l.server <+: records (run (exec policy deviceId) l steps).server :=
  run_grows (fun before after : Link => records before.server <+: records after.server)
    (fun _ => List.prefix_refl _) (fun _ _ _ => List.IsPrefix.trans) records_grow l steps

end

/-- Whatever the network does: the server stores an event once and under one number, now and later; a marked
event is stored with its content; a recorded event waits on the PC or is stored. -/
theorem uploads_delivered (policy : Policy) (deviceId : Nat) (devices : List DeviceRow) (steps more : List Step) :
    let l := run (exec policy deviceId) (start devices) steps
    let later := run (exec policy deviceId) l more
    (Distinct (records later.server) ∧
      ∀ r ∈ records l.server, ∀ r' ∈ records later.server, r'.eventId = r.eventId → r' = r) ∧
    (∀ row ∈ l.pc.outbox, row.delivery ≠ .waiting →
      ∃ r ∈ records l.server, r.eventId = row.eventId ∧ r.payloadHash = row.payloadHash) ∧
    (∀ eventId ∈ l.recorded, (∃ row ∈ l.pc.outbox, row.eventId = eventId ∧ row.delivery = .waiting) ∨
      ∃ r ∈ records l.server, r.eventId = eventId) := by
  intro l later
  have f : Faithful policy deviceId l := faithful_run (faithful_start devices) steps
  have g : Faithful policy deviceId later := faithful_run f more
  have grows : records l.server <+: records later.server := records_grow_run l more
  have marked : ∀ row ∈ l.pc.outbox, row.delivery ≠ .waiting →
      ∃ r ∈ records l.server, r.eventId = row.eventId ∧ r.payloadHash = row.payloadHash := by
    intro row member delivery
    have gone : row.isWaiting = false := decide_eq_false delivery
    obtain ⟨r, isThere, same⟩ := List.mem_map.mp (f.delivered row member gone)
    exact ⟨r, isThere, Prod.mk.inj same⟩
  refine ⟨⟨g.distinct, fun r old r' new same => ?_⟩, marked, fun eventId member => ?_⟩
  · exact List.inj_on_of_nodup_map g.distinct.ids new (grows.subset old) same
  · obtain ⟨row, inside, rfl⟩ := List.mem_map.mp (f.recorded eventId member)
    by_cases waiting : row.delivery = .waiting
    · exact .inl ⟨row, inside, rfl, waiting⟩
    · obtain ⟨r, isThere, same, -⟩ := marked row inside waiting
      exact .inr ⟨r, isThere, same⟩

end Liratek.Offline.Protocol
