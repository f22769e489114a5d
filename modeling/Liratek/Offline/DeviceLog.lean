import Liratek.Offline.Network
import Liratek.Offline.Reception
import Liratek.Lib.Numbering

/-! The stored numbers of one PC. An upload of the PC is the receiver's step of numbered resends. -/

namespace Liratek.Offline.DeviceLog
open Tables Channels Upload Records Reception
open Lib.Numbering

def recordEntry (r : EventRecord) : EventId × Nat :=
  (r.eventId, r.deviceSeq)

def sentEntry (event : OfflineEvent) : EventId × Nat :=
  (event.eventId, event.seq)

/-- The PC's stored events in the order of arrival, each with its number. -/
def deviceLog (deviceId : Nat) (s : Store) : List (EventId × Nat) :=
  ((records s).filter (·.deviceId = deviceId)).map recordEntry

/-- Events named so are this PC's. -/
def Owns (deviceId : Nat) (names : List EventId) (s : Store) : Prop :=
  ∀ r ∈ records s, r.eventId ∈ names → r.deviceId = deviceId

section
variable {policy : Policy} {deviceId : Nat} {s t : Store} {names : List EventId}

theorem deviceLog_congr (same : records t = records s) : deviceLog deviceId t = deviceLog deviceId s := by
  unfold deviceLog
  rw [same]

theorem knows_deviceLog {eventId : EventId} :
    Knows (deviceLog deviceId s) eventId ↔ ∃ r ∈ records s, r.deviceId = deviceId ∧ r.eventId = eventId := by
  simp only [Knows, deviceLog, List.map_map, List.mem_map, List.mem_filter, decide_eq_true_eq, and_assoc]
  exact Iff.rfl

theorem number_deviceLog {n : Nat} :
    n ∈ (deviceLog deviceId s).map Prod.snd ↔ ∃ r ∈ records s, r.deviceId = deviceId ∧ r.deviceSeq = n := by
  simp only [deviceLog, List.map_map, List.mem_map, List.mem_filter, decide_eq_true_eq, and_assoc]
  exact Iff.rfl

/-- Rows of other PCs leave the log. -/
theorem deviceLog_others {added : List EventRecord} (grows : records t = records s ++ added)
    (others : ∀ r ∈ added, r.deviceId ≠ deviceId) : deviceLog deviceId t = deviceLog deviceId s := by
  have none : added.filter (·.deviceId = deviceId) = [] := by
    rw [List.filter_eq_nil_iff]
    intro r member
    simpa using others r member
  unfold deviceLog
  rw [grows, List.filter_append, none, List.append_nil]

theorem deviceLog_stored {r : EventRecord} {event : OfflineEvent} (grows : records t = records s ++ [r])
    (stores : StoresAs policy deviceId event r) : deviceLog deviceId t = deviceLog deviceId s ++ [sentEntry event] := by
  obtain ⟨device, named, numbered, -⟩ := stores
  unfold deviceLog
  rw [grows, List.filter_append, List.map_append]
  congr 1
  simp [device, recordEntry, sentEntry, named, numbered]

theorem foldl_conflicted (receipt : Receipt) (skewMs : Int) (onlineSkewMs : Option Int) (events : List OfflineEvent)
    (batch : Batch) (conflicted : batch.conflicted = true) :
    (events.foldl (uploadOne policy deviceId receipt skewMs onlineSkewMs) batch).store = batch.store := by
  induction events generalizing batch with
  | nil => rfl
  | cons event rest ih =>
    have halted : (uploadOne policy deviceId receipt skewMs onlineSkewMs batch event).conflicted = true ∧
        (uploadOne policy deviceId receipt skewMs onlineSkewMs batch event).store = batch.store := by
      rw [uploadOne, if_pos conflicted]
      exact ⟨conflicted, rfl⟩
    exact (ih _ halted.1).trans halted.2

/-- The loop of an upload accepts a batch of numbered resends. -/
theorem uploads_accept (receipt : Receipt) (skewMs : Int) (onlineSkewMs : Option Int) (events : List OfflineEvent)
    (batch : Batch) (going : batch.conflicted = false) (own : Owns deviceId names batch.store)
    (named : ∀ event ∈ events, event.eventId ∈ names) :
    deviceLog deviceId (events.foldl (uploadOne policy deviceId receipt skewMs onlineSkewMs) batch).store =
        accept (deviceLog deviceId batch.store) (events.map sentEntry) := by
  induction events generalizing batch with
  | nil => rfl
  | cons event rest ih =>
    have later : ∀ e ∈ rest, e.eventId ∈ names := fun e member => named e (List.mem_cons_of_mem event member)
    have mine := named event List.mem_cons_self
    have passed : ∀ b : Batch, b.conflicted = false → b.store = batch.store → ∀ r ∈ records batch.store,
        r.eventId = event.eventId →
        deviceLog deviceId (rest.foldl (uploadOne policy deviceId receipt skewMs onlineSkewMs) b).store =
          accept (deviceLog deviceId batch.store) (sentEntry event :: rest.map sentEntry) := by
      intro b goes same r member isEvent
      have known : (sentEntry event).1 ∈ (deviceLog deviceId batch.store).map Prod.fst :=
        knows_deviceLog.mpr ⟨r, member, own r member (by rw [isEvent]; exact mine), isEvent⟩
      rw [accept, if_pos known, ← same]
      exact ih b goes (by rw [same]; exact own) later
    have unknown : (∀ old ∈ records batch.store, old.eventId ≠ event.eventId) →
        (sentEntry event).1 ∉ (deviceLog deviceId batch.store).map Prod.fst := by
      intro newId known
      obtain ⟨r, member, -, same⟩ := knows_deviceLog.mp known
      exact newId r member same
    rw [List.foldl_cons, List.map_cons]
    have arrival : Arrival policy deviceId batch event (uploadOne policy deviceId receipt skewMs onlineSkewMs batch event) :=
      uploadOne_arrival receipt skewMs onlineSkewMs batch event
    generalize uploadOne policy deviceId receipt skewMs onlineSkewMs batch event = b at arrival
    cases arrival with
    | stopped was =>
      rw [going] at was
      cases was
    | stored r was goes newId newSeq stores adds =>
      have free : (sentEntry event).2 ∉ (deviceLog deviceId batch.store).map Prod.snd := by
        intro taken
        obtain ⟨old, member, device, same⟩ := number_deviceLog.mp taken
        exact newSeq old member ⟨device, same⟩
      have ownNext : Owns deviceId names b.store := by
        intro old member isMine
        rw [adds] at member
        rcases List.mem_append.mp member with before | new
        · exact own old before isMine
        · rw [List.mem_singleton.mp new]
          exact stores.1
      rw [accept, if_neg (unknown newId), if_neg free, ← deviceLog_stored adds stores]
      exact ih b goes ownNext later
    | known was goes r member isEvent content same => exact passed b goes same r member isEvent
    | reused was goes r member isEvent same => exact passed b goes same r member isEvent
    | conflict was halted r member newId taken same =>
      have inLog : (sentEntry event).2 ∈ (deviceLog deviceId batch.store).map Prod.snd :=
        number_deviceLog.mpr ⟨r, member, taken.1, taken.2⟩
      rw [accept, if_neg (unknown newId), if_pos inLog, foldl_conflicted _ _ _ _ b halted, same]

/-- An upload of the PC leaves the log or accepts the batch. -/
theorem upload_accept (policy : Policy) (body : UploadInput) (receipt : Receipt) (own : Owns deviceId names s)
    (named : ∀ event ∈ body.events, event.eventId ∈ names) :
    deviceLog deviceId (upload policy s deviceId body receipt).1 = deviceLog deviceId s ∨
      deviceLog deviceId (upload policy s deviceId body receipt).1 =
        accept (deviceLog deviceId s) (body.events.map sentEntry) := by
  unfold upload
  split_ifs
  · exact .inl rfl
  · exact .inl rfl
  · right
    dsimp only
    rw [deviceLog_congr (records_afterUpload body _)]
    exact uploads_accept receipt _ _ body.events { store := s.recordUploadSeen deviceId _ } rfl own named

/-- The server's last number of a PC, when the log is gap-free. -/
theorem maxSeq_deviceLog (numbered : (deviceLog deviceId s).map Prod.snd = List.range' 1 (deviceLog deviceId s).length) :
    Network.Store.maxSeq s deviceId = (deviceLog deviceId s).length := by
  have top : ∀ n k : Nat, (List.range' (k + 1) n).foldr max 0 = if n = 0 then 0 else k + n := by
    intro n
    induction n with
    | zero => exact fun k => rfl
    | succ n ih =>
      intro k
      rw [List.range'_succ, List.foldr_cons, ih]
      rw [if_neg (Nat.succ_ne_zero n)]
      split_ifs with none
      · rw [none]
        exact Nat.max_eq_left (Nat.zero_le _)
      · rw [Nat.max_eq_right (by omega)]
        omega
  have numbers : (s.events.filter (·.deviceId = deviceId)).map (·.deviceSeq) = (deviceLog deviceId s).map Prod.snd := by
    unfold deviceLog records
    rw [List.filter_map, List.map_map, List.map_map]
    rfl
  unfold Network.Store.maxSeq
  rw [numbers, numbered, top _ 0]
  split_ifs with none
  · exact none.symm
  · exact Nat.zero_add _

end

end Liratek.Offline.DeviceLog
