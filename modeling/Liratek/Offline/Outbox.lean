import Liratek.Offline.Upload
import Mathlib.Data.List.Sort

/-! The PC's side of sending: its outbox and the sequence counters of its pairing file. Recording and every
outbox access run one at a time. -/

namespace Liratek.Offline.Outbox
open Tables Channels Upload

inductive Delivery where
  | waiting | acked | done
  deriving DecidableEq, Repr

structure OutboxRow extends OfflineEvent where
  payloadHash : String
  delivery : Delivery := .waiting
  serverStatus : Option EventStatus := none
  lastError : Option String := none
  deriving DecidableEq, Repr

structure PairingFile where
  lastSeq : Nat := 0
  /-- the server's last sequence for this PC, as of the last check-in -/
  serverMaxSeq : Nat := 0
  deriving DecidableEq, Repr

/-- What the PC keeps on its disk. -/
structure Pc where
  outbox : List OutboxRow := []
  pairing : PairingFile := {}
  deriving DecidableEq, Repr

def uploadBatch : Nat := 100

def OutboxRow.isWaiting (row : OutboxRow) : Bool :=
  row.delivery = .waiting

/-- `COALESCE(MAX(device_seq), 0)` -/
def maxSeq (outbox : List OutboxRow) : Nat :=
  (outbox.map (·.seq)).foldr max 0

/-- The waiting rows, `ORDER BY device_seq`. -/
def waitingRows (outbox : List OutboxRow) : List OutboxRow :=
  (outbox.filter (·.isWaiting)).insertionSort fun a b => a.seq ≤ b.seq

def listWaiting (outbox : List OutboxRow) (limit : Nat) : List OutboxRow :=
  (waitingRows outbox).take limit

/-- An insert the unique indexes on event id and sequence may refuse. -/
def append (outbox : List OutboxRow) (new : OutboxRow) : Option (List OutboxRow) :=
  if outbox.any fun row => row.eventId = new.eventId || row.seq = new.seq then none else some (outbox ++ [new])

def nextSeq (pc : Pc) : Nat :=
  max (maxSeq pc.outbox) (max pc.pairing.lastSeq pc.pairing.serverMaxSeq) + 1

def newRow (policy : Policy) (event : OfflineEvent) : OutboxRow :=
  { event with payloadHash := offlineEventHash policy event }

/-- Record one event. Its sequence is read inside the transaction that appends it. -/
def record (policy : Policy) (pc : Pc) (draft : OfflineEvent) : Pc :=
  let event := { draft with seq := nextSeq pc }
  match append pc.outbox (newRow policy event) with
  | none => pc
  | some outbox => { outbox := outbox, pairing := { pc.pairing with lastSeq := max pc.pairing.lastSeq event.seq } }

/-! Answers of the server. -/

def ackRow (eventIds : List EventId) (row : OutboxRow) : OutboxRow :=
  if row.isWaiting && eventIds.contains row.eventId then { row with delivery := .acked } else row

def markAcked (outbox : List OutboxRow) (eventIds : List EventId) : List OutboxRow :=
  outbox.map (ackRow eventIds)

def deliveryAfter (delivery : Delivery) (status : EventStatus) : Delivery :=
  if status = .booked || status = .applied || status = .dismissed then .done
  else if delivery = .waiting && status ≠ .received then .acked
  else delivery

def statusRow (eventId : EventId) (status : EventStatus) (error : Option String) (row : OutboxRow) : OutboxRow :=
  if row.eventId = eventId then
    { row with serverStatus := some status, lastError := error, delivery := deliveryAfter row.delivery status }
  else row

def setServerStatus (outbox : List OutboxRow) (eventId : EventId) (status : EventStatus) (error : Option String) :
    List OutboxRow :=
  outbox.map (statusRow eventId status error)

/-- Acknowledged, with no final outcome yet. -/
def isOpen (row : OutboxRow) : Bool :=
  row.delivery = .acked && (row.serverStatus = none || row.serverStatus = some .received)

/-- Lowest open sequence: where status polling starts. -/
def oldestOpenSeq (outbox : List OutboxRow) : Option Nat :=
  ((outbox.filter isOpen).map (·.seq)).min?

/-! Renumbering the unsent work. -/

/-- One update of `device_seq`, which the unique index may refuse. -/
def setSeq (outbox : List OutboxRow) (eventId : EventId) (seq : Nat) : Option (List OutboxRow) :=
  if outbox.any fun row => row.eventId ≠ eventId && row.seq = seq then none
  else some (outbox.map fun row => if row.eventId = eventId then { row with seq := seq } else row)

/-- Sequences from `base`, in the order given. -/
def assign : List OutboxRow → List EventId → Nat → Option (List OutboxRow)
  | outbox, [], _ => some outbox
  | outbox, eventId :: rest, base => (setSeq outbox eventId base).bind fun updated => assign updated rest (base + 1)

/-- Every waiting event gets a new sequence from `startSeq`, in its old order: parked above the range first,
then assigned. The result holds the last sequence used; a refused update undoes all. -/
def renumberWaiting (outbox : List OutboxRow) (startSeq : Nat) : Option (List OutboxRow × Nat) :=
  let waiting := (waitingRows outbox).map (·.eventId)
  if waiting.isEmpty then some (outbox, startSeq - 1)
  else
    let parkBase := max (startSeq + waiting.length) (maxSeq outbox) + 1
    (assign outbox waiting parkBase).bind fun parked =>
      (assign parked waiting startSeq).map fun assigned => (assigned, startSeq + waiting.length - 1)

def renumberUnsent (pc : Pc) (serverMaxSeq : Nat) : Pc :=
  match renumberWaiting pc.outbox (serverMaxSeq + 1) with
  | none => pc
  | some (outbox, last) => { outbox := outbox, pairing := { pc.pairing with lastSeq := max last serverMaxSeq } }

/-! What the PC does with a response. -/

def receiveUpload (pc : Pc) : UploadResult → Pc
  | .done acked _ => { pc with outbox := markAcked pc.outbox acked }
  | .validationError | .versionAhead => pc

structure EventOutcomeView where
  eventId : EventId
  seq : Nat
  status : EventStatus
  error : Option String
  serverIds : Option CreatedRows
  deriving DecidableEq, Repr

def receiveStatus (pc : Pc) (outcomes : List EventOutcomeView) : Pc :=
  { pc with outbox := outcomes.foldl (fun outbox o => setServerStatus outbox o.eventId o.status o.error) pc.outbox }

/-- The parts of a check-in's answer that concern sequences. -/
structure CheckinData where
  maxSeq : Nat
  renumberUnsent : Bool
  deriving DecidableEq, Repr

def receiveCheckin (pc : Pc) (data : CheckinData) : Pc :=
  let seen := { pc with pairing := { pc.pairing with serverMaxSeq := data.maxSeq } }
  if data.renumberUnsent then renumberUnsent seen data.maxSeq else seen

/-! Rows across the updates. -/

/-- What the server may hold of a row: its id with the hash of its content. -/
def OutboxRow.key (row : OutboxRow) : EventId × String :=
  (row.eventId, row.payloadHash)

/-- Two versions of an outbox row: the recorded action is the same, its sequence may differ. -/
structure SameAction (old row : OutboxRow) : Prop where
  key : row.key = old.key
  content : { row.toOfflineEvent with seq := 0 } = { old.toOfflineEvent with seq := 0 }

theorem SameAction.eventId {old row : OutboxRow} (same : SameAction old row) : row.eventId = old.eventId :=
  (Prod.mk.inj same.key).1

/-- The hash does not read the sequence. -/
theorem SameAction.hashed {old row : OutboxRow} (same : SameAction old row) {policy : Policy}
    (hashed : old.payloadHash = offlineEventHash policy old.toOfflineEvent) :
    row.payloadHash = offlineEventHash policy row.toOfflineEvent := by
  have hash : offlineEventHash policy { row.toOfflineEvent with seq := 0 } =
      offlineEventHash policy { old.toOfflineEvent with seq := 0 } := congrArg (offlineEventHash policy) same.content
  change offlineEventHash policy row.toOfflineEvent = offlineEventHash policy old.toOfflineEvent at hash
  rw [hash, ← hashed]
  exact (Prod.mk.inj same.key).2

theorem sameAction_ackRow (eventIds : List EventId) (row : OutboxRow) : SameAction row (ackRow eventIds row) := by
  unfold ackRow
  split_ifs <;> exact ⟨rfl, rfl⟩

theorem sameAction_statusRow (eventId : EventId) (status : EventStatus) (error : Option String) (row : OutboxRow) :
    SameAction row (statusRow eventId status error row) := by
  unfold statusRow
  split_ifs <;> exact ⟨rfl, rfl⟩

theorem keys_map {f : OutboxRow → OutboxRow} (same : ∀ row, SameAction row (f row)) (outbox : List OutboxRow) :
    (outbox.map f).map (·.key) = outbox.map (·.key) := by
  rw [List.map_map]
  exact List.map_congr_left fun row _ => (same row).key

/-- An acknowledgement takes rows out of `waiting`, and only those it names. -/
theorem isWaiting_ackRow (eventIds : List EventId) (row : OutboxRow) :
    (ackRow eventIds row).isWaiting = (row.isWaiting && !eventIds.contains row.eventId) := by
  unfold ackRow
  split_ifs with acked
  · rw [Bool.and_eq_true] at acked
    rw [acked.2, Bool.not_true, Bool.and_false]
    rfl
  · cases waiting : row.isWaiting with
    | false => rfl
    | true => simpa [waiting] using acked

theorem isWaiting_statusRow {eventId : EventId} {status : EventStatus} {error : Option String} {row : OutboxRow}
    (other : row.eventId ≠ eventId) : (statusRow eventId status error row).isWaiting = row.isWaiting := by
  rw [statusRow, if_neg other]

/-- A final status ends the waiting of the row it names. -/
theorem isWaiting_statusRow_eq (eventId : EventId) (status : EventStatus) (error : Option String) (row : OutboxRow) :
    (statusRow eventId status error row).isWaiting =
      (row.isWaiting && (row.eventId ≠ eventId || status = .received)) := by
  by_cases named : row.eventId = eventId
  · rw [statusRow, if_pos named]
    cases waits : row.delivery <;> cases status <;> simp [OutboxRow.isWaiting, deliveryAfter, waits, named]
  · rw [isWaiting_statusRow named]
    simp [named]

/-! Recording. -/

theorem append_some {outbox appended : List OutboxRow} {new : OutboxRow} (done : append outbox new = some appended) :
    appended = outbox ++ [new] ∧ new.eventId ∉ outbox.map (·.eventId) := by
  unfold append at done
  split_ifs at done with clash
  refine ⟨(Option.some.inj done).symm, fun member => ?_⟩
  obtain ⟨row, inside, same⟩ := List.mem_map.mp member
  exact clash (List.any_eq_true.mpr ⟨row, inside, by simp [same]⟩)

/-- A recording is refused as a whole, or its row joins the outbox under the next sequence. -/
theorem record_cases (policy : Policy) (pc : Pc) (draft : OfflineEvent) :
    record policy pc draft = pc ∨ (draft.eventId ∉ pc.outbox.map (·.eventId) ∧ record policy pc draft =
      { outbox := pc.outbox ++ [newRow policy { draft with seq := nextSeq pc }]
        pairing := { pc.pairing with lastSeq := max pc.pairing.lastSeq (nextSeq pc) } }) := by
  unfold record
  dsimp only
  split
  · exact .inl rfl
  · rename_i appended done
    obtain ⟨rfl, newId⟩ := append_some done
    exact .inr ⟨newId, rfl⟩

/-! Renumbering. -/

def waitingIds (outbox : List OutboxRow) : List EventId :=
  (waitingRows outbox).map (·.eventId)

theorem mem_waitingRows {outbox : List OutboxRow} {row : OutboxRow} :
    row ∈ waitingRows outbox ↔ row ∈ outbox ∧ row.isWaiting = true := by
  rw [waitingRows, (List.perm_insertionSort _ _).mem_iff, List.mem_filter]

theorem waitingIds_nodup {outbox : List OutboxRow} (ids : (outbox.map (·.eventId)).Nodup) : (waitingIds outbox).Nodup := by
  have sorted : (waitingIds outbox).Perm ((outbox.filter (·.isWaiting)).map (·.eventId)) :=
    (List.perm_insertionSort _ _).map _
  rw [sorted.nodup_iff]
  exact ids.sublist (List.filter_sublist.map _)

/-- The row with its sequence from `base`, if it is among those given. -/
def assignSeq (eventIds : List EventId) (base : Nat) (row : OutboxRow) : OutboxRow :=
  if row.eventId ∈ eventIds then { row with seq := base + eventIds.idxOf row.eventId } else row

theorem sameAction_assignSeq (eventIds : List EventId) (base : Nat) (row : OutboxRow) :
    SameAction row (assignSeq eventIds base row) := by
  unfold assignSeq
  split_ifs <;> exact ⟨rfl, rfl⟩

theorem isWaiting_assignSeq (eventIds : List EventId) (base : Nat) (row : OutboxRow) :
    (assignSeq eventIds base row).isWaiting = row.isWaiting := by
  unfold assignSeq
  split_ifs <;> rfl

theorem assign_spec (outbox updated : List OutboxRow) (eventIds : List EventId) (base : Nat) (distinct : eventIds.Nodup)
    (done : assign outbox eventIds base = some updated) : updated = outbox.map (assignSeq eventIds base) := by
  induction eventIds generalizing outbox base with
  | nil =>
    rw [← Option.some.inj done]
    exact (List.map_id outbox).symm
  | cons eventId rest ih =>
    obtain ⟨next, set, later⟩ := Option.bind_eq_some_iff.mp done
    obtain ⟨fresh, restDistinct⟩ := List.nodup_cons.mp distinct
    rw [ih next (base + 1) restDistinct later]
    unfold setSeq at set
    split_ifs at set
    rw [← Option.some.inj set, List.map_map]
    refine List.map_congr_left fun row _ => ?_
    by_cases here : row.eventId = eventId
    · simp [assignSeq, here, fresh]
    · have elsewhere : (eventId == row.eventId) = false := beq_eq_false_iff_ne.mpr (Ne.symm here)
      simp only [Function.comp_apply, assignSeq, here, if_false, List.mem_cons, false_or, List.idxOf_cons, elsewhere,
        Bool.cond_false, Nat.add_assoc, Nat.add_comm 1]

/-- A renumbering that goes through numbers the waiting rows from `startSeq` in their order. -/
theorem renumberWaiting_spec {outbox updated : List OutboxRow} {startSeq last : Nat}
    (ids : (outbox.map (·.eventId)).Nodup) (done : renumberWaiting outbox startSeq = some (updated, last)) :
    updated = outbox.map (assignSeq (waitingIds outbox) startSeq) ∧ last = startSeq + (waitingIds outbox).length - 1 := by
  have distinct := waitingIds_nodup ids
  unfold renumberWaiting at done
  rw [← waitingIds] at done
  dsimp only at done
  split_ifs at done with idle
  · obtain ⟨rfl, rfl⟩ := Prod.mk.inj (Option.some.inj done)
    rw [List.isEmpty_iff] at idle
    rw [idle]
    exact ⟨(List.map_id outbox).symm, rfl⟩
  · obtain ⟨parked, park, rest⟩ := Option.bind_eq_some_iff.mp done
    obtain ⟨assigned, isAssigned, same⟩ := Option.map_eq_some_iff.mp rest
    obtain ⟨rfl, rfl⟩ := Prod.mk.inj same
    refine ⟨?_, rfl⟩
    rw [assign_spec parked assigned _ _ distinct isAssigned, assign_spec outbox parked _ _ distinct park, List.map_map]
    refine List.map_congr_left fun row _ => ?_
    unfold assignSeq
    by_cases waiting : row.eventId ∈ waitingIds outbox
    · simp [waiting]
    · simp [waiting]

end Liratek.Offline.Outbox
