import Liratek.Offline.Skew

/-! Uploads: what the server does with one batch of a PC's events. An event is known by its id, by its
PC and sequence number, and by the hash of its content. -/

namespace Liratek.Offline.Upload
open Tables Channels Skew

/-- One recorded action as the PC sends it. The payload is its canonical JSON text. -/
structure OfflineEvent where
  eventId : EventId
  seq : Nat
  channel : String
  payload : String
  actorUserId : Nat
  occurredAt : Instant
  copyId : Nat
  schemaShape : String
  rates : String
  created : CreatedRows
  dependsOn : List EventId
  deriving DecidableEq, Repr

structure UploadInput where
  schemaVersion : Nat
  pcClock : Int
  events : List OfflineEvent
  deriving DecidableEq, Repr

/-- What the server knows at the request: its clock and the copies it built. -/
structure Receipt where
  receivedAt : Int
  copyBuiltAt : Nat → Option Int := fun _ => none

inductive RejectCode where
  | eventIdReused | seqConflict
  deriving DecidableEq, Repr

structure Rejected where
  eventId : EventId
  code : RejectCode
  error : String
  deriving DecidableEq, Repr

inductive UploadResult where
  | validationError
  | versionAhead
  | done (acked : List EventId) (rejected : List Rejected)
  deriving DecidableEq, Repr

def seqConflictReason : String :=
  "This PC's numbering is out of step with the server (it lost its saved state). It has stopped sending; nothing was booked twice. Renumber its unsent work to let it continue."

/-- The content that must not change under one event id. -/
def offlineEventHash (policy : Policy) (event : OfflineEvent) : String :=
  policy.sha256 (event.payload ++ "\x00" ++ event.channel ++ "\x00" ++ toString event.actorUserId ++ "\x00" ++
    event.occurredAt.text)

def offlineEventSchema (policy : Policy) (event : OfflineEvent) : Bool :=
  1 ≤ event.seq && 1 ≤ event.channel.length && event.channel.length ≤ 100 && 1 ≤ event.actorUserId &&
    policy.ratesParse event.rates && event.created.all fun rows => rows.2.all fun id => 1 ≤ id

def uploadEventsSchema (policy : Policy) (body : UploadInput) : Bool :=
  1 ≤ body.events.length && body.events.length ≤ 100 && body.events.all (offlineEventSchema policy)

def toRow (policy : Policy) (deviceId : Nat) (event : OfflineEvent) (correctedAt : Option Int) : EventRecord where
  deviceId := deviceId
  eventId := event.eventId
  deviceSeq := event.seq
  channel := event.channel
  payload := event.payload
  payloadHash := offlineEventHash policy event
  actorUserId := event.actorUserId
  occurredAt := event.occurredAt
  correctedAt := correctedAt
  copyId := event.copyId
  schemaShape := event.schemaShape
  rates := event.rates
  created := event.created
  dependsOn := event.dependsOn

inductive InsertOutcome where
  | inserted | duplicate | reused | seqConflict
  deriving DecidableEq, Repr

/-- `refusal` is the error of an event the server refuses on arrival. -/
def arrivalRow (record : EventRecord) (refusal : Option String) : EventRow :=
  { record with status := if refusal.isSome then .refused else .received, error := refusal }

def insertReceived (s : Store) (record : EventRecord) (refusal : Option String) : Store × InsertOutcome :=
  match s.findByEventId record.eventId with
  | some existing =>
    if (s.events[existing]?).any fun row => row.payloadHash = record.payloadHash then (s, .duplicate)
    else (s, .reused)
  | none =>
    if (s.findBySeq record.deviceId record.deviceSeq).isSome then (s, .seqConflict)
    else ({ s with events := s.events ++ [arrivalRow record refusal] }, .inserted)

def refusalOf (policy : Policy) (channel : String) : Option String :=
  if policy.isRecordableChannel channel then none
  else if policy.classOf channel = .unclassified then some (unknownChannel channel)
  else some (notRecordable channel)

/-- The clock correction of one event of the upload. -/
def skewOf (policy : Policy) (s : Store) (deviceId : Nat) (receipt : Receipt) (skewMs : Int)
    (onlineSkewMs : Option Int) (event : OfflineEvent) : SkewResult :=
  correctEventTime {
    occurredAt := event.occurredAt.ms
    uploadSkewMs := skewMs
    onlineSkewMs := onlineSkewMs
    receivedAt := receipt.receivedAt
    copyBuiltAt := receipt.copyBuiltAt event.copyId
    previousOccurredAt :=
      ((s.findBySeq deviceId (event.seq - 1)).bind fun id => s.events[id]?).map (·.occurredAt.ms)
    toleranceMs := policy.toleranceMs }

/-- The review item that goes with a stored event: its refusal, or the note of a corrected clock. -/
def arrivalItem (deviceId : Nat) (event : OfflineEvent) (refusal note : Option String) (id : RowId) :
    Option ReviewRow :=
  match refusal with
  | some error => some { eventRowId := some id, deviceId := deviceId, kind := .refused
                         details := { reason := some error, channel := some event.channel } }
  | none => note.map fun _ => { eventRowId := some id, deviceId := deviceId, kind := .clockCorrected }

/-- The state of the upload's loop. -/
structure Batch where
  store : Store
  acked : List EventId := []
  rejected : List Rejected := []
  stored : Nat := 0
  conflicted : Bool := false
  deriving DecidableEq, Repr

def uploadOne (policy : Policy) (deviceId : Nat) (receipt : Receipt) (skewMs : Int) (onlineSkewMs : Option Int)
    (batch : Batch) (event : OfflineEvent) : Batch :=
  if batch.conflicted then
    { batch with rejected := batch.rejected ++ [{
        eventId := event.eventId, code := .seqConflict
        error := "An earlier item of this upload conflicts with what the server already has — sending stopped." }] }
  else
    let skew := skewOf policy batch.store deviceId receipt skewMs onlineSkewMs event
    let correctedAt := if skew.correctedAt = event.occurredAt.ms then none else some skew.correctedAt
    let refusal := refusalOf policy event.channel
    match insertReceived batch.store (toRow policy deviceId event correctedAt) refusal with
    | (s, .inserted) =>
      let item := arrivalItem deviceId event refusal skew.note batch.store.events.length
      { batch with
        store := { s with items := s.items ++ item.toList }
        acked := batch.acked ++ [event.eventId]
        stored := batch.stored + 1 }
    | (s, .duplicate) => { batch with store := s, acked := batch.acked ++ [event.eventId] }
    | (s, .reused) =>
      { batch with store := s, rejected := batch.rejected ++ [{
          eventId := event.eventId, code := .eventIdReused
          error := "This event id was already received with different content." }] }
    | (s, .seqConflict) =>
      { batch with store := s, conflicted := true, rejected := batch.rejected ++ [{
          eventId := event.eventId, code := .seqConflict
          error := s!"Sequence {event.seq} of this PC was already received under another event id." }] }

/-- An open sequence conflict of the PC. It belongs to no event. -/
def openSeqConflict (deviceId : Nat) (row : ReviewRow) : Bool :=
  row.deviceId = deviceId && row.state = .opened && row.eventRowId = none && row.details.seqConflict

def pendingRenumber (deviceId : Nat) (row : ReviewRow) : Bool :=
  row.deviceId = deviceId && row.state = .applied && row.eventRowId = none && row.details.seqConflict &&
    row.details.renumberPending

def Store.findOpenSeqConflict (s : Store) (deviceId : Nat) : Option ItemId :=
  s.items.findIdx? (openSeqConflict deviceId)

def Store.findPendingRenumber (s : Store) (deviceId : Nat) : Option ItemId :=
  s.items.findIdx? (pendingRenumber deviceId)

def Store.updateDetails (s : Store) (item : ItemId) (change : Details → Details) : Store :=
  { s with items := s.items.modify item fun row => { row with details := change row.details } }

/-- One open conflict item per PC, or the end of a renumbering after a clean upload. -/
def afterUpload (deviceId : Nat) (body : UploadInput) (batch : Batch) : Store :=
  if batch.conflicted then
    if (Store.findOpenSeqConflict batch.store deviceId).isSome then batch.store
    else
      let first := (batch.rejected.find? fun r => r.code = .seqConflict).map (·.eventId)
      let seq := (body.events.find? fun e => some e.eventId = first).map (·.seq)
      batch.store.insertItem { eventRowId := none, deviceId := deviceId, kind := .refused
                               details := { seqConflict := true, seq := seq, eventId := first
                                            reason := some seqConflictReason } }
  else if 0 < batch.stored then
    match Store.findPendingRenumber batch.store deviceId with
    | some item => Store.updateDetails batch.store item fun details => { details with renumberPending := false }
    | none => batch.store
  else batch.store

def upload (policy : Policy) (s : Store) (deviceId : Nat) (body : UploadInput) (receipt : Receipt) :
    Store × UploadResult :=
  if !uploadEventsSchema policy body then (s, .validationError)
  else if policy.serverSchemaVersion < body.schemaVersion then (s, .versionAhead)
  else
    let skewMs := receipt.receivedAt - body.pcClock
    let onlineSkewMs := (s.devices[deviceId]?).bind (·.lastOnlineSkewMs)
    let batch := body.events.foldl (uploadOne policy deviceId receipt skewMs onlineSkewMs)
      { store := s.recordUploadSeen deviceId skewMs }
    (afterUpload deviceId body batch, .done batch.acked batch.rejected)

end Liratek.Offline.Upload
