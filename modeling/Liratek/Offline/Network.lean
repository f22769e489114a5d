import Liratek.Offline.Outbox
import Liratek.Offline.Shop

/-! One PC and the shop's server over a network that loses and repeats messages. Every message ever sent stays
on the network: a step that never delivers it loses it, and one that delivers it again repeats it. -/

namespace Liratek.Offline.Network
open Tables Channels Upload Outbox

/-! The server's answers. -/

inductive PcState where
  | standby | blocked | offline | finishing
  deriving DecidableEq, Repr

structure CheckinInput where
  state : PcState
  pcClock : Int

/-- `COALESCE(MAX(device_seq), 0)` of one PC's stored events. -/
def Store.maxSeq (s : Store) (deviceId : Nat) : Nat :=
  ((s.events.filter (·.deviceId = deviceId)).map (·.deviceSeq)).foldr max 0

def recordCheckin (input : CheckinInput) (now : Int) (row : DeviceRow) : DeviceRow :=
  { row with lastSkewMs := some (now - input.pcClock)
             lastOnlineSkewMs := if input.state = .standby then some (now - input.pcClock) else row.lastOnlineSkewMs }

def checkin (s : Store) (deviceId : Nat) (input : CheckinInput) (now : Int) : Store × CheckinData :=
  ({ s with devices := s.devices.modify deviceId (recordCheckin input now) },
    { maxSeq := Store.maxSeq s deviceId, renumberUnsent := (Store.findPendingRenumber s deviceId).isSome })

def outcomeView (row : EventRow) : EventOutcomeView where
  eventId := row.eventId
  seq := row.deviceSeq
  status := row.status
  error := row.error
  serverIds := row.serverIds

/-- `listForDevice`, `ORDER BY device_seq LIMIT 500`. -/
def listForDevice (s : Store) (deviceId fromSeq : Nat) : List EventRow :=
  ((s.events.filter fun row => row.deviceId = deviceId && fromSeq ≤ row.deviceSeq).insertionSort
    fun a b => a.deviceSeq ≤ b.deviceSeq).take 500

def statusSince (s : Store) (deviceId fromSeq : Nat) : List EventOutcomeView :=
  (listForDevice s deviceId fromSeq).map outcomeView

/-- The admin's "renumber unsent work": the PC's next check-ins carry the request. -/
def requestRenumber (s : Store) (deviceId adminId : Nat) : Store :=
  match Store.findOpenSeqConflict s deviceId with
  | none => s
  | some item =>
    (Store.updateDetails s item fun details => { details with renumberPending := true }).resolve item .applied adminId

/-! The system. -/

structure Link where
  pc : Pc := {}
  server : Store
  /-- every event id the PC ever recorded -/
  recorded : List EventId := []
  requests : List UploadInput := []
  responses : List UploadResult := []
  polls : List Nat := []
  outcomes : List (List EventOutcomeView) := []
  checkins : List CheckinData := []

inductive Step where
  | record (draft : OfflineEvent)
  /-- an upload pass sends its batch -/
  | send (schemaVersion : Nat) (pcClock : Int)
  | deliver (request : Nat) (receipt : Receipt)
  | receive (response : Nat)
  | poll
  | answer (request : Nat)
  | receiveStatus (response : Nat)
  | checkin (input : CheckinInput) (now : Int)
  | receiveCheckin (response : Nat)
  | requestRenumber (adminId : Nat)
  /-- merge rounds, admin actions and uploads of the other PCs -/
  | shop (step : Shop.Step)

/-- Not an upload under this PC's key. -/
def foreign (deviceId : Nat) : Shop.Step → Bool
  | .upload sender _ _ => sender ≠ deviceId
  | _ => true

/-- The event with this id got its row in the outbox. -/
def noteRecorded (before after : Pc) (eventId : EventId) (recorded : List EventId) : List EventId :=
  if before.outbox.length < after.outbox.length then recorded ++ [eventId] else recorded

def exec (policy : Policy) (deviceId : Nat) (l : Link) : Step → Link
  | .record draft =>
    let pc := record policy l.pc draft
    { l with pc := pc, recorded := noteRecorded l.pc pc draft.eventId l.recorded }
  | .send schemaVersion pcClock =>
    let batch := listWaiting l.pc.outbox uploadBatch
    if batch.isEmpty then l
    else
      let body : UploadInput :=
        { schemaVersion := schemaVersion, pcClock := pcClock, events := batch.map (·.toOfflineEvent) }
      { l with requests := l.requests ++ [body] }
  | .deliver request receipt =>
    match l.requests[request]? with
    | none => l
    | some body =>
      let done := upload policy l.server deviceId body receipt
      { l with server := done.1, responses := l.responses ++ [done.2] }
  | .receive response =>
    match l.responses[response]? with
    | none => l
    | some result => { l with pc := receiveUpload l.pc result }
  | .poll =>
    match oldestOpenSeq l.pc.outbox with
    | none => l
    | some fromSeq => { l with polls := l.polls ++ [fromSeq] }
  | .answer request =>
    match l.polls[request]? with
    | none => l
    | some fromSeq => { l with outcomes := l.outcomes ++ [statusSince l.server deviceId fromSeq] }
  | .receiveStatus response =>
    match l.outcomes[response]? with
    | none => l
    | some outcomes => { l with pc := receiveStatus l.pc outcomes }
  | .checkin input now =>
    let done := checkin l.server deviceId input now
    { l with server := done.1, checkins := l.checkins ++ [done.2] }
  | .receiveCheckin response =>
    match l.checkins[response]? with
    | none => l
    | some data => { l with pc := receiveCheckin l.pc data }
  | .requestRenumber adminId => { l with server := requestRenumber l.server deviceId adminId }
  | .shop step => if foreign deviceId step then { l with server := Shop.exec policy l.server step } else l

/-- A freshly paired PC at a shop that has nothing of it yet. -/
def start (devices : List DeviceRow) : Link where
  server := Shop.newShop devices

end Liratek.Offline.Network
