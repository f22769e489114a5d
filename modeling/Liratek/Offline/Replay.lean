import Liratek.Offline.Channels

/-! The replay engine. One call books one stored event, holds it, refuses it or leaves it for a retry.
What the shop's services and the duplicate detector answer during the call is an input of the call. -/

namespace Liratek.Offline.Replay
open Tables Channels

inductive Mode where
  | auto | apply
  deriving DecidableEq, Repr

structure ReplayOptions where
  mode : Mode
  bypassCheckpoint : Bool := false
  bypassDuplicate : Bool := false
  /-- auto only: a held dependant whose parent was just resolved -/
  release : Bool := false
  /-- runs inside the booking transaction, just before the commit -/
  onBooked : Store → Store := id

structure ReplayOutcome where
  status : EventStatus
  error : Option String := none
  serverIds : Option CreatedRows := none
  technical : Bool := false
  refusedOnApply : Bool := false
  deriving DecidableEq, Repr

structure Note where
  kind : ReviewKind
  details : Details := {}
  deriving DecidableEq, Repr

inductive ActorCheck where
  | refused (error : Option String)
  /-- with the note of a user switched off since -/
  | ok (note : Option Details)
  deriving DecidableEq, Repr

/-- The duplicate hook's verdict on the rows the booking made. -/
inductive DuplicateAnswer where
  | none
  | skipped (details : Details)
  | held (details : Details)
  deriving DecidableEq, Repr

/-- The notes a replay-only rule of a binding leaves. -/
inductive BindingNote where
  | customerLinked | ticksDropped
  deriving DecidableEq, Repr

def BindingNote.kind : BindingNote → ReviewKind
  | .customerLinked => .customerLinked
  | .ticksDropped => .ticksDropped

/-- A successful run of the binding, still inside its transaction. -/
structure BindingResult where
  created : CreatedRows := []
  linkExisting : Option (String × Nat) := none
  mainRowOnly : Bool := false
  mainRow : Option (String × Nat) := none
  duplicate : DuplicateAnswer := .none
  stockNote : Option Details := none
  closedDayNote : Option Details := none
  notes : List (BindingNote × Details) := []
  /-- the booking yielded to the event loop, or a later step of the transaction failed -/
  lateFault : Option String := none
  deriving DecidableEq, Repr

inductive BindingAnswer where
  /-- a transient database error, or the booking yielded -/
  | technical (error : String)
  /-- thrown, or an envelope without success -/
  | refused (error : Option String)
  | success (result : BindingResult)
  deriving DecidableEq, Repr

/-- Everything one call learns from outside the offline tables. -/
structure Answers where
  /-- an unexpected error before anything is written -/
  fault : Option String := none
  actor : ActorCheck := .ok none
  rateNote : Option Details := none
  binding : BindingAnswer := .success {}
  deriving DecidableEq, Repr

def unlinkedPart : String := "This item was booked, but this part could not be linked"

def versionRefusal : String :=
  "Recorded by a different app version — it cannot be booked automatically. Re-enter it from the details shown."

/-! Dependencies. -/

/-- Booked, or resolved by linking its main row to an existing one. -/
def settledRow (s : Store) (row : EventRow) : Bool :=
  row.status.isBooked ||
    ((row.status = .skipped || row.status = .dismissed) && !(s.listForEvent row.eventId).isEmpty)

def settled (s : Store) (eventId : EventId) : Bool :=
  s.events.any fun row => hasEventId eventId row && settledRow s row

structure DependencyState where
  blocking : List EventId
  /-- the PC ids the settled dependencies created -/
  settledCreated : List Nat
  deriving DecidableEq, Repr

def dependencyState (s : Store) (event : EventRow) : DependencyState where
  blocking := event.dependsOn.filter fun dependency => !settled s dependency
  settledCreated := (s.events.filter fun row => event.dependsOn.contains row.eventId && settledRow s row).flatMap
    fun row => row.created.flatMap Prod.snd

/-! Refusals and holds. -/

/-- Apply mode: a refusal or a hold changes nothing but the event's error. -/
def failedOnApply (s : Store) (id : RowId) (event : EventRow) (error : String) : Store × ReplayOutcome :=
  (s.setError id error, { status := event.status, error := some error, refusedOnApply := true })

/-- The outcome of the event and the item an admin decides, in one transaction. Details that carry a
reason of their own keep it. -/
def haltEvent (s : Store) (id : RowId) (event : EventRow) (mode : Mode) (status : EventStatus)
    (kind : ReviewKind) (error : String) (details : Details) : Store × ReplayOutcome :=
  if mode = .apply then failedOnApply s id event error
  else
    ((s.updateOutcome id status none (some error)).insertItem
      { eventRowId := some id, deviceId := event.deviceId, kind := kind
        details := { details with
          reason := details.reason.or (some error), channel := some event.channel } },
      { status := status, error := some error })

def refuse (s : Store) (id : RowId) (event : EventRow) (mode : Mode) (error : String) (details : Details) :
    Store × ReplayOutcome :=
  haltEvent s id event mode .refused .refused error details

/-- What `processOnce` holds an event for by itself. -/
inductive HoldKind where
  | heldCheckpoint | waiting
  deriving DecidableEq, Repr

def HoldKind.kind : HoldKind → ReviewKind
  | .heldCheckpoint => .heldCheckpoint
  | .waiting => .waiting

def hold (s : Store) (id : RowId) (event : EventRow) (mode : Mode) (kind : HoldKind) (error : String)
    (details : Details) : Store × ReplayOutcome :=
  haltEvent s id event mode .held kind.kind error details

/-- An admin's click never burns an attempt. At the limit the event is refused to the review list. -/
def technicalFailure (policy : Policy) (s : Store) (id : RowId) (event : EventRow) (error : String)
    (mode : Mode) : Store × ReplayOutcome :=
  if mode = .apply then (s, { status := event.status, error := some error, technical := true })
  else
    let counted := s.incrementAttempts id error
    let attempts := (counted.events[id]?).elim 0 (·.attempts)
    if policy.maxAttempts ≤ attempts then
      refuse counted id event .auto s!"Could not be booked after {attempts} attempts: {error}" {}
    else (counted, { status := .received, error := some error, technical := true })

/-! The checks before the booking window. -/

inductive Halt where
  | refuse (error : String) (details : Details)
  | hold (kind : HoldKind) (error : String)
  deriving DecidableEq, Repr

def schemaDiffers (policy : Policy) (event : EventRow) : Bool :=
  (policy.recordedSchema event.channel).any fun schema => !schema.isCompatible event.schemaShape

/-- Dependencies, id rewriting, actor and rates, once the payload parsed to `ids`. -/
def checkReferences (policy : Policy) (s : Store) (event : EventRow) (answers : Answers) (ids : List Nat) :
    Option Halt :=
  let deps := dependencyState s event
  let unmapped := ids.filter fun offlineId => (s.lookup offlineId).isNone
  if !deps.blocking.isEmpty then
    some (.hold .waiting ("Waits on item " ++ ", ".intercalate (deps.blocking.map toString)))
  else if !unmapped.isEmpty then
    some (.hold .waiting
      (if unmapped.any deps.settledCreated.contains then unlinkedPart
        else "Refers to an offline item that was not booked"))
  else match answers.actor with
    | .refused error => some (.refuse (error.getD "Unknown user") {})
    | .ok _ =>
      if policy.ratesParse event.rates then none
      else some (.refuse "The exchange rates recorded with this item are incomplete" {})

/-- Steps 1 to 4. `none` means that the booking window opens. -/
def checkEvent (policy : Policy) (s : Store) (event : EventRow) (opts : ReplayOptions) (answers : Answers) :
    Option Halt :=
  if !policy.isRecordableChannel event.channel then some (.refuse (notRecordable event.channel) {})
  else if schemaDiffers policy event then
    some (.refuse versionRefusal { noApply := true, reason := some "schema_shape" })
  else if policy.isCheckpoint event.channel && !opts.bypassCheckpoint then
    some (.hold .heldCheckpoint "Drawer count / checkpoint taken offline — waits for an admin")
  else match policy.recordedSchema event.channel, policy.hasBinding event.channel with
    | some schema, true =>
      match schema.parse event.payload with
      | none => some (.refuse versionRefusal { noApply := true, reason := some "parse" })
      | some ids => checkReferences policy s event answers ids
    | _, _ =>
      some (.refuse ("This kind of offline work cannot be booked yet (" ++
        (policy.label event.channel).getD event.channel ++ ")") {})

/-! The id map of a booking. -/

/-- Map the PC's main row of `table` (its first created id) to `serverId`. -/
def mapMainRow (s : Store) (event : EventRow) (table : String) (serverId : Nat) (linkKind : LinkKind) :
    Store × Bool :=
  match (rowsOf event.created table).find? isOfflineId with
  | none => (s, false)
  | some offlineId =>
    if (s.lookup offlineId).isSome then (s, false)
    else ({ s with idMap := s.idMap ++ [{
      offlineId := offlineId, deviceId := event.deviceId, tableName := table, serverId := serverId
      eventId := event.eventId, linkKind := linkKind }] }, true)

/-- One table of `mapCreated`: equal row counts are mapped in creation order, else the table is listed. -/
def mapTable (event : EventRow) (server : CreatedRows) (acc : Store × List String) (table : String) :
    Option (Store × List String) :=
  let pcIds := (rowsOf event.created table).filter isOfflineId
  let serverIds := rowsOf server table
  if pcIds.length ≠ serverIds.length then some (acc.1, acc.2 ++ [table])
  else
    ((pcIds.zip serverIds).foldlM (fun (store : Store) pair => store.insertMap {
      offlineId := pair.1, deviceId := event.deviceId, tableName := table, serverId := pair.2
      eventId := event.eventId, linkKind := .created }) acc.1).map fun store => (store, acc.2)

/-- `none` when an insert breaks the unique offline id, which rolls the transaction back. -/
def mapCreated (s : Store) (event : EventRow) (server : CreatedRows) : Option (Store × List Note) :=
  let tables := (event.created.map Prod.fst ++ server.map Prod.fst).eraseDups
  (tables.foldlM (mapTable event server) (s, [])).map fun mapped =>
    (mapped.1, if mapped.2.isEmpty then [] else [{ kind := .cameOutDifferently }])

/-- A replay-only link or a main-row-only rule maps one row. Otherwise every row of the PC is mapped. -/
def mapBooking (s : Store) (event : EventRow) (result : BindingResult) : Option (Store × List Note) :=
  match result.linkExisting with
  | some link => some ((mapMainRow s event link.1 link.2 .linkedExisting).1, [])
  | none =>
    if result.mainRowOnly then
      match result.mainRow with
      | some main => some ((mapMainRow s event main.1 main.2 .created).1, [])
      | none => some (s, [])
    else mapCreated s event result.created

/-! The booking window. -/

def actorNote : ActorCheck → List Note
  | .ok (some details) => [{ kind := .userSwitchedOff, details := details }]
  | _ => []

/-- The notes of a booking, in the order they are inserted. `mapping` are those of `mapBooking`. -/
def bookingNotes (answers : Answers) (result : BindingResult) (mapping : List Note) : List Note :=
  actorNote answers.actor ++
    (answers.rateNote.map fun details => { kind := .rateChanged, details := details }).toList ++
    (result.stockNote.map fun details => { kind := .stockCountOff, details := details }).toList ++
    (result.closedDayNote.map fun details => { kind := .closedDayChanged, details := details }).toList ++
    result.notes.map (fun note => { kind := note.1.kind, details := note.2 }) ++ mapping

def insertNotes (s : Store) (id : RowId) (event : EventRow) (notes : List Note) : Store :=
  notes.foldl (fun acc note => acc.insertItem
    { eventRowId := some id, deviceId := event.deviceId, kind := note.kind, details := note.details }) s

def bookedStatus : Mode → EventStatus
  | .apply => .applied
  | .auto => .booked

/-- The writes of a booking after its id-map rows: audit row, outcome, notes, `onBooked`. -/
def commitBooking (s : Store) (id : RowId) (event : EventRow) (opts : ReplayOptions) (created : CreatedRows)
    (notes : List Note) : Store × ReplayOutcome :=
  let audited := { s with audit := s.audit ++ [event.eventId] }
  let stored := audited.updateOutcome id (bookedStatus opts.mode) (some created) none
  (opts.onBooked (insertNotes stored id event notes),
    { status := bookedStatus opts.mode, serverIds := some created })

/-- The booking is rolled back to the savepoint. The verdict and its item are kept. -/
def storeDuplicate (s : Store) (id : RowId) (event : EventRow) (status : EventStatus) (kind : ReviewKind)
    (details : Details) : Store × ReplayOutcome :=
  let error := details.reason.getD
    (if kind = .certainDuplicate then "certain_duplicate" else "possible_duplicate")
  ((s.updateOutcome id status none (some error)).insertItem
    { eventRowId := some id, deviceId := event.deviceId, kind := kind
      details := { details with channel := some event.channel } },
    { status := status, error := some error })

inductive WindowResult where
  | booked (written : Store × ReplayOutcome)
  | refused (error : String)
  | technical (error : String)

def bookingWindow (s : Store) (id : RowId) (event : EventRow) (opts : ReplayOptions) (answers : Answers) :
    WindowResult :=
  match answers.binding with
  | .technical error => .technical error
  | .refused error => .refused (error.getD "Refused by the service")
  | .success result =>
    match result.lateFault with
    | some error => .technical error
    | none =>
      match if opts.bypassDuplicate then DuplicateAnswer.none else result.duplicate with
      | .skipped details => .booked (storeDuplicate s id event .skipped .certainDuplicate details)
      | .held details => .booked (storeDuplicate s id event .held .possibleDuplicate details)
      | .none =>
        match mapBooking s event result with
        | none => .technical "UNIQUE constraint failed: offline_id_map.offline_id"
        | some (mapped, notes) =>
          .booked (commitBooking mapped id event opts result.created (bookingNotes answers result notes))

/-- An event that is not due returns what is stored. -/
def due (event : EventRow) (opts : ReplayOptions) : Bool :=
  opts.mode = .apply || event.status = .received || (opts.release && event.status = .held)

def stored (event : EventRow) : ReplayOutcome where
  status := event.status
  error := event.error
  serverIds := event.serverIds

def processOnce (policy : Policy) (s : Store) (id : RowId) (event : EventRow) (opts : ReplayOptions)
    (answers : Answers) : Store × ReplayOutcome :=
  match checkEvent policy s event opts answers with
  | some (.refuse error details) => refuse s id event opts.mode error details
  | some (.hold kind error) => hold s id event opts.mode kind error {}
  | none =>
    match bookingWindow s id event opts answers with
    | .booked written => written
    | .refused error => refuse s id event opts.mode error {}
    | .technical error => technicalFailure policy s id event error opts.mode

/-- `event` is the row `id` as the caller read it. -/
def process (policy : Policy) (s : Store) (id : RowId) (event : EventRow) (opts : ReplayOptions)
    (answers : Answers) : Store × ReplayOutcome :=
  if !due event opts then (s, stored event)
  else match answers.fault with
    | some error => technicalFailure policy s id event error opts.mode
    | none => processOnce policy s id event opts answers

/-- The duplicate hook recognised the booking as already there, and the transaction went through. -/
def Answers.certain (answers : Answers) : Bool :=
  match answers.binding with
  | .success result => result.lateFault.isNone && match result.duplicate with
    | .skipped _ => true
    | _ => false
  | _ => false

/-- The call reaches the duplicate hook, and the hook answers with a certain duplicate. -/
structure HookCertain (policy : Policy) (s : Store) (event : EventRow) (opts : ReplayOptions) (answers : Answers) :
    Prop where
  asked : opts.bypassDuplicate = false
  faultless : answers.fault = none
  pass : checkEvent policy s event opts answers = none
  certain : Answers.certain answers = true

end Liratek.Offline.Replay
