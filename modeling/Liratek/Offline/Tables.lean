import Mathlib.Data.List.Basic

/-! The shop's tables for offline work: stored events, review items, the id map, paired PCs and the
replay rows of the audit log. Row ids are positions, so an id never names two rows and a row is never lost. -/

namespace Liratek.Offline.Tables

abbrev RowId := Nat
abbrev ItemId := Nat
/-- The uuid a PC gives an event. Only equality of uuids is ever used. -/
abbrev EventId := Nat
/-- Created row ids per table, in creation order. -/
abbrev CreatedRows := List (String × List Nat)

inductive EventStatus where
  | received | booked | skipped | held | refused | applied | dismissed
  deriving DecidableEq, Repr

/-- The binding's rows are in the shop's books. -/
def EventStatus.isBooked : EventStatus → Bool
  | .booked | .applied => true
  | _ => false

/-- An admin's decision is awaited. -/
def EventStatus.awaits : EventStatus → Bool
  | .held | .refused => true
  | _ => false

inductive ReviewKind where
  | possibleDuplicate | certainDuplicate | heldCheckpoint | waiting | refused | stockCountOff | ticksDropped
  | customerLinked | clockCorrected | closedDayChanged | cameOutDifferently | userSwitchedOff
  | pcDataMismatch | rateChanged
  deriving DecidableEq, Repr

/-- Kinds that hold an event (Apply / Dismiss). The rest are notes. -/
def ReviewKind.holding : ReviewKind → Bool
  | .possibleDuplicate | .heldCheckpoint | .waiting | .refused => true
  | _ => false

/-- The kinds `closeOpenItems` resolves: a decision about the event, not a note on its booking. -/
def ReviewKind.decisive (kind : ReviewKind) : Bool :=
  kind.holding || kind = .certainDuplicate

/-- The kinds an event's status depends on. A data mismatch is about a PC, never about an event. -/
def ReviewKind.watched (kind : ReviewKind) : Bool :=
  kind.decisive || kind = .pcDataMismatch

inductive ReviewState where
  | opened | applied | dismissed | reviewed
  deriving DecidableEq, Repr

inductive ChannelClass where
  | offline | checkpoint | onlineOnly | read | localOnly | unclassified
  deriving DecidableEq, Repr

/-- An ISO instant with the value `Date.parse` gives it. -/
structure Instant where
  text : String
  ms : Int
  deriving DecidableEq, Repr

/-- What is fixed once an upload stored the event. A corrected instant is kept as its value. -/
structure EventRecord where
  deviceId : Nat
  eventId : EventId
  deviceSeq : Nat
  channel : String
  payload : String
  payloadHash : String
  actorUserId : Nat
  occurredAt : Instant
  correctedAt : Option Int
  copyId : Nat
  schemaShape : String
  rates : String
  created : CreatedRows
  dependsOn : List EventId
  deriving DecidableEq, Repr

structure EventRow extends EventRecord where
  status : EventStatus := .received
  attempts : Nat := 0
  serverIds : Option CreatedRows := none
  error : Option String := none
  resolvedBy : Option Nat := none
  deriving DecidableEq, Repr

/-- The parts of `details_json` that some code reads back. -/
structure Details where
  reason : Option String := none
  channel : Option String := none
  noApply : Bool := false
  /-- The row a duplicate matched. -/
  matched : Option (String × Nat) := none
  /-- `code: SEQ_CONFLICT` -/
  seqConflict : Bool := false
  seq : Option Nat := none
  eventId : Option EventId := none
  renumberPending : Bool := false
  deriving DecidableEq, Repr

structure ReviewRow where
  eventRowId : Option RowId
  deviceId : Nat
  kind : ReviewKind
  state : ReviewState := .opened
  details : Details := {}
  resolvedBy : Option Nat := none
  deriving DecidableEq, Repr

inductive LinkKind where
  | created | linkedExisting
  deriving DecidableEq, Repr

structure IdMapRow where
  offlineId : Nat
  deviceId : Nat
  tableName : String
  serverId : Nat
  eventId : EventId
  linkKind : LinkKind
  deriving DecidableEq, Repr

structure DeviceRow where
  deviceNo : Nat
  nextExpectedSeq : Nat := 1
  lastSkewMs : Option Int := none
  lastOnlineSkewMs : Option Int := none
  deriving DecidableEq, Repr

structure Store where
  events : List EventRow := []
  items : List ReviewRow := []
  idMap : List IdMapRow := []
  devices : List DeviceRow := []
  /-- `entity_id` of every `offline_replay` audit row, written in the booking's own transaction. -/
  audit : List EventId := []
  deriving DecidableEq, Repr

/-! Events. -/

def hasEventId (eventId : EventId) (row : EventRow) : Bool :=
  row.eventId = eventId

def hasSeq (deviceId seq : Nat) (row : EventRow) : Bool :=
  row.deviceId = deviceId && row.deviceSeq = seq

def Store.findByEventId (s : Store) (eventId : EventId) : Option RowId :=
  s.events.findIdx? (hasEventId eventId)

def Store.findBySeq (s : Store) (deviceId seq : Nat) : Option RowId :=
  s.events.findIdx? (hasSeq deviceId seq)

def Store.updateEvent (s : Store) (id : RowId) (change : EventRow → EventRow) : Store :=
  { s with events := s.events.modify id change }

def Store.updateOutcome (s : Store) (id : RowId) (status : EventStatus) (serverIds : Option CreatedRows)
    (error : Option String) : Store :=
  s.updateEvent id fun row => { row with status := status, serverIds := serverIds, error := error }

def Store.incrementAttempts (s : Store) (id : RowId) (error : String) : Store :=
  s.updateEvent id fun row => { row with attempts := row.attempts + 1, error := some error }

def Store.setError (s : Store) (id : RowId) (error : String) : Store :=
  s.updateEvent id fun row => { row with error := some error }

def Store.setStatus (s : Store) (id : RowId) (status : EventStatus) (adminId : Nat) : Store :=
  s.updateEvent id fun row => { row with status := status, resolvedBy := some adminId }

def Store.markResolved (s : Store) (id : RowId) (adminId : Nat) : Store :=
  s.updateEvent id fun row => { row with resolvedBy := some adminId }

/-! Review items. -/

def Store.insertItem (s : Store) (row : ReviewRow) : Store :=
  { s with items := s.items ++ [row] }

def closedAs (state : ReviewState) (adminId : Nat) (row : ReviewRow) : ReviewRow :=
  if row.state = .opened then { row with state := state, resolvedBy := some adminId } else row

/-- open → state. An item that is not open stays as it is. -/
def Store.resolve (s : Store) (item : ItemId) (state : ReviewState) (adminId : Nat) : Store :=
  { s with items := s.items.modify item (closedAs state adminId) }

def isOpenOn (id : RowId) (row : ReviewRow) : Bool :=
  row.eventRowId = some id && row.state = .opened

def Store.openForEvent (s : Store) (id : RowId) : List ItemId :=
  (List.range s.items.length).filter fun item => (s.items[item]?).any (isOpenOn id)

/-- The open items of one event whose kind satisfies `kinds`. -/
def Store.openOfKind (s : Store) (id : RowId) (kinds : ReviewKind → Bool) : List ItemId :=
  (s.openForEvent id).filter fun item => (s.items[item]?).any fun row => kinds row.kind

def Store.resolveAll (s : Store) (items : List ItemId) (state : ReviewState) (adminId : Nat) : Store :=
  items.foldl (fun acc item => acc.resolve item state adminId) s

/-! The id map, with its unique offline id. -/

def Store.lookup (s : Store) (offlineId : Nat) : Option Nat :=
  (s.idMap.find? fun row => row.offlineId = offlineId).map (·.serverId)

/-- The insert fails on the unique index when the offline id is mapped already. -/
def Store.insertMap (s : Store) (row : IdMapRow) : Option Store :=
  if (s.lookup row.offlineId).isSome then none else some { s with idMap := s.idMap ++ [row] }

def Store.listForEvent (s : Store) (eventId : EventId) : List IdMapRow :=
  s.idMap.filter fun row => row.eventId = eventId

/-! Paired PCs. -/

def Store.setNextExpectedSeq (s : Store) (deviceId seq : Nat) : Store :=
  { s with devices := s.devices.modify deviceId fun row => { row with nextExpectedSeq := seq } }

def Store.recordUploadSeen (s : Store) (deviceId : Nat) (skewMs : Int) : Store :=
  { s with devices := s.devices.modify deviceId fun row => { row with lastSkewMs := some skewMs } }

/-! What each table operation leaves of the others. -/

section
variable (s : Store) (id j : RowId) (item : ItemId)

theorem events_updateEvent (change : EventRow → EventRow) :
    (s.updateEvent id change).events[j]? = if j = id then (s.events[j]?).map change else s.events[j]? := by
  simp only [Store.updateEvent, List.getElem?_modify]
  by_cases same : j = id
  · simp [same]
  · simp [same, Ne.symm same]

@[simp] theorem items_updateEvent (change : EventRow → EventRow) : (s.updateEvent id change).items = s.items := rfl
@[simp] theorem idMap_updateEvent (change : EventRow → EventRow) : (s.updateEvent id change).idMap = s.idMap := rfl
@[simp] theorem audit_updateEvent (change : EventRow → EventRow) : (s.updateEvent id change).audit = s.audit := rfl
@[simp] theorem devices_updateEvent (change : EventRow → EventRow) :
    (s.updateEvent id change).devices = s.devices := rfl
@[simp] theorem events_length_updateEvent (change : EventRow → EventRow) :
    (s.updateEvent id change).events.length = s.events.length := by
  simp [Store.updateEvent]

@[simp] theorem events_insertItem (row : ReviewRow) : (s.insertItem row).events = s.events := rfl
@[simp] theorem idMap_insertItem (row : ReviewRow) : (s.insertItem row).idMap = s.idMap := rfl
@[simp] theorem audit_insertItem (row : ReviewRow) : (s.insertItem row).audit = s.audit := rfl
@[simp] theorem devices_insertItem (row : ReviewRow) : (s.insertItem row).devices = s.devices := rfl

@[simp] theorem events_resolve (state : ReviewState) (adminId : Nat) :
    (s.resolve item state adminId).events = s.events := rfl
@[simp] theorem idMap_resolve (state : ReviewState) (adminId : Nat) :
    (s.resolve item state adminId).idMap = s.idMap := rfl
@[simp] theorem audit_resolve (state : ReviewState) (adminId : Nat) :
    (s.resolve item state adminId).audit = s.audit := rfl
@[simp] theorem devices_resolve (state : ReviewState) (adminId : Nat) :
    (s.resolve item state adminId).devices = s.devices := rfl
@[simp] theorem items_length_resolve (state : ReviewState) (adminId : Nat) :
    (s.resolve item state adminId).items.length = s.items.length := by
  simp [Store.resolve]

/-- Closing items touches the item table only. -/
theorem resolveAll_frame (items : List ItemId) (state : ReviewState) (adminId : Nat) :
    (s.resolveAll items state adminId).events = s.events ∧ (s.resolveAll items state adminId).idMap = s.idMap ∧
      (s.resolveAll items state adminId).audit = s.audit ∧
      (s.resolveAll items state adminId).devices = s.devices ∧
      (s.resolveAll items state adminId).items.length = s.items.length := by
  induction items generalizing s with
  | nil => exact ⟨rfl, rfl, rfl, rfl, rfl⟩
  | cons item rest ih =>
    have step := ih (s.resolve item state adminId)
    simp only [events_resolve, idMap_resolve, audit_resolve, devices_resolve, items_length_resolve] at step
    exact step

@[simp] theorem events_resolveAll (items : List ItemId) (state : ReviewState) (adminId : Nat) :
    (s.resolveAll items state adminId).events = s.events := (resolveAll_frame s items state adminId).1
@[simp] theorem idMap_resolveAll (items : List ItemId) (state : ReviewState) (adminId : Nat) :
    (s.resolveAll items state adminId).idMap = s.idMap := (resolveAll_frame s items state adminId).2.1
@[simp] theorem audit_resolveAll (items : List ItemId) (state : ReviewState) (adminId : Nat) :
    (s.resolveAll items state adminId).audit = s.audit := (resolveAll_frame s items state adminId).2.2.1
@[simp] theorem devices_resolveAll (items : List ItemId) (state : ReviewState) (adminId : Nat) :
    (s.resolveAll items state adminId).devices = s.devices := (resolveAll_frame s items state adminId).2.2.2.1

end

/-! The kinds. -/

theorem ReviewKind.decisive_of_holding {kind : ReviewKind} (holding : kind.holding = true) : kind.decisive = true := by
  simp [ReviewKind.decisive, holding]

theorem ReviewKind.watched_of_decisive {kind : ReviewKind} (decisive : kind.decisive = true) :
    kind.watched = true := by
  simp [ReviewKind.watched, decisive]

/-! Open items. -/

/-- Item `item` is open on the event row `id` and has the kind `kind`. -/
def OpenItem (s : Store) (item : ItemId) (id : RowId) (kind : ReviewKind) : Prop :=
  ∃ row, s.items[item]? = some row ∧ row.eventRowId = some id ∧ row.state = .opened ∧ row.kind = kind

section
variable {s : Store} {item other : ItemId} {id : RowId} {kind : ReviewKind}

theorem OpenItem.lt_length (found : OpenItem s item id kind) : item < s.items.length := by
  obtain ⟨row, found, -⟩ := found
  exact (List.getElem?_eq_some_iff.mp found).1

theorem OpenItem.owner_unique {id' : RowId} {kind' : ReviewKind} (one : OpenItem s item id kind)
    (two : OpenItem s item id' kind') : id = id' := by
  obtain ⟨row, found, owner, -, -⟩ := one
  obtain ⟨row', found', owner', -, -⟩ := two
  rw [found] at found'
  rw [Option.some.inj found', owner'] at owner
  exact (Option.some.inj owner).symm

/-- Only the item table decides what is open. -/
theorem openItem_congr {s' : Store} (same : s'.items = s.items) :
    OpenItem s' item id kind ↔ OpenItem s item id kind := by
  unfold OpenItem
  rw [same]

@[simp] theorem openItem_updateEvent (target : RowId) (change : EventRow → EventRow) :
    OpenItem (s.updateEvent target change) item id kind ↔ OpenItem s item id kind :=
  Iff.rfl

theorem openItem_insertItem (row : ReviewRow) (opened : row.state = .opened) :
    OpenItem (s.insertItem row) item id kind ↔
      OpenItem s item id kind ∨ (item = s.items.length ∧ row.eventRowId = some id ∧ row.kind = kind) := by
  unfold OpenItem Store.insertItem
  rcases Nat.lt_trichotomy item s.items.length with before | here | beyond
  · simp only [List.getElem?_append_left before, Nat.ne_of_lt before, false_and, or_false]
  · subst here
    simp [opened]
  · have outside : (s.items ++ [row])[item]? = none := by simp; omega
    have outside' : s.items[item]? = none := by simp; omega
    simp [outside, outside', Nat.ne_of_gt beyond]

theorem openItem_resolve {state : ReviewState} (closing : state ≠ .opened) (adminId : Nat) :
    OpenItem (s.resolve other state adminId) item id kind ↔ OpenItem s item id kind ∧ item ≠ other := by
  unfold OpenItem Store.resolve
  simp only [List.getElem?_modify]
  by_cases same : other = item
  · subst same
    simp only [ne_eq, not_true_eq_false, and_false, iff_false]
    rintro ⟨row, found, -, opened, -⟩
    obtain ⟨old, -, rfl⟩ := Option.map_eq_some_iff.mp found
    simp only [closedAs, if_true] at opened
    split_ifs at opened with was
    · exact closing opened
    · exact was opened
  · simp [same, Ne.symm same]

theorem openItem_resolveAll {state : ReviewState} (closing : state ≠ .opened) (items : List ItemId) (adminId : Nat) :
    OpenItem (s.resolveAll items state adminId) item id kind ↔ OpenItem s item id kind ∧ item ∉ items := by
  induction items generalizing s with
  | nil => simp [Store.resolveAll]
  | cons first rest ih =>
    have step := ih (s := s.resolve first state adminId)
    rw [openItem_resolve closing] at step
    simp only [Store.resolveAll, List.foldl_cons] at step ⊢
    rw [step, List.mem_cons, not_or, and_assoc]

theorem mem_openForEvent : item ∈ s.openForEvent id ↔ ∃ kind, OpenItem s item id kind := by
  simp only [Store.openForEvent, List.mem_filter, List.mem_range, isOpenOn, Option.any_eq_true,
    Bool.and_eq_true, decide_eq_true_eq, OpenItem]
  constructor
  · rintro ⟨-, row, found, owner, opened⟩
    exact ⟨row.kind, row, found, owner, opened, rfl⟩
  · rintro ⟨kind, row, found, owner, opened, -⟩
    exact ⟨(List.getElem?_eq_some_iff.mp found).1, row, found, owner, opened⟩

theorem mem_openOfKind {kinds : ReviewKind → Bool} :
    item ∈ s.openOfKind id kinds ↔ ∃ kind, OpenItem s item id kind ∧ kinds kind = true := by
  simp only [Store.openOfKind, List.mem_filter, mem_openForEvent, Option.any_eq_true]
  constructor
  · rintro ⟨⟨kind, row, found, owner, opened, rfl⟩, row', found', counted⟩
    rw [found] at found'
    obtain rfl := Option.some.inj found'
    exact ⟨row.kind, ⟨row, found, owner, opened, rfl⟩, counted⟩
  · rintro ⟨kind, ⟨row, found, owner, opened, rfl⟩, counted⟩
    exact ⟨⟨row.kind, row, found, owner, opened, rfl⟩, row, found, counted⟩

theorem openOfKind_nodup (kinds : ReviewKind → Bool) : (s.openOfKind id kinds).Nodup :=
  (List.nodup_range.filter _).filter _

theorem openOfKind_eq_nil {kinds : ReviewKind → Bool} :
    s.openOfKind id kinds = [] ↔ ∀ item kind, OpenItem s item id kind → kinds kind = false := by
  rw [List.eq_nil_iff_forall_not_mem]
  simp only [mem_openOfKind, not_exists, not_and, Bool.not_eq_true]

/-- Exactly one open item of a kind, from one that is there and is the only one. -/
theorem openOfKind_length_one {kinds : ReviewKind → Bool} (found : OpenItem s item id kind)
    (counted : kinds kind = true)
    (only : ∀ other kind', OpenItem s other id kind' → kinds kind' = true → other = item) :
    (s.openOfKind id kinds).length = 1 := by
  have all : ∀ other ∈ s.openOfKind id kinds, other = item := by
    intro other member
    obtain ⟨kind', there, counts⟩ := mem_openOfKind.mp member
    exact only other kind' there counts
  have member : item ∈ s.openOfKind id kinds := mem_openOfKind.mpr ⟨kind, found, counted⟩
  have replicated := List.eq_replicate_of_mem all
  have short : (s.openOfKind id kinds).length ≤ 1 := by
    have distinct : (s.openOfKind id kinds).Nodup := openOfKind_nodup kinds
    rw [replicated] at distinct
    exact List.nodup_replicate.mp distinct
  exact Nat.le_antisymm short (List.length_pos_of_mem member)

end

end Liratek.Offline.Tables
