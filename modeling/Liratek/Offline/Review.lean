import Liratek.Offline.Replay
import Mathlib.Data.List.Sort

/-! The review list: what an admin's Apply, Book anyway, Dismiss and Mark reviewed do. An action runs to
its end before another step of the shop starts. -/

namespace Liratek.Offline.Review
open Tables Channels Replay

inductive ResultCode where
  | notFound | notApplicable | parentOpen | busy | held | refused | alreadyResolved
  deriving DecidableEq, Repr

structure ReviewActionResult where
  success : Bool
  code : Option ResultCode := none
  error : Option String := none
  state : Option ReviewState := none
  status : Option EventStatus := none
  serverIds : Option CreatedRows := none
  deriving DecidableEq, Repr

def failed (code : ResultCode) (error : String) : ReviewActionResult :=
  { success := false, code := some code, error := some error }

def ReviewState.word : ReviewState → String
  | .opened => "open"
  | .applied => "applied"
  | .dismissed => "dismissed"
  | .reviewed => "reviewed"

def dismissedParent : String := "Depends on a dismissed item"
def parentOpen : String := "This item waits on an item that is still open — resolve that one first"

/-- The item with the row it is about, if it is about an event. -/
def load (s : Store) (item : ItemId) : Option (ReviewRow × Option (RowId × EventRow)) :=
  (s.items[item]?).map fun row =>
    (row, row.eventRowId.bind fun id => (s.events[id]?).map fun event => (id, event))

/-- A repeat of an action on a resolved item returns the current state. -/
def repeatOf (row : ReviewRow) (event : Option (RowId × EventRow)) (expected : ReviewState) : ReviewActionResult :=
  if row.state ≠ expected then failed .alreadyResolved ("This item was already " ++ ReviewState.word row.state)
  else { success := true, state := some row.state, status := event.map (·.2.status)
         serverIds := event.bind (·.2.serverIds) }

/-- Close every open item of the event. Notes on a booked event stay for Mark reviewed. -/
def closeOpenItems (s : Store) (id : RowId) (state : ReviewState) (adminId : Nat) : Store :=
  s.resolveAll (s.openOfKind id ReviewKind.decisive) state adminId

/-- Link a duplicate's main row to the row it matched, never its children. -/
def linkToMatch (s : Store) (row : ReviewRow) (event : EventRow) : Store × Bool :=
  match row.details.matched with
  | none => (s, false)
  | some (table, serverId) =>
    if table.isEmpty then (s, false) else mapMainRow s event table serverId .linkedExisting

/-! Dependants. -/

def heldDependingOn (eventIds : List EventId) (row : EventRow) : Bool :=
  row.status = .held && row.dependsOn.any eventIds.contains

/-- `ORDER BY device_id, device_seq` -/
def queuedBefore (s : Store) (a b : RowId) : Bool :=
  match s.events[a]?, s.events[b]? with
  | some one, some two =>
    one.deviceId < two.deviceId || (one.deviceId = two.deviceId && one.deviceSeq ≤ two.deviceSeq)
  | _, _ => true

/-- Held events that list any of `eventIds` among their dependencies, in each PC's own order. -/
def listHeldDependingOn (s : Store) (eventIds : List EventId) : List RowId :=
  ((List.range s.events.length).filter fun id => (s.events[id]?).any (heldDependingOn eventIds)).insertionSort
    fun a b => queuedBefore s a b = true

structure Release where
  store : Store
  released : List EventId
  tried : List RowId := []
  deriving DecidableEq, Repr

/-- One held dependant, with every check. Its row is written by its own turn only, so it is read there. -/
def releaseOne (policy : Policy) (adminId : Nat) (answers : RowId → Answers) (r : Release) (dep : RowId) : Release :=
  match r.store.events[dep]? with
  | none => { r with tried := r.tried ++ [dep] }
  | some event =>
    let stale := r.store.openOfKind dep (· = .waiting)
    let done := process policy r.store dep event
      { mode := .auto, release := true, onBooked := fun t => t.resolveAll stale .applied adminId } (answers dep)
    if done.2.status = .booked then
      { store := done.1, released := r.released ++ [event.eventId], tried := r.tried ++ [dep] }
    else if !done.2.technical then
      -- held or refused again: the engine wrote a fresh item
      { r with store := done.1.resolveAll stale .reviewed adminId, tried := r.tried ++ [dep] }
    else { r with store := done.1, tried := r.tried ++ [dep] }

def nextDependants (r : Release) : List RowId :=
  (listHeldDependingOn r.store r.released).filter fun id => !r.tried.contains id

def releaseLoop (policy : Policy) (adminId : Nat) (answers : RowId → Answers) : Nat → Release → Release
  | 0, r => r
  | fuel + 1, r =>
    if (nextDependants r).isEmpty then r
    else releaseLoop policy adminId answers fuel ((nextDependants r).foldl (releaseOne policy adminId answers) r)

/-- Process the held dependants of `parent`, transitively. Every round tries a row it has not tried. -/
def releaseDependants (policy : Policy) (s : Store) (parent : EventRow) (adminId : Nat)
    (answers : RowId → Answers) : Store :=
  (releaseLoop policy adminId answers (s.events.length + 1) { store := s, released := [parent.eventId] }).store

/-- Dependants of a dismissed, unlinked item stay held with the reason. -/
def markDependantsDismissed (s : Store) (parent : EventRow) : Store :=
  (listHeldDependingOn s [parent.eventId]).foldl (fun acc dep => acc.setError dep dismissedParent) s

/-! Actions. -/

def afterBooking (policy : Policy) (s : Store) (item : ItemId) (event : EventRow) (outcome : ReplayOutcome)
    (adminId : Nat) (answers : RowId → Answers) : Store × ReviewActionResult :=
  if outcome.technical then
    (s, failed .busy "The server is busy booking offline work — try again in a moment")
  else if outcome.status = .applied then
    (releaseDependants policy s event adminId answers,
      { success := true, status := some .applied, serverIds := some (outcome.serverIds.getD []) })
  else if outcome.status = .held && !outcome.refusedOnApply then
    -- a refused item that now looks like a duplicate has a new possible-duplicate item
    (s.resolve item .reviewed adminId, failed .held (outcome.error.getD "Held again"))
  else (s, failed .refused (outcome.error.getD "Refused by the service"))

def bookingOptions (id : RowId) (adminId : Nat) (checkpoint duplicate : Bool) : ReplayOptions where
  mode := .apply
  bypassCheckpoint := checkpoint
  bypassDuplicate := duplicate
  onBooked := fun t => closeOpenItems t id .applied adminId

def applyOptions (id : RowId) (adminId : Nat) (row : ReviewRow) : ReplayOptions :=
  bookingOptions id adminId (row.kind = .heldCheckpoint) (row.kind = .possibleDuplicate)

def apply (policy : Policy) (s : Store) (item : ItemId) (adminId : Nat) (answers : RowId → Answers) :
    Store × ReviewActionResult :=
  match load s item with
  | none => (s, failed .notFound "Review item not found")
  | some (row, loaded) =>
    if row.state ≠ .opened then (s, repeatOf row loaded .applied)
    else match loaded with
      | none => (s, failed .notApplicable "Only held or refused items can be applied")
      | some (id, event) =>
        if !row.kind.holding then (s, failed .notApplicable "Only held or refused items can be applied")
        else if row.details.noApply then
          (s, failed .notApplicable "Recorded by a different app version — re-enter it instead")
        else if !(dependencyState s event).blocking.isEmpty then (s, failed .parentOpen parentOpen)
        else
          let done := process policy s id event (applyOptions id adminId row) (answers id)
          afterBooking policy done.1 item event done.2 adminId answers

def bookAnyway (policy : Policy) (s : Store) (item : ItemId) (adminId : Nat) (answers : RowId → Answers) :
    Store × ReviewActionResult :=
  match load s item with
  | none => (s, failed .notFound "Review item not found")
  | some (row, loaded) =>
    match row.kind, loaded with
    | .certainDuplicate, some (id, event) =>
      if row.state ≠ .opened then (s, repeatOf row loaded .applied)
      else
        let done := process policy s id event (bookingOptions id adminId false true) (answers id)
        afterBooking policy done.1 item event done.2 adminId answers
    | _, _ => (s, failed .notApplicable "Book anyway is only for a skipped duplicate transfer or recharge")

/-- Dismissing a possible duplicate links it to the row it matched. -/
def dismissLink (s : Store) (row : ReviewRow) (event : EventRow) : Store × Bool :=
  if row.kind = .possibleDuplicate then linkToMatch s row event else (s, false)

/-- The transaction of Dismiss for an item about an event, and whether the main row was linked. -/
def dismissEvent (s : Store) (row : ReviewRow) (id : RowId) (event : EventRow) (adminId : Nat)
    (note : Option String) : Store × Bool :=
  let linked := dismissLink s row event
  let dismissed := linked.1.setStatus id .dismissed adminId
  let noted := match note with
    | some text => if text.isEmpty then dismissed else dismissed.setError id ("Dismissed: " ++ text)
    | none => dismissed
  (closeOpenItems noted id .dismissed adminId, linked.2)

def dismiss (policy : Policy) (s : Store) (item : ItemId) (adminId : Nat) (note : Option String)
    (answers : RowId → Answers) : Store × ReviewActionResult :=
  match load s item with
  | none => (s, failed .notFound "Review item not found")
  | some (row, loaded) =>
    if row.state ≠ .opened then (s, repeatOf row loaded .dismissed)
    else if !row.kind.holding && row.kind ≠ .pcDataMismatch then
      (s, failed .notApplicable "Notes are closed with Mark reviewed")
    else
      let answer : ReviewActionResult := { success := true, state := some .dismissed }
      match loaded with
      | none => (s.resolve item .dismissed adminId, answer)
      | some (id, event) =>
        let done := dismissEvent s row id event adminId note
        if done.2 then (releaseDependants policy done.1 event adminId answers, answer)
        else (markDependantsDismissed done.1 event, answer)

def markReviewed (policy : Policy) (s : Store) (item : ItemId) (adminId : Nat) (answers : RowId → Answers) :
    Store × ReviewActionResult :=
  match load s item with
  | none => (s, failed .notFound "Review item not found")
  | some (row, loaded) =>
    if row.state ≠ .opened then (s, repeatOf row loaded .reviewed)
    else if row.kind.holding then (s, failed .notApplicable "A held item is resolved with Apply or Dismiss")
    else
      let answer : ReviewActionResult := { success := true, state := some .reviewed }
      match row.kind, loaded with
      | .certainDuplicate, some (id, event) =>
        let linked := linkToMatch s row event
        let reviewed := (linked.1.markResolved id adminId).resolve item .reviewed adminId
        if linked.2 then (releaseDependants policy reviewed event adminId answers, answer)
        else (reviewed, answer)
      | _, _ => (s.resolve item .reviewed adminId, answer)

/-! What an action finds. -/

structure OpenOn (s : Store) (item : ItemId) (id : RowId) (event : EventRow) (row : ReviewRow) : Prop where
  loaded : load s item = some (row, some (id, event))
  opened : row.state = .opened

/-- Apply passes its guards and calls the engine. -/
structure Applicable (s : Store) (item : ItemId) (id : RowId) (event : EventRow) (row : ReviewRow) : Prop extends
    OpenOn s item id event row where
  holding : row.kind.holding = true
  mayApply : row.details.noApply = false
  unblocked : (dependencyState s event).blocking = []

/-- Held events that wait below `parent`, directly or through other held events. -/
inductive Downstream (s : Store) (parent : EventId) : RowId → EventRow → Prop where
  | direct (id : RowId) (row : EventRow) (found : s.events[id]? = some row) (held : row.status = .held)
      (names : parent ∈ row.dependsOn) : Downstream s parent id row
  | through (id middle : RowId) (row between : EventRow) (above : Downstream s parent middle between)
      (found : s.events[id]? = some row) (held : row.status = .held) (names : between.eventId ∈ row.dependsOn) :
      Downstream s parent id row

/-- No held checkpoint waits below the event. A release would put it on the list a second time. -/
def ClearBelow (policy : Policy) (s : Store) (parent : EventId) : Prop :=
  ∀ (id : RowId) (row : EventRow), Downstream s parent id row → policy.isCheckpoint row.channel = false

end Liratek.Offline.Review
