import Liratek.Offline.Shop
import Liratek.Lib.Runs
import Mathlib.Data.List.Dedup
import Mathlib.Data.List.Sort

/-! One run of the merge over every PC with waiting events. An iteration of its loop is one turn; between two
turns other steps of the shop may run, but no second merge. -/

namespace Liratek.Offline.Merge
open Tables Channels Replay Shop Lib.Runs

/-- Where the round stands in the queue of one PC. -/
structure Head where
  deviceId : Nat
  deviceNo : Nat
  seq : Nat
  startSeq : Nat
  deriving DecidableEq, Repr

def devicesWithReceived (s : Store) : List Nat :=
  ((s.events.filter fun row => row.status = .received).map (·.deviceId)).dedup.insertionSort (· ≤ ·)

def openHead (s : Store) (stopped : List Nat) (deviceId : Nat) : Option Head :=
  if stopped.contains deviceId then none
  else (s.devices[deviceId]?).map fun device => {
    deviceId := deviceId, deviceNo := device.deviceNo
    seq := device.nextExpectedSeq, startSeq := device.nextExpectedSeq }

def openHeads (s : Store) (stopped : List Nat) : List Head :=
  (devicesWithReceived s).filterMap (openHead s stopped)

def eventAt (s : Store) (deviceId seq : Nat) : Option (RowId × EventRow) :=
  (s.findBySeq deviceId seq).bind fun id => (s.events[id]?).map fun row => (id, row)

/-- Skip the events already settled. The fuel is the number of stored events, which is always enough. -/
def skipSettled (s : Store) (deviceId : Nat) : Nat → Nat → Nat
  | 0, seq => seq
  | fuel + 1, seq =>
    match eventAt s deviceId seq with
    | none => seq
    | some (_, event) => if event.status = .received then seq else skipSettled s deviceId fuel (seq + 1)

/-- `Date.parse(ev.corrected_at ?? ev.occurred_at)` -/
def correctedInstant (event : EventRow) : Int :=
  event.correctedAt.getD event.occurredAt.ms

structure Best where
  head : Head
  id : RowId
  event : EventRow
  instant : Int
  deriving DecidableEq, Repr

/-- Earlier instant, then lower PC number, then lower sequence. -/
def earlier (a b : Best) : Bool :=
  a.instant < b.instant ||
    (a.instant = b.instant && (a.head.deviceNo < b.head.deviceNo ||
      (a.head.deviceNo = b.head.deviceNo && a.event.deviceSeq < b.event.deviceSeq)))

def better (best : Option Best) (found : Best) : Best :=
  match best with
  | none => found
  | some best => if earlier found best then found else best

/-- One walk over the heads. -/
structure Pass where
  store : Store
  heads : List Head := []
  best : Option Best := none
  deriving DecidableEq, Repr

/-- The cursor of a PC that leaves the round. -/
def keepCursor (s : Store) (h : Head) (seq : Nat) : Store :=
  if seq ≠ h.startSeq then s.setNextExpectedSeq h.deviceId seq else s

/-- At or after the end of an ended trial. -/
def heldByTrial (trialEnd : Option Int) (instant : Int) : Bool :=
  trialEnd.any fun trialEnd => trialEnd ≤ instant

def visit (trialEnd : Option Int) (p : Pass) (h : Head) : Pass :=
  let seq := skipSettled p.store h.deviceId p.store.events.length h.seq
  match eventAt p.store h.deviceId seq with
  | none => { p with store := keepCursor p.store h seq }
  | some (id, event) =>
    let found : Best := { head := { h with seq := seq }, id := id, event := event, instant := correctedInstant event }
    if heldByTrial trialEnd found.instant then { p with store := keepCursor p.store h seq }
    else { p with heads := p.heads ++ [found.head], best := some (better p.best found) }

def pass (trialEnd : Option Int) (s : Store) (heads : List Head) : Pass :=
  heads.foldl (visit trialEnd) { store := s }

/-- One call of the engine, as the round made it. -/
structure Call where
  deviceId : Nat
  seq : Nat
  technical : Bool
  deriving DecidableEq, Repr

structure Round where
  store : Store
  heads : List Head
  stopped : List Nat
  processed : Nat := 0
  calls : List Call := []
  finished : Bool := false

/-- Steps of the shop that may run between two turns. `runRound` never runs two merges of one shop. -/
def isForeign : Step → Bool
  | .merge _ _ | .cursor _ _ => false
  | _ => true

structure Turn where
  answers : Answers := {}
  others : List { step : Step // isForeign step = true } := []

def start (s : Store) (stopped : List Nat) : Round where
  store := s
  heads := openHeads s stopped
  stopped := stopped

/-- The chosen event goes through the engine. A technical failure stops its PC, with the cursor on the event. -/
def callEngine (policy : Policy) (r : Round) (p : Pass) (b : Best) (answers : Answers) : Round :=
  let called := process policy p.store b.id b.event { mode := .auto } answers
  let calls := r.calls ++ [{ deviceId := b.head.deviceId, seq := b.head.seq, technical := called.2.technical }]
  if called.2.technical then
    { r with
      store := called.1.setNextExpectedSeq b.head.deviceId b.head.seq
      heads := p.heads.filter fun h => h.deviceId ≠ b.head.deviceId
      stopped := r.stopped ++ [b.head.deviceId]
      calls := calls }
  else
    { r with
      store := called.1.setNextExpectedSeq b.head.deviceId (b.head.seq + 1)
      heads := p.heads.map fun h =>
        if h.deviceId = b.head.deviceId then { h with seq := b.head.seq + 1, startSeq := b.head.seq + 1 } else h
      processed := r.processed + 1
      calls := calls }

def afterOthers (policy : Policy) (r : Round) (others : List { step : Step // isForeign step = true }) : Round :=
  { r with store := run (exec policy) r.store (others.map (·.val)) }

/-- One iteration of the loop. -/
def turn (policy : Policy) (trialEnd : Option Int) (r : Round) (t : Turn) : Round :=
  if r.finished then r
  else
    let p := pass trialEnd r.store r.heads
    match p.best with
    | none => { r with store := p.store, heads := p.heads, finished := true }
    | some b => afterOthers policy (callEngine policy r p b t.answers) t.others

/-- The round after its first turns. -/
def merge (policy : Policy) (trialEnd : Option Int) (s : Store) (stopped : List Nat) (turns : List Turn) : Round :=
  run (turn policy trialEnd) (start s stopped) turns

end Liratek.Offline.Merge
