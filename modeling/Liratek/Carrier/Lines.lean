import Liratek.Carrier.Validity
import Liratek.Lib.Calls
import Liratek.Lib.Table

/-! The carrier lines of one shop, their movements and the drawers of the two carriers. Amounts are whole cents. -/

namespace Liratek.Carrier.Lines
open Lib Lib.Calls Validity

inductive CarrierKey where
  | alfa | mtc
  deriving DecidableEq, Repr

def carrierDrawerNames : CarrierKey → String
  | .alfa => "Alfa"
  | .mtc => "MTC"

/-- The carrier's name in upper case. -/
def carrierUpper : CarrierKey → String
  | .alfa => "ALFA"
  | .mtc => "MTC"

structure CarrierLine where
  carrier : CarrierKey
  phoneNumber : String
  label : Option String
  credits : ℤ
  validityExpiresAt : Option Day
  daysOwed : ℤ := 0
  notes : Option String
  isActive : Bool := true
  isPrimary : Bool
  deriving DecidableEq, Repr

structure CarrierLineMovement where
  carrierLineId : Nat
  transactionId : Option Nat
  creditsDelta : ℤ
  validityDaysDelta : ℤ
  previousValidityExpiresAt : Option Day
  daysOwedDelta : ℤ := 0
  previousDaysOwed : ℤ := 0
  reason : String
  isReversed : Bool := false
  deriving DecidableEq, Repr

inductive CarrierLineAdjustmentReason where
  | created | edited | quickUpdate | deactivated | reactivated | archived
  deriving DecidableEq, Repr

/-- The transactions that move a carrier drawer here. -/
inductive LineTransaction where
  | adjustment (carrierLineId userId : Nat) (amountUsd : ℤ) (carrier : CarrierKey) (phoneNumber : String)
      (label : Option String) (reason : CarrierLineAdjustmentReason)
  | usage (carrierLineId userId : Nat) (amountUsd : ℤ) (carrier : CarrierKey) (description : String)
      (expenseDate : Day) (creditsBefore creditsAfter : ℤ)
  deriving DecidableEq, Repr

/-- The leg of a transaction, in USD. -/
structure DrawerPayment where
  transactionId : Nat
  method : String
  drawerName : String
  amount : ℤ
  note : String
  createdBy : Nat
  deriving DecidableEq, Repr

structure Book where
  lines : Table CarrierLine := {}
  movements : Table CarrierLineMovement := {}
  transactions : Table LineTransaction := {}
  payments : Table DrawerPayment := {}
  /-- the USD balance of each carrier's drawer -/
  drawers : CarrierKey → ℤ := fun _ => 0

inductive LineError where
  | noActor (carrier : CarrierKey) (phoneNumber : String)
  | primaryTaken
  | notFound (carrierLineId : Nat)
  | movementLineNotFound (carrierLineId movementId : Nat)
  | bothForms
  | burned (lapseDays : ℤ)
  | laterRecharge (phoneNumber : String)
  | saleUndoneFirst (phoneNumber : String)
  | archivedLine (carrierLineId : Nat)
  | balanceChanged (carrierLineId : Nat) (expected current : ℤ)
  | nothingUsed (newCredits current : ℤ)
  deriving DecidableEq, Repr

/-- `dollars` writes an amount of cents. -/
def LineError.message (number dollars : ℤ → String) : LineError → String
  | .noActor carrier phoneNumber =>
    "Cannot adjust " ++ carrierDrawerNames carrier ++ " line " ++ phoneNumber ++
      "'s credits without an actor — every manual drawer-moving edit must be attributable"
  | .primaryTaken => "UNIQUE constraint failed: carrier_lines.tenant_id, carrier_lines.carrier"
  | .notFound id => "Carrier line #" ++ number id ++ " not found"
  | .movementLineNotFound id movementId =>
    "Carrier line #" ++ number id ++ " not found (movement #" ++ number movementId ++ ")"
  | .bothForms => "applyMovement: validityExpiresAt and a non-zero validityDaysDelta are mutually exclusive"
  | .burned lapseDays => burnedLineMessage number lapseDays
  | .laterRecharge phoneNumber =>
    "Refund the later recharge of line " ++ (if phoneNumber = "" then "this line" else phoneNumber) ++
      " first, then this one."
  | .saleUndoneFirst phoneNumber =>
    "This line recharge can no longer be refunded on its own — the days sale that sold days from line " ++
      (if phoneNumber = "" then "this line" else phoneNumber) ++
      " was already voided or refunded before this recharge. To undo both, the recharge has to be refunded first, " ++
      "before the days sale."
  | .archivedLine id => "Carrier line #" ++ number id ++ " is archived — reactivate it before recording usage"
  | .balanceChanged id expected current =>
    "Carrier line #" ++ number id ++ " balance changed since the form was opened (expected $" ++ dollars expected ++
      ", line now holds $" ++ dollars current ++ ") — reload and try again"
  | .nothingUsed newCredits current =>
    "New balance $" ++ dollars newCredits ++ " must be below the line's current $" ++ dollars current ++
      " by at least $" ++ dollars 1 ++ " — nothing was used"

/-- In cents. -/
def lineUsageMinDeltaUsd : ℤ := 1

/-! The drawer side. -/

structure AdjustmentInput where
  carrier : CarrierKey
  deltaUsd : ℤ
  userId : Option Nat
  note : String
  carrierLineId : Nat
  phoneNumber : String
  label : Option String
  reasonTag : CarrierLineAdjustmentReason
  deriving DecidableEq, Repr

def applyDrawerDelta (b : Book) (carrier : CarrierKey) (delta : ℤ) : Book :=
  { b with drawers := Function.update b.drawers carrier (b.drawers carrier + delta) }

/-- A movement of the drawer needs a user to answer for it. -/
def postCarrierDrawerAdjustment (b : Book) (input : AdjustmentInput) : Except LineError Book :=
  if 2 * |input.deltaUsd| ≤ lineUsageMinDeltaUsd then .ok b
  else
    match input.userId with
    | none => .error (.noActor input.carrier input.phoneNumber)
    | some userId =>
      .ok (applyDrawerDelta
        { b with
          transactions := b.transactions.insert
            (.adjustment input.carrierLineId userId input.deltaUsd input.carrier input.phoneNumber input.label
              input.reasonTag)
          payments := b.payments.insert
            { transactionId := b.transactions.nextId
              method := "CHECKPOINT_ADJUSTMENT"
              drawerName := carrierDrawerNames input.carrier
              amount := input.deltaUsd
              note := input.note
              createdBy := userId } }
        input.carrier input.deltaUsd)

/-- What a line counts for in the sum of a carrier. -/
def activeCredits (carrier : CarrierKey) (line : CarrierLine) : ℤ :=
  if line.carrier = carrier ∧ line.isActive = true then line.credits else 0

def getCarrierCreditsSum (b : Book) (carrier : CarrierKey) : ℤ :=
  b.lines.total (activeCredits carrier)

/-! Writing lines. -/

structure CreateCarrierLineData where
  carrier : CarrierKey
  phoneNumber : String
  label : Option String := none
  credits : ℤ := 0
  validityExpiresAt : Option Day := none
  notes : Option String := none
  deriving DecidableEq, Repr

/-- A field that is absent stays as it is. -/
structure UpdateCarrierLineData where
  carrier : Option CarrierKey := none
  phoneNumber : Option String := none
  label : Option (Option String) := none
  credits : Option ℤ := none
  validityExpiresAt : Option (Option Day) := none
  daysOwed : Option ℤ := none
  notes : Option (Option String) := none
  isActive : Option Bool := none
  deriving DecidableEq, Repr

def UpdateCarrierLineData.patch (data : UpdateCarrierLineData) (line : CarrierLine) : CarrierLine where
  carrier := data.carrier.getD line.carrier
  phoneNumber := data.phoneNumber.getD line.phoneNumber
  label := data.label.getD line.label
  credits := data.credits.getD line.credits
  validityExpiresAt := data.validityExpiresAt.getD line.validityExpiresAt
  daysOwed := data.daysOwed.getD line.daysOwed
  notes := data.notes.getD line.notes
  isActive := data.isActive.getD line.isActive
  isPrimary := line.isPrimary

/-- `idx_carrier_lines_one_primary_per_carrier`: another line of the carrier is primary. -/
def primaryTaken (b : Book) (id : Nat) (carrier : CarrierKey) : Bool :=
  b.lines.rows.any fun entry => entry.1 ≠ id && entry.2.carrier = carrier && entry.2.isPrimary

def hasActive (b : Book) (carrier : CarrierKey) : Bool :=
  b.lines.rows.any fun entry => entry.2.carrier = carrier && entry.2.isActive

/-- The carrier's first active line is its primary one. -/
def createLine (b : Book) (data : CreateCarrierLineData) (userId : Option Nat) : Except LineError Book :=
  let isPrimary := !hasActive b data.carrier
  let id := b.lines.nextId
  let inserted : Book :=
    { b with
      lines := b.lines.insert
        { carrier := data.carrier
          phoneNumber := data.phoneNumber
          label := data.label
          credits := data.credits
          validityExpiresAt := data.validityExpiresAt
          notes := data.notes
          isPrimary := isPrimary } }
  if isPrimary && primaryTaken b id data.carrier then .error .primaryTaken
  else if data.credits = 0 then .ok inserted
  else
    postCarrierDrawerAdjustment inserted
      { carrier := data.carrier
        deltaUsd := data.credits
        userId := userId
        note := "Carrier line " ++ data.phoneNumber ++ " created"
        carrierLineId := id
        phoneNumber := data.phoneNumber
        label := data.label
        reasonTag := .created }

/-- The generic patch: it posts nothing. -/
def updateLine (b : Book) (id : Nat) (data : UpdateCarrierLineData) : Except LineError Book :=
  match b.lines.get id with
  | none => .ok b
  | some line =>
    if line.isPrimary && primaryTaken b id (data.patch line).carrier then .error .primaryTaken
    else .ok { b with lines := b.lines.update id data.patch }

def updateLineAndSyncDrawer (b : Book) (id : Nat) (data : UpdateCarrierLineData) (userId : Option Nat) :
    Except LineError Book :=
  match b.lines.get id with
  | none => .ok b
  | some before =>
    let after := data.patch before
    let creditsDelta := after.credits - before.credits
    (updateLine b id data).bind fun b =>
      if 2 * |creditsDelta| ≤ lineUsageMinDeltaUsd then .ok b
      else
        postCarrierDrawerAdjustment b
          { carrier := before.carrier
            deltaUsd := creditsDelta
            userId := userId
            note := "Carrier line " ++ before.phoneNumber ++ " credits edited"
            carrierLineId := id
            phoneNumber := after.phoneNumber
            label := after.label
            reasonTag := .edited }

structure UpdateBalanceData where
  credits : Option ℤ := none
  validityExpiresAt : Option (Option Day) := none
  deriving DecidableEq, Repr

def UpdateBalanceData.toPatch (data : UpdateBalanceData) : UpdateCarrierLineData :=
  { credits := data.credits, validityExpiresAt := data.validityExpiresAt }

/-- A hand correction is logged as a movement, and posted when the credits change. -/
def updateBalance (b : Book) (id : Nat) (data : UpdateBalanceData) (userId : Option Nat) : Except LineError Book :=
  match b.lines.get id with
  | none => .ok b
  | some line =>
    let creditsDelta := data.credits.getD line.credits - line.credits
    let expiry := data.validityExpiresAt.getD line.validityExpiresAt
    let validityDaysDelta := match line.validityExpiresAt, expiry with
      | some old, some new => daysBetweenDateStrings old new
      | _, _ => 0
    if creditsDelta = 0 ∧ expiry = line.validityExpiresAt then updateLine b id data.toPatch
    else
      (updateLine b id data.toPatch).bind fun b =>
        let b := { b with
          movements := b.movements.insert
            { carrierLineId := id
              transactionId := none
              creditsDelta := creditsDelta
              validityDaysDelta := validityDaysDelta
              previousValidityExpiresAt := line.validityExpiresAt
              reason := "manual" } }
        if creditsDelta = 0 then .ok b
        else
          postCarrierDrawerAdjustment b
            { carrier := line.carrier
              deltaUsd := creditsDelta
              userId := userId
              note := "Carrier line " ++ line.phoneNumber ++ " balance updated"
              carrierLineId := id
              phoneNumber := line.phoneNumber
              label := line.label
              reasonTag := .quickUpdate }

/-- A line that leaves the active set is no longer primary, and does not become primary again by coming back. -/
def toggled (line : CarrierLine) : CarrierLine :=
  { line with isActive := !line.isActive, isPrimary := if line.isActive then false else line.isPrimary }

def toggleActive (b : Book) (id : Nat) (userId : Option Nat) : Except LineError Book :=
  match b.lines.get id with
  | none => .ok b
  | some before =>
    let after := toggled before
    postCarrierDrawerAdjustment { b with lines := b.lines.update id toggled }
      { carrier := before.carrier
        deltaUsd := if after.isActive then before.credits else -before.credits
        userId := userId
        note := "Carrier line " ++ before.phoneNumber ++ (if after.isActive then " reactivated" else " deactivated")
        carrierLineId := id
        phoneNumber := before.phoneNumber
        label := before.label
        reasonTag := if after.isActive then .reactivated else .deactivated }

def archivedLine (line : CarrierLine) : CarrierLine :=
  { line with isActive := false, isPrimary := false }

def archive (b : Book) (id : Nat) (userId : Option Nat) : Except LineError Book :=
  match b.lines.get id with
  | none => .ok b
  | some before =>
    let b := { b with lines := b.lines.update id archivedLine }
    if before.isActive then
      postCarrierDrawerAdjustment b
        { carrier := before.carrier
          deltaUsd := -before.credits
          userId := userId
          note := "Carrier line " ++ before.phoneNumber ++ " archived"
          carrierLineId := id
          phoneNumber := before.phoneNumber
          label := before.label
          reasonTag := .archived }
    else .ok b

/-! Movements: the tracked changes of credits and days, and their reversal. -/

structure ApplyCarrierLineMovementInput where
  carrierLineId : Nat
  creditsDelta : ℤ
  validityDaysDelta : ℤ
  /-- a counted date, instead of a number of days -/
  validityExpiresAt : Option Day := none
  reason : String
  transactionId : Option Nat
  today : Day
  deriving DecidableEq, Repr

structure AppliedState where
  state : UpdateCarrierLineData
  projection : Option ValidityProjection
  deriving DecidableEq, Repr

def computeAppliedState (line : CarrierLine) (creditsDelta validityDaysDelta : ℤ) (validityExpiresAt : Option Day)
    (today : Day) : Except LineError AppliedState :=
  let newCredits := line.credits + creditsDelta
  match validityExpiresAt with
  | some counted =>
    .ok
      { state := { credits := newCredits, validityExpiresAt := some (some counted), daysOwed := line.daysOwed }
        projection := none }
  | none =>
    if validityDaysDelta = 0 then
      .ok
        { state :=
            { credits := some newCredits
              validityExpiresAt := some line.validityExpiresAt
              daysOwed := some line.daysOwed }
          projection := none }
    else
      let projection := projectValidityExpiry line.validityExpiresAt validityDaysDelta today line.daysOwed
      if projection.burned then .error (.burned projection.lapseDays)
      else
        .ok
          { state :=
              { credits := some newCredits
                validityExpiresAt := some projection.expiry
                daysOwed := some projection.daysOwed }
            projection := some projection }

/-- What the movement row records: a sale only the days it took off the expiry, a charge all its days. -/
def recordedDeltas (input : ApplyCarrierLineMovementInput) (previous : Option Day)
    (projection : Option ValidityProjection) : ℤ × ℤ :=
  match input.validityExpiresAt with
  | some counted => ((previous.map (daysBetweenDateStrings · counted)).getD 0, 0)
  | none =>
    match projection with
    | none => (0, 0)
    | some p =>
      if input.validityDaysDelta < 0 then (-(-input.validityDaysDelta - p.soldAhead), p.soldAhead)
      else (input.validityDaysDelta, -p.owedApplied)

def movementOf (input : ApplyCarrierLineMovementInput) (line : CarrierLine) (applied : AppliedState) :
    CarrierLineMovement where
  carrierLineId := input.carrierLineId
  transactionId := input.transactionId
  creditsDelta := input.creditsDelta
  validityDaysDelta := (recordedDeltas input line.validityExpiresAt applied.projection).1
  previousValidityExpiresAt := line.validityExpiresAt
  daysOwedDelta := (recordedDeltas input line.validityExpiresAt applied.projection).2
  previousDaysOwed := line.daysOwed
  reason := input.reason

def applyMovement (b : Book) (input : ApplyCarrierLineMovementInput) : Except LineError Book :=
  if input.validityExpiresAt.isSome ∧ input.validityDaysDelta ≠ 0 then .error .bothForms
  else
    match b.lines.get input.carrierLineId with
    | none => .error (.notFound input.carrierLineId)
    | some line =>
      (computeAppliedState line input.creditsDelta input.validityDaysDelta input.validityExpiresAt input.today).bind
        fun applied => (updateLine b input.carrierLineId applied.state).map
          fun b => { b with movements := b.movements.insert (movementOf input line applied) }

/-- The movements of the line that the order guard sees. -/
def validityMovements (b : Book) (lineId : Nat) : List (Nat × CarrierLineMovement) :=
  b.movements.select fun m => m.carrierLineId = lineId && m.validityDaysDelta ≠ 0

def getLaterUnreversedValidityMovement (b : Book) (lineId afterMovementId : Nat) : Option (Nat × CarrierLineMovement) :=
  (validityMovements b lineId).find? fun entry => afterMovementId < entry.1 && !entry.2.isReversed

/-- The newest of them. -/
def getOlderReversedValidityMovement (b : Book) (lineId beforeMovementId : Nat) : Option (Nat × CarrierLineMovement) :=
  (validityMovements b lineId).reverse.find? fun entry => entry.1 < beforeMovementId && entry.2.isReversed

/-- A sale gives its days back to the expiry the line has now, under the ceiling; a charge restores its snapshot. -/
def restoredExpiry (m : CarrierLineMovement) (line : CarrierLine) (today : Day) : Option Day :=
  if m.validityDaysDelta < 0 then
    match m.previousValidityExpiresAt with
    | none => none
    | some previous =>
      let alreadyPaidOff := if 0 < m.daysOwedDelta then max 0 (m.daysOwedDelta - line.daysOwed) else 0
      let base := line.validityExpiresAt.getD previous
      let restored := addDaysToDateString base (-m.validityDaysDelta + alreadyPaidOff)
      let ceiling := addDaysToDateString today maxLineValidityDays
      let effectiveCeiling := if ceiling < previous then previous else ceiling
      some (if effectiveCeiling < restored then effectiveCeiling else restored)
  else if 0 < m.validityDaysDelta then m.previousValidityExpiresAt
  else line.validityExpiresAt

def restoredState (m : CarrierLineMovement) (line : CarrierLine) (today : Day) : UpdateCarrierLineData :=
  { credits := some (line.credits - m.creditsDelta)
    validityExpiresAt := some (restoredExpiry m line today)
    daysOwed := some (max 0 (line.daysOwed - m.daysOwedDelta)) }

/-- The order guard, for charges alone. -/
def refuseReversal (b : Book) (id : Nat) (m : CarrierLineMovement) (line : CarrierLine) : Option LineError :=
  if 0 < m.validityDaysDelta then
    if (getLaterUnreversedValidityMovement b m.carrierLineId id).isSome then some (.laterRecharge line.phoneNumber)
    else if (getOlderReversedValidityMovement b m.carrierLineId id).isSome then
      some (.saleUndoneFirst line.phoneNumber)
    else none
  else none

def markReversed (m : CarrierLineMovement) : CarrierLineMovement :=
  { m with isReversed := true }

/-- A movement that is missing or already reversed changes nothing. -/
def reverseMovement (b : Book) (movementId : Nat) (today : Day) : Except LineError Book :=
  match b.movements.get movementId with
  | none => .ok b
  | some m =>
    match b.lines.get m.carrierLineId with
    | none => .error (.movementLineNotFound m.carrierLineId movementId)
    | some line =>
      if m.isReversed then .ok b
      else
        match refuseReversal b movementId m line with
        | some refused => .error refused
        | none => (updateLine b m.carrierLineId (restoredState m line today)).map fun b =>
            { b with movements := b.movements.update movementId markReversed }

/-! Credits used up are an expense paid from the carrier's drawer. -/

structure RecordCarrierLineUsageData where
  carrierLineId : Nat
  newCredits : ℤ
  expectedCurrentCredits : Option ℤ := none
  note : Option String := none
  deriving DecidableEq, Repr

def usageDescription (line : CarrierLine) (note : Option String) : String :=
  "Line usage: " ++ carrierUpper line.carrier ++ " " ++ line.phoneNumber ++
    ((line.label.filter (· ≠ "")).map fun label => " (" ++ label ++ ")").getD "" ++
    ((note.filter (· ≠ "")).map fun note => " — " ++ note).getD ""

/-- The expense, its transaction and its one leg. -/
def bookUsage (b : Book) (id : Nat) (line : CarrierLine) (data : RecordCarrierLineUsageData) (delta : ℤ)
    (userId : Nat) (today : Day) : Book :=
  applyDrawerDelta
    { b with
      transactions := b.transactions.insert
        (.usage id userId (-delta) line.carrier (usageDescription line data.note) today line.credits data.newCredits)
      payments := b.payments.insert
        { transactionId := b.transactions.nextId
          method := "LINE_CREDIT"
          drawerName := carrierDrawerNames line.carrier
          amount := -|delta|
          note := "Line_Usage: " ++ usageDescription line data.note
          createdBy := userId } }
    line.carrier (-|delta|)

def recordUsage (b : Book) (data : RecordCarrierLineUsageData) (userId : Nat) (today : Day) : Except LineError Book :=
  match b.lines.get data.carrierLineId with
  | none => .error (.notFound data.carrierLineId)
  | some line =>
    if line.isActive = false then .error (.archivedLine data.carrierLineId)
    else if data.expectedCurrentCredits.any fun expected => 1 ≤ 2 * |expected - line.credits| then
      .error (.balanceChanged data.carrierLineId (data.expectedCurrentCredits.getD 0) line.credits)
    else
      let delta := line.credits - data.newCredits
      if delta < lineUsageMinDeltaUsd then .error (.nothingUsed data.newCredits line.credits)
      else
        applyMovement (bookUsage b data.carrierLineId line data delta userId today)
          { carrierLineId := data.carrierLineId
            creditsDelta := -delta
            validityDaysDelta := 0
            reason := "LINE_USAGE"
            transactionId := some b.transactions.nextId
            today := today }

/-! What a call that is not refused does. -/

theorem updateLine_ok {b b' : Book} {id : Nat} {data : UpdateCarrierLineData} {line : CarrierLine}
    (found : b.lines.get id = some line) (done : updateLine b id data = .ok b') :
    b' = { b with lines := b.lines.update id data.patch } ∧
      (line.isPrimary = true → primaryTaken b id (data.patch line).carrier = false) := by
  unfold updateLine at done
  rw [found] at done
  dsimp only at done
  split_ifs at done with taken
  cases done
  refine ⟨rfl, ?_⟩
  intro primary
  rw [primary, Bool.true_and] at taken
  exact Bool.eq_false_of_not_eq_true taken

theorem applyMovement_ok {b b' : Book} {input : ApplyCarrierLineMovementInput} (done : applyMovement b input = .ok b') :
    ∃ line applied, b.lines.get input.carrierLineId = some line ∧
      computeAppliedState line input.creditsDelta input.validityDaysDelta input.validityExpiresAt input.today =
        .ok applied ∧
      (line.isPrimary = true → primaryTaken b input.carrierLineId (applied.state.patch line).carrier = false) ∧
      b' = { b with
        lines := b.lines.update input.carrierLineId applied.state.patch
        movements := b.movements.insert (movementOf input line applied) } := by
  unfold applyMovement at done
  split_ifs at done
  rcases found : b.lines.get input.carrierLineId with _ | line
  · rw [found] at done
    cases done
  · rw [found] at done
    obtain ⟨applied, computed, done⟩ := bind_ok done
    obtain ⟨written, wrote, rfl⟩ := map_ok done
    obtain ⟨rfl, free⟩ := updateLine_ok found wrote
    exact ⟨line, applied, rfl, computed, free, rfl⟩

theorem reverseMovement_ok {b b' : Book} {id : Nat} {today : Day} (done : reverseMovement b id today = .ok b') :
    b' = b ∨ ∃ m line, b.movements.get id = some m ∧ b.lines.get m.carrierLineId = some line ∧ m.isReversed = false ∧
      refuseReversal b id m line = none ∧
      b' = { b with
        lines := b.lines.update m.carrierLineId (restoredState m line today).patch
        movements := b.movements.update id markReversed } := by
  unfold reverseMovement at done
  rcases found : b.movements.get id with _ | m
  · rw [found] at done
    exact Or.inl (Except.ok.inj done).symm
  · rw [found] at done
    dsimp only at done
    rcases there : b.lines.get m.carrierLineId with _ | line
    · rw [there] at done
      cases done
    · rw [there] at done
      dsimp only at done
      split_ifs at done with reversed
      · exact Or.inl (Except.ok.inj done).symm
      · rcases guard : refuseReversal b id m line with _ | refused
        · rw [guard] at done
          obtain ⟨written, wrote, rfl⟩ := map_ok done
          obtain ⟨rfl, -⟩ := updateLine_ok there wrote
          exact Or.inr ⟨m, line, rfl, there, Bool.eq_false_of_not_eq_true reversed, guard, rfl⟩
        · rw [guard] at done
          cases done

end Liratek.Carrier.Lines
