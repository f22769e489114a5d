import Liratek.Lib.Table
import Mathlib.Data.List.Sort

/-! The email outbox: rows of emails to send, and the runs of the worker that send them. Runs may overlap, in one process or in
several, and any of them may stop at any point. -/

namespace Liratek.Email.Outbox
open Lib

inductive EmailOutboxStatus where
  | pending | sending | accepted | failed
  deriving DecidableEq, Repr

inductive TemplateValue where
  | text (value : String)
  | number (value : ℚ)
  | flag (value : Bool)
  | null
  deriving DecidableEq, Repr

/-- The variables of a template, by key. -/
abbrev EmailTemplateData := List (String × TemplateValue)

structure EmailRow where
  idempotencyKey : String
  template : String
  toEmail : String
  data : EmailTemplateData
  status : EmailOutboxStatus := .pending
  attempts : ℕ := 0
  nextAttemptAt : ℤ
  giveUpAt : ℤ
  lockedAt : Option ℤ := none
  lastError : Option String := none
  providerMessageId : Option String := none
  sentAt : Option ℤ := none
  deriving DecidableEq, Repr

structure EnqueueEmailData where
  idempotencyKey : String
  template : String
  toEmail : String
  data : EmailTemplateData
  now : ℤ
  giveUpAt : ℤ

def emailOutboxMaxErrorLength : ℕ := 1000

def truncateError (error : String) : String :=
  String.ofList (error.toList.take emailOutboxMaxErrorLength)

/-! The repository. -/

section
variable (o : Table EmailRow)

def hasKey (key : String) : Bool :=
  (o.select fun row => row.idempotencyKey = key) ≠ []

def findByIdempotencyKey (key : String) : Option (ℕ × EmailRow) :=
  (o.select fun row => row.idempotencyKey = key).head?

/-- A key that is taken inserts nothing. -/
def enqueue (data : EnqueueEmailData) : Table EmailRow :=
  if hasKey o data.idempotencyKey then o
  else
    o.insert
      { idempotencyKey := data.idempotencyKey, template := data.template, toEmail := data.toEmail, data := data.data
        nextAttemptAt := data.now, giveUpAt := data.giveUpAt }

def isDue (now : ℤ) (row : EmailRow) : Bool :=
  row.status = .pending && row.nextAttemptAt ≤ now

def isEarlier (first second : ℕ × EmailRow) : Bool :=
  first.2.nextAttemptAt < second.2.nextAttemptAt || first.2.nextAttemptAt = second.2.nextAttemptAt && first.1 ≤ second.1

/-- Also the rows past their `giveUpAt`. -/
def findDue (now : ℤ) (limit : ℕ) : List (ℕ × EmailRow) :=
  ((o.select (isDue now)).mergeSort isEarlier).take limit

def isOpen (row : EmailRow) : Bool :=
  row.status = .pending || row.status = .sending

def claim (id : ℕ) (now : ℤ) : Table EmailRow × Bool :=
  o.updateIf id (·.status = .pending) fun row => { row with status := .sending, lockedAt := some now }

def markAccepted (id : ℕ) (providerMessageId : Option String) (now : ℤ) (attemptsMade : ℕ) : Table EmailRow × Bool :=
  o.updateIf id (·.status = .sending) fun row =>
    { row with
      status := .accepted, providerMessageId, sentAt := some now, lockedAt := none, attempts := row.attempts + attemptsMade }

def markRetry (id : ℕ) (error : String) (nextAttemptAt : ℤ) (attemptsMade : ℕ) : Table EmailRow × Bool :=
  o.updateIf id isOpen fun row =>
    { row with
      status := .pending, nextAttemptAt, lastError := some (truncateError error), lockedAt := none
      attempts := row.attempts + attemptsMade }

def markFailed (id : ℕ) (error : String) (attemptsMade : ℕ) : Table EmailRow × Bool :=
  o.updateIf id isOpen fun row =>
    { row with
      status := .failed, lastError := some (truncateError error), lockedAt := none, attempts := row.attempts + attemptsMade }

def isStuck (cutoff : ℤ) (row : EmailRow) : Bool :=
  row.status = .sending && row.lockedAt.any (· < cutoff)

/-- Rows that a crash has left in `sending`. -/
def recoverStuck (now olderThanMs : ℤ) : Table EmailRow :=
  o.updateWhere (isStuck (now - olderThanMs)) fun row => { row with status := .pending, lockedAt := none }

def scrubSecret (id : ℕ) (key : String) : Table EmailRow :=
  o.update id fun row => { row with data := row.data.filter (·.1 ≠ key) }

end

/-! The worker. -/

def emailOutboxBatchSize : ℕ := 20
def emailOutboxRetryDelayMs : ℤ := 10 * 60 * 1000
def emailOutboxAttemptsPerRound : ℕ := 2
def emailOutboxStuckAfterMs : ℤ := 10 * 60 * 1000
def redacted : String := "[redacted]"

/-- Empty values are skipped. -/
def redactSecrets (text : String) (secrets : List String) : String :=
  secrets.foldl (fun out secret => if secret = "" then out else out.replace secret redacted) text

/-- What the transport throws. -/
structure SendError where
  isPermanent : Bool
  text : String
  deriving DecidableEq, Repr

/-- The provider's id for the message, or the error. -/
abbrev SendResult := Except SendError (Option String)

/-- Where a run is with the row it has taken. -/
inductive Phase where
  | idle
  /-- claimed past its time, which must fail it -/
  | late (id : ℕ)
  /-- before or in the `attempt`-th call of `transport.send` -/
  | trying (id : ℕ) (row : EmailRow) (attempt : ℕ)
  | ended (id : ℕ) (row : EmailRow) (outcome : SendResult) (attemptsMade : ℕ)
  | scrubbing (id : ℕ) (keys : List String)

/-- One run of the worker: its time, the due rows it has found and not yet taken, and the row in hand. -/
structure Run where
  now : ℤ
  queue : List (ℕ × EmailRow)
  phase : Phase := .idle

/-- What has happened, the last first. -/
inductive Event where
  | recovered (id : ℕ)
  | claimed (id : ℕ)
  /-- a call of `transport.send` has come back, in a run of this time -/
  | sent (id : ℕ) (now : ℤ)
  /-- and it has resolved; a call that threw may still have left the email with the provider -/
  | acknowledged (id : ℕ) (providerMessageId : Option String)
  /-- a run has stopped with secrets of a row to remove -/
  | unscrubbed (id : ℕ)
  deriving DecidableEq, Repr

structure System where
  outbox : Table EmailRow := {}
  runs : Table Run := {}
  log : List Event := []

section
-- the templates of the app: the email of a template and its data, or why there is none
variable (renderTemplate : String → EmailTemplateData → Except String Unit)
-- the keys of all templates that hold a secret
variable (secretDataKeys : List String)
-- the configured secrets
variable (secrets : List String)

namespace System

def setRun (s : System) (r : ℕ) (change : Run → Run) : System :=
  { s with runs := s.runs.update r change }

def record (s : System) (event : Event) : System :=
  { s with log := event :: s.log }

/-- Recovery first, so that a row abandoned in sending is due in this run. -/
def start (s : System) (now : ℤ) : System :=
  let stuck := (s.outbox.select (isStuck (now - emailOutboxStuckAfterMs))).map (·.1)
  let outbox := recoverStuck s.outbox now emailOutboxStuckAfterMs
  { outbox
    runs := s.runs.insert { now, queue := findDue outbox now emailOutboxBatchSize }
    log := stuck.map .recovered ++ s.log }

/-- Where a run goes with a row that it has claimed. A row that cannot be rendered ends with no attempt. -/
def beginning (now : ℤ) (id : ℕ) (row : EmailRow) : Phase :=
  if row.giveUpAt ≤ now then .late id
  else
    match renderTemplate row.template row.data with
    | .error error => .ended id row (.error { isPermanent := true, text := error }) 0
    | .ok _ => .trying id row 1

/-- The next row of the queue: claimed, or skipped. -/
def next (s : System) (r : ℕ) : System :=
  match s.runs.get r with
  | some { now, queue := (id, row) :: rest, phase := .idle } =>
    let claimed := claim s.outbox id now
    if claimed.2 then
      ({ s with outbox := claimed.1 }.record (.claimed id)).setRun r fun run =>
        { run with queue := rest, phase := beginning renderTemplate now id row }
    else s.setRun r fun run => { run with queue := rest }
  | _ => s

/-- Where a round goes when an attempt has come back. A permanent error ends it, and so does the last attempt. -/
def afterAttempt (id : ℕ) (row : EmailRow) (attempt : ℕ) (answer : SendResult) : Phase :=
  match answer with
  | .ok messageId => .ended id row (.ok messageId) attempt
  | .error error =>
    if error.isPermanent then .ended id row (.error error) attempt
    else if attempt < emailOutboxAttemptsPerRound then .trying id row (attempt + 1)
    else .ended id row (.error error) emailOutboxAttemptsPerRound

/-- The transport answers an attempt. -/
def answered (s : System) (r : ℕ) (answer : SendResult) : System :=
  match s.runs.get r with
  | some { now, queue := _, phase := .trying id row attempt } =>
    let sent := (s.record (.sent id now)).setRun r fun run => { run with phase := afterAttempt id row attempt answer }
    match answer with
    | .ok messageId => sent.record (.acknowledged id messageId)
    | .error _ => sent
  | _ => s

def handleSendFailure (s : System) (r : ℕ) (now : ℤ) (id : ℕ) (row : EmailRow) (error : SendError) (attemptsMade : ℕ) : System :=
  let message := redactSecrets error.text secrets
  let nextAttemptAt := now + emailOutboxRetryDelayMs
  if error.isPermanent || row.giveUpAt ≤ nextAttemptAt then
    { s with outbox := (markFailed s.outbox id message attemptsMade).1 }.setRun r fun run =>
      { run with phase := .scrubbing id secretDataKeys }
  else
    { s with outbox := (markRetry s.outbox id message nextAttemptAt attemptsMade).1 }.setRun r fun run => { run with phase := .idle }

/-- The round, or the lack of one, is turned into a state of the row. -/
def finish (s : System) (r : ℕ) : System :=
  match s.runs.get r with
  | some { now, queue := _, phase := .ended id row outcome attemptsMade } =>
    match outcome with
    | .ok messageId =>
      { s with outbox := (markAccepted s.outbox id messageId now attemptsMade).1 }.setRun r fun run =>
        { run with phase := .scrubbing id secretDataKeys }
    | .error error => s.handleSendFailure secretDataKeys secrets r now id row error attemptsMade
  | some { now := _, queue := _, phase := .late id } =>
    { s with outbox := (markFailed s.outbox id "gave up: past give_up_at" 0).1 }.setRun r fun run =>
      { run with phase := .scrubbing id secretDataKeys }
  | _ => s

def scrub (s : System) (r : ℕ) : System :=
  match s.runs.get r with
  | some { now := _, queue := _, phase := .scrubbing id (key :: rest) } =>
    { s with outbox := scrubSecret s.outbox id key }.setRun r fun run => { run with phase := .scrubbing id rest }
  | some { now := _, queue := _, phase := .scrubbing _ [] } => s.setRun r fun run => { run with phase := .idle }
  | _ => s

/-- An error in the row in hand, or the end of the process, which leaves no queue. -/
def abandon (s : System) (r : ℕ) (crashed : Bool) : System :=
  match s.runs.get r with
  | none => s
  | some run =>
    let stopped := s.setRun r fun run => { run with phase := .idle, queue := if crashed then [] else run.queue }
    match run.phase with
    | .scrubbing id (_ :: _) => stopped.record (.unscrubbed id)
    | _ => stopped

end System

inductive Action where
  | enqueue (data : EnqueueEmailData)
  | start (now : ℤ)
  | next (r : ℕ)
  | answered (r : ℕ) (answer : SendResult)
  | finish (r : ℕ)
  | scrub (r : ℕ)
  | abandon (r : ℕ) (crashed : Bool)

def exec (s : System) : Action → System
  | .enqueue data => { s with outbox := enqueue s.outbox data }
  | .start now => s.start now
  | .next r => s.next renderTemplate r
  | .answered r answer => s.answered r answer
  | .finish r => s.finish secretDataKeys secrets r
  | .scrub r => s.scrub r
  | .abandon r crashed => s.abandon r crashed

end

end Liratek.Email.Outbox
