import Liratek.Email.Outbox
import Liratek.Lib.Runs
import Mathlib.Tactic.Linarith

/-! An email is taken once by the provider, unless a run was taken for dead while it was sending, whatever runs overlap and
wherever they stop. -/

namespace Liratek.Email.OutboxRounds
open Lib Lib.Runs Outbox

/-! What happens to a row. -/

def isFinal (row : EmailRow) : Bool :=
  row.status = .accepted || row.status = .failed

/-- The same email; and once it has an end, nothing of it changes but its variables. -/
structure SameEmail (row row' : EmailRow) : Prop where
  key : row'.idempotencyKey = row.idempotencyKey
  toEmail : row'.toEmail = row.toEmail
  giveUpAt : row'.giveUpAt = row.giveUpAt
  final : isFinal row = true → row' = { row with data := row'.data }

theorem SameEmail.refl (row : EmailRow) : SameEmail row row :=
  ⟨rfl, rfl, rfl, fun _ => rfl⟩

theorem SameEmail.isFinal {row row' : EmailRow} (same : SameEmail row row') (final : isFinal row = true) :
    OutboxRounds.isFinal row' = true := by
  rw [same.final final]
  exact final

theorem SameEmail.trans {a b c : EmailRow} (first : SameEmail a b) (second : SameEmail b c) : SameEmail a c := by
  refine ⟨second.key.trans first.key, second.toEmail.trans first.toEmail, second.giveUpAt.trans first.giveUpAt, fun final => ?_⟩
  rw [second.final (first.isFinal final), first.final final]

/-- Every row is changed to one of the same email, and none is added or lost. -/
def Edits (o o' : Table EmailRow) : Prop :=
  ∀ id, Option.Rel SameEmail (o.get id) (o'.get id)

theorem rel_refl : ∀ row : Option EmailRow, Option.Rel SameEmail row row
  | none => .none
  | some row => .some (SameEmail.refl row)

theorem edits_refl (o : Table EmailRow) : Edits o o :=
  fun _ => rel_refl _

section
variable {o : Table EmailRow} {id : ℕ} {when' : EmailRow → Bool} {change : EmailRow → EmailRow}

theorem edits_updateIf (same : ∀ row, when' row = true → SameEmail row (change row)) : Edits o (o.updateIf id when' change).1 := by
  intro other
  by_cases isIt : other = id
  · rw [isIt, Table.updateIf_self]
    cases o.get id with
    | none => exact .none
    | some row =>
      refine .some ?_
      dsimp only
      split_ifs with holds
      · exact same row holds
      · exact SameEmail.refl row
  · rw [Table.updateIf_other isIt]
    exact rel_refl _

end

theorem not_final_of_open {row : EmailRow} (open' : isOpen row = true) : isFinal row = false := by
  unfold isOpen isFinal at *
  cases status : row.status <;> rw [status] at open' <;> simp_all

theorem sameEmail_of_open {row row' : EmailRow} (open' : isOpen row = true) (key : row'.idempotencyKey = row.idempotencyKey)
    (toEmail : row'.toEmail = row.toEmail) (giveUpAt : row'.giveUpAt = row.giveUpAt) : SameEmail row row' := by
  refine ⟨key, toEmail, giveUpAt, fun final => ?_⟩
  rw [not_final_of_open open'] at final
  cases final

theorem open_of_pending {row : EmailRow} (pending : decide (row.status = .pending) = true) : isOpen row = true := by
  unfold isOpen
  rw [pending]
  rfl

theorem open_of_sending {row : EmailRow} (sending : decide (row.status = .sending) = true) : isOpen row = true := by
  unfold isOpen
  rw [sending, Bool.or_true]

/-! Counting rounds. -/

def holds (p : Bool) : ℤ :=
  if p then 1 else 0

structure RowCounts where
  locked : ℤ
  /-- being sent, or sent -/
  lit : ℤ
  attempts : ℤ

def rowCounts : Option EmailRow → RowCounts
  | none => ⟨0, 0, 0⟩
  | some row => ⟨holds (row.status = .sending), holds (row.status = .sending || row.status = .accepted), row.attempts⟩

structure RunCounts where
  inHand : ℤ
  /-- in hand, and the provider has not taken the email -/
  untaken : ℤ
  /-- attempts that the round may still make -/
  left : ℤ
  /-- attempts that the row does not count yet -/
  made : ℤ

def RunCounts.none : RunCounts :=
  ⟨0, 0, 0, 0⟩

def runCounts (id : ℕ) (run : Run) : RunCounts :=
  match run.phase with
  | .late i => if i = id then ⟨1, 1, 0, 0⟩ else .none
  | .trying i _ attempt => if i = id then ⟨1, 1, emailOutboxAttemptsPerRound + 1 - attempt, attempt - 1⟩ else .none
  | .ended i _ (.error _) attemptsMade => if i = id then ⟨1, 1, 0, attemptsMade⟩ else .none
  | .ended i _ (.ok _) attemptsMade => if i = id then ⟨1, 0, 0, attemptsMade⟩ else .none
  | .idle | .scrubbing _ _ => .none

structure LogCounts where
  recovered : ℤ
  claimed : ℤ
  sent : ℤ
  acknowledged : ℤ

def logCounts (id : ℕ) : List Event → LogCounts
  | [] => ⟨0, 0, 0, 0⟩
  | event :: rest =>
    let counts := logCounts id rest
    match event with
    | .recovered i => { counts with recovered := counts.recovered + holds (i = id) }
    | .claimed i => { counts with claimed := counts.claimed + holds (i = id) }
    | .sent i _ => { counts with sent := counts.sent + holds (i = id) }
    | .acknowledged i _ => { counts with acknowledged := counts.acknowledged + holds (i = id) }
    | .unscrubbed _ => counts

def LogCounts.add (x y : LogCounts) : LogCounts :=
  ⟨x.recovered + y.recovered, x.claimed + y.claimed, x.sent + y.sent, x.acknowledged + y.acknowledged⟩

theorem logCounts_append (id : ℕ) (events log : List Event) : logCounts id (events ++ log) = (logCounts id events).add (logCounts id log) := by
  induction events with
  | nil => simp [LogCounts.add, logCounts]
  | cons event rest ih =>
    rw [List.cons_append]
    cases event <;> simp [logCounts, ih, LogCounts.add, add_right_comm]

/-- One round at a time, one email taken, two attempts a round, but for rows recovered while they were being sent. -/
structure Tallied (s : System) (id : ℕ) : Prop where
  rounds : s.runs.total (fun run => (runCounts id run).inHand) ≤ (logCounts id s.log).recovered + (rowCounts (s.outbox.get id)).locked
  taken : (logCounts id s.log).acknowledged + s.runs.total (fun run => (runCounts id run).untaken) ≤
    (logCounts id s.log).recovered + (rowCounts (s.outbox.get id)).lit
  sends : (logCounts id s.log).sent + s.runs.total (fun run => (runCounts id run).left) ≤
    emailOutboxAttemptsPerRound * (logCounts id s.log).claimed
  attempts : (rowCounts (s.outbox.get id)).attempts + s.runs.total (fun run => (runCounts id run).made) ≤ (logCounts id s.log).sent

/-- A run moves on: what each count may gain. -/
structure Gains (before after : RunCounts) (row row' : RowCounts) (log : LogCounts) : Prop where
  rounds : after.inHand + row.locked ≤ before.inHand + log.recovered + row'.locked
  taken : log.acknowledged + after.untaken + row.lit ≤ before.untaken + log.recovered + row'.lit
  sends : log.sent + after.left ≤ before.left + emailOutboxAttemptsPerRound * log.claimed
  attempts : row'.attempts + after.made ≤ row.attempts + before.made + log.sent

theorem Tallied.step {s s' : System} {id r : ℕ} {run : Run} {change : Run → Run} (tallied : Tallied s id)
    (found : s.runs.get r = some run) (runs : s'.runs = s.runs.update r change) (events : List Event) (log : s'.log = events ++ s.log)
    (gains : Gains (runCounts id run) (runCounts id (change run)) (rowCounts (s.outbox.get id)) (rowCounts (s'.outbox.get id))
      (logCounts id events)) : Tallied s' id := by
  have moved (f : Run → ℤ) : s'.runs.total f = s.runs.total f - f run + f (change run) := by
    rw [runs, Table.total_update found]
  refine ⟨?_, ?_, ?_, ?_⟩ <;> rw [moved, log, logCounts_append] <;> dsimp only [LogCounts.add]
  · linarith [tallied.rounds, gains.rounds]
  · linarith [tallied.taken, gains.taken]
  · linarith [tallied.sends, gains.sends]
  · linarith [tallied.attempts, gains.attempts]

def eventRow : Event → ℕ
  | .recovered id | .claimed id | .sent id _ | .acknowledged id _ | .unscrubbed id => id

def phaseRow : Phase → Option ℕ
  | .late id | .trying id _ _ | .ended id _ _ _ => some id
  | .idle | .scrubbing _ _ => none

theorem runCounts_other {i : ℕ} {run : Run} (other : phaseRow run.phase ≠ some i) : runCounts i run = .none := by
  unfold runCounts
  cases phase : run.phase with
  | late id =>
    rw [phase] at other
    exact if_neg fun same => other (congrArg some same)
  | trying id row attempt =>
    rw [phase] at other
    exact if_neg fun same => other (congrArg some same)
  | ended id row outcome attemptsMade =>
    rw [phase] at other
    cases outcome <;> exact if_neg fun same => other (congrArg some same)
  | idle => rfl
  | scrubbing => rfl

theorem logCounts_other {i : ℕ} {events : List Event} (other : ∀ event ∈ events, eventRow event ≠ i) : logCounts i events = ⟨0, 0, 0, 0⟩ := by
  induction events with
  | nil => rfl
  | cons event rest ih =>
    obtain ⟨here, others⟩ := List.forall_mem_cons.mp other
    cases event <;> simp [logCounts, ih others, holds] <;> simpa [eventRow] using here

/-- A step about one row: the counts of that row decide. -/
theorem tallied_of_row {s s' : System} {id r : ℕ} {run : Run} {change : Run → Run} (tallied : ∀ i, Tallied s i)
    (found : s.runs.get r = some run) (runs : s'.runs = s.runs.update r change) (events : List Event) (log : s'.log = events ++ s.log)
    (about : ∀ event ∈ events, eventRow event = id) (others : ∀ i, i ≠ id → s'.outbox.get i = s.outbox.get i)
    (phase : ∀ i, phaseRow run.phase = some i → i = id) (phase' : ∀ i, phaseRow (change run).phase = some i → i = id)
    (gains : Gains (runCounts id run) (runCounts id (change run)) (rowCounts (s.outbox.get id)) (rowCounts (s'.outbox.get id))
      (logCounts id events)) (i : ℕ) : Tallied s' i := by
  by_cases isIt : i = id
  · rw [isIt]
    exact (tallied id).step found runs events log gains
  · refine (tallied i).step found runs events log ?_
    rw [others i isIt, runCounts_other fun same => isIt (phase i same), runCounts_other fun same => isIt (phase' i same),
      logCounts_other fun event member same => isIt (same.symm.trans (about event member))]
    constructor <;> simp [RunCounts.none]

/-! The steps of a run. -/

section
variable {renderTemplate : String → EmailTemplateData → Except String Unit} {secretDataKeys secrets : List String} {s : System}
  {i id r : ℕ} {now : ℤ} {row : EmailRow}

theorem claim_get (claimed : (claim s.outbox id now).2 = true) :
    ∃ current, s.outbox.get id = some current ∧ current.status = .pending ∧
      (claim s.outbox id now).1.get id = some { current with status := .sending, lockedAt := some now } := by
  obtain ⟨current, found, pending⟩ := Table.updateIf_changed claimed
  refine ⟨current, found, of_decide_eq_true pending, ?_⟩
  unfold claim
  rw [Table.updateIf_self, found, Option.map_some, if_pos pending]

/-- Where a run is once it has claimed a row. -/
theorem beginning_cases (renderTemplate : String → EmailTemplateData → Except String Unit) (now : ℤ) (id : ℕ) (row : EmailRow) :
    row.giveUpAt ≤ now ∧ System.beginning renderTemplate now id row = .late id ∨
      now < row.giveUpAt ∧ (System.beginning renderTemplate now id row = .trying id row 1 ∨
        ∃ error, System.beginning renderTemplate now id row = .ended id row (.error error) 0) := by
  unfold System.beginning
  split_ifs with late
  · exact .inl ⟨late, rfl⟩
  · refine .inr ⟨not_le.mp late, ?_⟩
    cases renderTemplate row.template row.data with
    | error error => exact .inr ⟨_, rfl⟩
    | ok _ => exact .inl rfl

theorem claimed_tallied {rest : List (ℕ × EmailRow)} (tallied : ∀ i, Tallied s i)
    (found : s.runs.get r = some { now, queue := (id, row) :: rest }) (claimed : (claim s.outbox id now).2 = true) (i : ℕ) :
    Tallied (({ s with outbox := (claim s.outbox id now).1 }.record (.claimed id)).setRun r fun run =>
        { run with queue := rest, phase := System.beginning renderTemplate now id row }) i := by
  obtain ⟨current, there, pending, isClaimed⟩ := claim_get claimed
  have others (i : ℕ) (ne : i ≠ id) : (claim s.outbox id now).1.get i = s.outbox.get i := Table.updateIf_other ne
  rcases beginning_cases renderTemplate now id row with ⟨_, phase⟩ | ⟨_, phase | ⟨error, phase⟩⟩
  all_goals
    rw [phase]
    refine tallied_of_row tallied found rfl [.claimed id] rfl (by simp [eventRow]) others (fun i none => by cases none)
      (by intro i same; exact (Option.some.inj same).symm) ?_ i
    dsimp only [System.setRun, System.record]
    rw [there, isClaimed]
    constructor <;> simp [runCounts, rowCounts, logCounts, RunCounts.none, holds, pending, emailOutboxAttemptsPerRound]

/-- A run that stays without a row. -/
theorem gains_none {row : RowCounts} : Gains .none .none row row ⟨0, 0, 0, 0⟩ := by
  constructor <;> simp [RunCounts.none]

theorem next_tallied (tallied : ∀ i, Tallied s i) (i : ℕ) : Tallied (s.next renderTemplate r) i := by
  unfold System.next
  split
  · next now id row rest found =>
    dsimp only
    by_cases claimed : (claim s.outbox id now).2 = true
    · rw [if_pos claimed]
      exact claimed_tallied tallied found claimed i
    · rw [if_neg claimed]
      exact (tallied i).step found rfl [] rfl gains_none
  · exact tallied i

theorem answered_tallied {answer : SendResult} (tallied : ∀ i, Tallied s i)
    (inRound : ∀ r run id row attempt, s.runs.get r = some run → run.phase = .trying id row attempt →
      1 ≤ attempt ∧ attempt ≤ emailOutboxAttemptsPerRound) (i : ℕ) : Tallied (s.answered r answer) i := by
  unfold System.answered
  split
  · next now queue id row attempt found =>
    obtain ⟨first, last⟩ := inRound _ _ _ _ _ found rfl
    have last' : (attempt : ℤ) ≤ 2 := by exact_mod_cast last
    cases answer with
    | ok messageId =>
      dsimp only [System.setRun, System.record, System.afterAttempt]
      refine tallied_of_row tallied found (by rfl) [.acknowledged id messageId, .sent id now] (by rfl) (by simp [eventRow])
        (by intro _ _; rfl) (fun i same => (Option.some.inj same).symm) (by intro i same; exact (Option.some.inj same).symm) ?_ i
      constructor <;> simp [runCounts, logCounts, holds, emailOutboxAttemptsPerRound] <;> linarith
    | error error =>
      dsimp only [System.setRun, System.record, System.afterAttempt]
      refine tallied_of_row tallied found (by rfl) [.sent id now] (by rfl) (by simp [eventRow]) (by intro _ _; rfl)
        (fun i same => (Option.some.inj same).symm) (fun i same => ?_) ?_ i
      · dsimp only at same
        split_ifs at same <;> exact (Option.some.inj same).symm
      · dsimp only
        split_ifs with permanent again
        · constructor <;> simp [runCounts, logCounts, holds, emailOutboxAttemptsPerRound] <;> linarith
        · constructor <;> simp [runCounts, logCounts, holds, emailOutboxAttemptsPerRound] <;> linarith
        · have full : (2 : ℤ) ≤ attempt := by exact_mod_cast not_lt.mp again
          constructor <;> simp [runCounts, logCounts, holds, emailOutboxAttemptsPerRound] <;> linarith
  · exact tallied i

/-- What marking a row may change of its counts. -/
structure Marked (row row' : RowCounts) (attemptsMade : ℕ) : Prop where
  locked : row.locked ≤ 1 + row'.locked
  lit : row.lit ≤ 1 + row'.lit
  attempts : row'.attempts ≤ row.attempts + attemptsMade

theorem holds_le (p : Bool) : holds p ≤ 1 := by
  cases p <;> decide

theorem holds_nonneg (p : Bool) : 0 ≤ holds p := by
  cases p <;> decide

theorem marked_updateIf {o : Table EmailRow} {when' : EmailRow → Bool} {change : EmailRow → EmailRow} {attemptsMade : ℕ}
    (counts : ∀ row, when' row = true → (change row).attempts = row.attempts + attemptsMade) :
    Marked (rowCounts (o.get id)) (rowCounts ((o.updateIf id when' change).1.get id)) attemptsMade := by
  rw [Table.updateIf_self]
  cases o.get id with
  | none => constructor <;> simp [rowCounts]
  | some row =>
    rw [Option.map_some]
    refine ⟨?_, ?_, ?_⟩
    · exact (holds_le _).trans (le_add_of_nonneg_right (holds_nonneg _))
    · exact (holds_le _).trans (le_add_of_nonneg_right (holds_nonneg _))
    · dsimp only [rowCounts]
      split_ifs with chosen
      · rw [counts row chosen]
        push_cast
        exact le_rfl
      · linarith [Int.natCast_nonneg attemptsMade]

/-- An accepted row is still counted as sent. -/
theorem lit_markAccepted (o : Table EmailRow) (id : ℕ) (messageId : Option String) (now : ℤ) (attemptsMade : ℕ) :
    (rowCounts (o.get id)).lit = (rowCounts ((markAccepted o id messageId now attemptsMade).1.get id)).lit := by
  unfold markAccepted
  rw [Table.updateIf_self]
  cases o.get id with
  | none => rfl
  | some row =>
    rw [Option.map_some]
    dsimp only [rowCounts]
    split_ifs with sending
    · have isSending : row.status = .sending := of_decide_eq_true sending
      simp [isSending]
    · rfl

theorem finish_tallied (tallied : ∀ i, Tallied s i) (i : ℕ) : Tallied (s.finish secretDataKeys secrets r) i := by
  unfold System.finish
  split
  · next now queue id row outcome attemptsMade found =>
    cases outcome with
    | ok messageId =>
      dsimp only [System.setRun]
      have marked : Marked (rowCounts (s.outbox.get id)) (rowCounts ((markAccepted s.outbox id messageId now attemptsMade).1.get id))
          attemptsMade := marked_updateIf fun _ _ => rfl
      have lit := lit_markAccepted s.outbox id messageId now attemptsMade
      refine tallied_of_row tallied found (by rfl) [] (by rfl) (by simp) (fun i ne => Table.updateIf_other ne)
        (fun i same => (Option.some.inj same).symm) (by intro i none; cases none) ?_ i
      constructor <;> simp [runCounts, RunCounts.none, logCounts] <;> linarith [marked.locked, marked.attempts]
    | error error =>
      dsimp only [System.handleSendFailure, System.setRun]
      split_ifs with givesUp
      · have marked : Marked (rowCounts (s.outbox.get id))
            (rowCounts ((markFailed s.outbox id (redactSecrets error.text secrets) attemptsMade).1.get id)) attemptsMade :=
          marked_updateIf fun _ _ => rfl
        refine tallied_of_row tallied found (by rfl) [] (by rfl) (by simp) (fun i ne => Table.updateIf_other ne)
          (fun i same => (Option.some.inj same).symm) (by intro i none; cases none) ?_ i
        constructor <;> simp [runCounts, RunCounts.none, logCounts] <;> linarith [marked.locked, marked.lit, marked.attempts]
      · have marked : Marked (rowCounts (s.outbox.get id)) (rowCounts ((markRetry s.outbox id (redactSecrets error.text secrets)
            (now + emailOutboxRetryDelayMs) attemptsMade).1.get id)) attemptsMade := marked_updateIf fun _ _ => rfl
        refine tallied_of_row tallied found (by rfl) [] (by rfl) (by simp) (fun i ne => Table.updateIf_other ne)
          (fun i same => (Option.some.inj same).symm) (by intro i none; cases none) ?_ i
        constructor <;> simp [runCounts, RunCounts.none, logCounts] <;> linarith [marked.locked, marked.lit, marked.attempts]
  · next now queue id found =>
    dsimp only [System.setRun]
    have marked : Marked (rowCounts (s.outbox.get id)) (rowCounts ((markFailed s.outbox id "gave up: past give_up_at" 0).1.get id)) 0 :=
      marked_updateIf fun _ _ => rfl
    refine tallied_of_row tallied found (by rfl) [] (by rfl) (by simp) (fun i ne => Table.updateIf_other ne)
      (fun i same => (Option.some.inj same).symm) (by intro i none; cases none) ?_ i
    have attempts := marked.attempts
    rw [Nat.cast_zero, add_zero] at attempts
    constructor <;> simp [runCounts, RunCounts.none, logCounts] <;> linarith [marked.locked, marked.lit]
  · exact tallied i

theorem rowCounts_scrub (o : Table EmailRow) (id : ℕ) (key : String) (i : ℕ) :
    rowCounts ((scrubSecret o id key).get i) = rowCounts (o.get i) := by
  unfold scrubSecret
  by_cases isIt : i = id
  · rw [isIt, Table.get_update_self]
    cases o.get id <;> rfl
  · rw [Table.get_update_of_ne _ _ isIt]

theorem scrub_tallied (tallied : ∀ i, Tallied s i) (i : ℕ) : Tallied (s.scrub r) i := by
  unfold System.scrub
  split
  · next now queue id key rest found =>
    refine (tallied i).step found (by rfl) [] (by rfl) ?_
    dsimp only [System.setRun]
    rw [rowCounts_scrub]
    exact gains_none
  · next now queue id found =>
    refine (tallied i).step found (by rfl) [] (by rfl) ?_
    exact gains_none
  · exact tallied i

theorem runCounts_nonneg (id : ℕ) {run : Run} (inRound : ∀ i row attempt, run.phase = .trying i row attempt →
      1 ≤ attempt ∧ attempt ≤ emailOutboxAttemptsPerRound) :
    0 ≤ (runCounts id run).inHand ∧ 0 ≤ (runCounts id run).untaken ∧ 0 ≤ (runCounts id run).left ∧ 0 ≤ (runCounts id run).made := by
  have one : (0 : ℤ) ≤ 1 := zero_le_one
  unfold runCounts
  cases phase : run.phase with
  | idle => exact ⟨le_rfl, le_rfl, le_rfl, le_rfl⟩
  | scrubbing => exact ⟨le_rfl, le_rfl, le_rfl, le_rfl⟩
  | late i =>
    dsimp only
    split_ifs
    · exact ⟨one, one, le_rfl, le_rfl⟩
    · exact ⟨le_rfl, le_rfl, le_rfl, le_rfl⟩
  | trying i row attempt =>
    obtain ⟨first, last⟩ := inRound i row attempt phase
    have last' : (attempt : ℤ) ≤ 2 := by exact_mod_cast last
    have first' : (1 : ℤ) ≤ attempt := by exact_mod_cast first
    dsimp only
    split_ifs
    · refine ⟨one, one, ?_, ?_⟩ <;> simp [emailOutboxAttemptsPerRound] <;> linarith
    · exact ⟨le_rfl, le_rfl, le_rfl, le_rfl⟩
  | ended i row outcome attemptsMade =>
    cases outcome with
    | error error =>
      dsimp only
      split_ifs
      · exact ⟨one, one, le_rfl, Int.natCast_nonneg _⟩
      · exact ⟨le_rfl, le_rfl, le_rfl, le_rfl⟩
    | ok messageId =>
      dsimp only
      split_ifs
      · exact ⟨one, le_rfl, le_rfl, Int.natCast_nonneg _⟩
      · exact ⟨le_rfl, le_rfl, le_rfl, le_rfl⟩

theorem abandon_tallied {crashed : Bool} (tallied : ∀ i, Tallied s i)
    (inRound : ∀ r run id row attempt, s.runs.get r = some run → run.phase = .trying id row attempt →
      1 ≤ attempt ∧ attempt ≤ emailOutboxAttemptsPerRound) (i : ℕ) : Tallied (s.abandon r crashed) i := by
  unfold System.abandon
  split
  · exact tallied i
  · next run found =>
    obtain ⟨hand, untaken, left, made⟩ := runCounts_nonneg i fun id row attempt => inRound r run id row attempt found
    have gains (row : RowCounts) : Gains (runCounts i run) .none row row ⟨0, 0, 0, 0⟩ := by
      constructor <;> simp [RunCounts.none, hand, untaken, left, made]
    dsimp only
    split
    · next id _ _ _ =>
      refine (tallied i).step found (by rfl) [.unscrubbed id] (by rfl) ?_
      exact gains _
    · refine (tallied i).step found (by rfl) [] (by rfl) ?_
      exact gains _

/-- Each stuck row is recovered once. -/
theorem logCounts_recovered {ids : List ℕ} (distinct : ids.Nodup) (i : ℕ) :
    logCounts i (ids.map .recovered) = ⟨holds (i ∈ ids), 0, 0, 0⟩ := by
  induction ids with
  | nil => rfl
  | cons id rest ih =>
    obtain ⟨fresh, distinct⟩ := List.nodup_cons.mp distinct
    rw [List.map_cons]
    simp only [logCounts, ih distinct, holds]
    by_cases isIt : id = i
    · have notAgain : i ∉ rest := isIt ▸ fresh
      simp [isIt, notAgain]
    · simp [isIt, Ne.symm isIt]

theorem start_tallied (tallied : ∀ i, Tallied s i) (i : ℕ) : Tallied (s.start now) i := by
  have added (f : Run → ℤ) (none : ∀ run : Run, run.phase = .idle → f run = 0) : (s.start now).runs.total f = s.runs.total f := by
    unfold System.start
    dsimp only
    rw [Table.total_insert, none _ rfl, add_zero]
  have idle (f : RunCounts → ℤ) (zero : f .none = 0) (run : Run) (isIdle : run.phase = .idle) : f (runCounts i run) = 0 := by
    unfold runCounts
    rw [isIdle]
    exact zero
  have log : (s.start now).log = ((s.outbox.select (isStuck (now - emailOutboxStuckAfterMs))).map (·.1)).map .recovered ++ s.log := rfl
  have recovered : (rowCounts (s.outbox.get i)).locked ≤
      holds (i ∈ (s.outbox.select (isStuck (now - emailOutboxStuckAfterMs))).map (·.1)) + (rowCounts ((s.start now).outbox.get i)).locked ∧
      (rowCounts (s.outbox.get i)).lit ≤
        holds (i ∈ (s.outbox.select (isStuck (now - emailOutboxStuckAfterMs))).map (·.1)) + (rowCounts ((s.start now).outbox.get i)).lit ∧
      (rowCounts ((s.start now).outbox.get i)).attempts = (rowCounts (s.outbox.get i)).attempts := by
    unfold System.start recoverStuck
    dsimp only
    rw [Table.get_updateWhere]
    cases found : s.outbox.get i with
    | none => simp [rowCounts, holds_nonneg]
    | some row =>
      rw [Option.map_some]
      dsimp only [rowCounts]
      split_ifs with stuck
      · have chosen : i ∈ (s.outbox.select (isStuck (now - emailOutboxStuckAfterMs))).map (·.1) :=
          List.mem_map.mpr ⟨(i, row), Table.mem_select.mpr ⟨found, stuck⟩, rfl⟩
        rw [decide_eq_true chosen]
        exact ⟨(holds_le _).trans (le_add_of_nonneg_right (holds_nonneg _)),
          (holds_le _).trans (le_add_of_nonneg_right (holds_nonneg _)), rfl⟩
      · exact ⟨le_add_of_nonneg_left (holds_nonneg _), le_add_of_nonneg_left (holds_nonneg _), rfl⟩
  have before := tallied i
  refine ⟨?_, ?_, ?_, ?_⟩
  all_goals
    rw [added _ (idle _ rfl), log, logCounts_append, logCounts_recovered (s.outbox.select_nodup _)]
    dsimp only [LogCounts.add]
  · linarith [before.rounds]
  · linarith [before.taken]
  · linarith [before.sends]
  · linarith [before.attempts]

theorem enqueue_tallied {data : EnqueueEmailData} (tallied : ∀ i, Tallied s i) (i : ℕ) :
    Tallied { s with outbox := enqueue s.outbox data } i := by
  have same : rowCounts ((enqueue s.outbox data).get i) = rowCounts (s.outbox.get i) := by
    unfold enqueue
    split_ifs
    · rfl
    · by_cases isNew : i = s.outbox.nextId
      · rw [isNew, Table.get_insert_self, Table.get_of_le le_rfl]
        rfl
      · rw [Table.get_insert_of_ne _ _ isNew]
  have before := tallied i
  exact ⟨by rw [same]; exact before.rounds, by rw [same]; exact before.taken, before.sends, by rw [same]; exact before.attempts⟩

end

end Liratek.Email.OutboxRounds
