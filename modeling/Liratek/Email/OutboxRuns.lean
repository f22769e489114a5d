import Liratek.Email.OutboxRounds

/-! Whole runs of the email outbox: an email is sent in time, keeps its end once it has one, and its secrets go with that end. -/

namespace Liratek.Email.OutboxRuns
open Lib Lib.Runs Outbox OutboxRounds

def recoveries (s : System) (id : ℕ) : ℤ :=
  (logCounts id s.log).recovered

/-- A later state: every row is still there, as the same email. While it was never recovered, it is whole as long as it has no end. -/
structure Later (s s' : System) : Prop where
  rows : ∀ id row, s.outbox.get id = some row → ∃ row', s'.outbox.get id = some row' ∧ SameEmail row row' ∧
    (recoveries s' id = 0 → isFinal row' = false → row'.data = row.data)
  recoveries : ∀ id, recoveries s id ≤ recoveries s' id

theorem Later.refl (s : System) : Later s s :=
  ⟨fun _ row found => ⟨row, found, SameEmail.refl row, fun _ _ => rfl⟩, fun _ => le_rfl⟩

theorem recoveries_nonneg (s : System) (id : ℕ) : 0 ≤ recoveries s id := by
  unfold recoveries
  induction s.log with
  | nil => exact le_rfl
  | cons event rest ih =>
    cases event with
    | recovered i => exact add_nonneg ih (holds_nonneg _)
    | claimed | sent | acknowledged | unscrubbed => exact ih

theorem Later.trans {a b c : System} (first : Later a b) (second : Later b c) : Later a c := by
  refine ⟨fun id row found => ?_, fun id => (first.recoveries id).trans (second.recoveries id)⟩
  obtain ⟨row', found', same, data⟩ := first.rows id row found
  obtain ⟨row'', found'', same', data'⟩ := second.rows id row' found'
  refine ⟨row'', found'', same.trans same', fun never open' => ?_⟩
  have neverBefore : OutboxRuns.recoveries b id = 0 :=
    le_antisymm (never ▸ second.recoveries id) (recoveries_nonneg b id)
  have openBefore : isFinal row' = false := by
    by_contra final
    rw [same'.isFinal (by simpa using final)] at open'
    cases open'
  rw [data' never open', data neverBefore openBefore]

/-- What a run may rely on, by where it is. -/
def Relies (s : System) (now : ℤ) : Phase → Prop
  | .idle => True
  | .late id => ∃ row', s.outbox.get id = some row'
  | .trying id row attempt => (1 ≤ attempt ∧ attempt ≤ emailOutboxAttemptsPerRound) ∧ now < row.giveUpAt ∧
      ∃ row', s.outbox.get id = some row' ∧ row'.giveUpAt = row.giveUpAt
  | .ended id _ outcome _ => (∃ row', s.outbox.get id = some row') ∧
      ∀ messageId, outcome = .ok messageId → .acknowledged id messageId ∈ s.log
  | .scrubbing id _ => ∃ row', s.outbox.get id = some row' ∧ (recoveries s id = 0 → isFinal row' = true)

theorem Relies.later {s s' : System} {now : ℤ} {phase : Phase} (relies : Relies s now phase) (later : Later s s')
    (log : s.log ⊆ s'.log) : Relies s' now phase := by
  cases phase with
  | idle => trivial
  | late id =>
    obtain ⟨row, found⟩ := relies
    obtain ⟨row', found', -⟩ := later.rows id row found
    exact ⟨row', found'⟩
  | trying id row attempt =>
    obtain ⟨inRound, inTime, current, found, same⟩ := relies
    obtain ⟨row', found', same', -⟩ := later.rows id current found
    exact ⟨inRound, inTime, row', found', same'.giveUpAt.trans same⟩
  | ended id row outcome attemptsMade =>
    obtain ⟨⟨current, found⟩, acknowledged⟩ := relies
    obtain ⟨row', found', -⟩ := later.rows id current found
    exact ⟨⟨row', found'⟩, fun messageId taken => log (acknowledged messageId taken)⟩
  | scrubbing id keys =>
    obtain ⟨current, found, final⟩ := relies
    obtain ⟨row', found', same, -⟩ := later.rows id current found
    refine ⟨row', found', fun never => same.isFinal (final ?_)⟩
    exact le_antisymm (never ▸ later.recoveries id) (recoveries_nonneg s id)

section
variable {renderTemplate : String → EmailTemplateData → Except String Unit} {secretDataKeys secrets : List String} {s : System}

def hasSecret (row : EmailRow) (key : String) : Prop :=
  key ∈ row.data.map (·.1)

/-- A secret of a row that has an end: a run is removing it, or has stopped before it did. -/
def Removing (s : System) (id : ℕ) (key : String) : Prop :=
  .unscrubbed id ∈ s.log ∨ ∃ r run keys, s.runs.get r = some run ∧ run.phase = .scrubbing id keys ∧ key ∈ keys

variable (secretDataKeys) in
structure Kept (s : System) : Prop where
  tallied : ∀ id, Tallied s id
  keys : ∀ id id' row row', s.outbox.get id = some row → s.outbox.get id' = some row' →
    row.idempotencyKey = row'.idempotencyKey → id = id'
  queue : ∀ r run, s.runs.get r = some run → ∀ id row, (id, row) ∈ run.queue →
    ∃ row', s.outbox.get id = some row' ∧ row'.giveUpAt = row.giveUpAt
  phase : ∀ r run, s.runs.get r = some run → Relies s run.now run.phase
  sent : ∀ id now, .sent id now ∈ s.log → ∃ row, s.outbox.get id = some row ∧ now < row.giveUpAt
  accepted : ∀ id row, s.outbox.get id = some row → row.status = .accepted → .acknowledged id row.providerMessageId ∈ s.log
  scrubbed : ∀ id row, s.outbox.get id = some row → isFinal row = true → ∀ key ∈ secretDataKeys, hasSecret row key → Removing s id key

theorem Kept.inRound (kept : Kept secretDataKeys s) (r : ℕ) (run : Run) (id : ℕ) (row : EmailRow) (attempt : ℕ)
    (found : s.runs.get r = some run) (phase : run.phase = .trying id row attempt) :
    1 ≤ attempt ∧ attempt ≤ emailOutboxAttemptsPerRound := by
  have relies := kept.phase r run found
  rw [phase] at relies
  exact relies.1

theorem kept_empty : Kept secretDataKeys {} where
  tallied _ := ⟨le_rfl, le_rfl, le_rfl, le_rfl⟩
  keys _ _ _ _ found := by cases found
  queue _ _ found := by cases found
  phase _ _ found := by cases found
  sent _ _ member := by cases member
  accepted _ _ found := by cases found
  scrubbed _ _ found := by cases found

theorem logCounts_recoveries {s s' : System} {events : List Event} (log : s'.log = events ++ s.log) (id : ℕ) :
    recoveries s' id = (logCounts id events).recovered + recoveries s id := by
  unfold recoveries
  rw [log, logCounts_append]
  rfl

theorem rel_left {before after : Option EmailRow} {row : EmailRow} (rel : Option.Rel SameEmail before after) (found : before = some row) :
    ∃ row', after = some row' ∧ SameEmail row row' := by
  cases rel with
  | none => cases found
  | some same => exact ⟨_, rfl, (Option.some.inj found) ▸ same⟩

theorem rel_right {before after : Option EmailRow} {row' : EmailRow} (rel : Option.Rel SameEmail before after)
    (found : after = some row') : ∃ row, before = some row ∧ SameEmail row row' := by
  cases rel with
  | none => cases found
  | some same => exact ⟨_, rfl, (Option.some.inj found) ▸ same⟩

theorem later_of_edits {s s' : System} (edits : Edits s.outbox s'.outbox) (recoveries : ∀ id, recoveries s id ≤ recoveries s' id)
    (data : ∀ id row row', s.outbox.get id = some row → s'.outbox.get id = some row' →
      OutboxRuns.recoveries s' id = 0 → isFinal row' = false → row'.data = row.data) : Later s s' := by
  refine ⟨fun id row found => ?_, recoveries⟩
  obtain ⟨row', found', same⟩ := rel_left (edits id) found
  exact ⟨row', found', same, data id row row' found found'⟩

theorem later_of_same {s s' : System} (outbox : s'.outbox = s.outbox) (recoveries : ∀ id, recoveries s id ≤ recoveries s' id) :
    Later s s' :=
  ⟨fun _ row found => ⟨row, outbox ▸ found, SameEmail.refl row, fun _ _ => rfl⟩, recoveries⟩

/-- A step of one run. -/
structure Moves (s s' : System) (r : ℕ) (run : Run) (change : Run → Run) : Prop where
  found : s.runs.get r = some run
  runs : s'.runs = s.runs.update r change
  edits : Edits s.outbox s'.outbox
  later : Later s s'
  log : s.log ⊆ s'.log
  now : (change run).now = run.now
  queue : (change run).queue ⊆ run.queue

theorem Moves.get {s' : System} {r : ℕ} {run : Run} {change : Run → Run} (moves : Moves s s' r run change) {r' : ℕ} {run' : Run}
    (found : s'.runs.get r' = some run') : r' = r ∧ run' = change run ∨ r' ≠ r ∧ s.runs.get r' = some run' := by
  rw [moves.runs] at found
  by_cases isIt : r' = r
  · rw [isIt, Table.get_update_self, moves.found] at found
    exact .inl ⟨isIt, (Option.some.inj found).symm⟩
  · rw [Table.get_update_of_ne _ _ isIt] at found
    exact .inr ⟨isIt, found⟩

/-- What a step of one run must show, so that the others keep what they rely on. -/
theorem Kept.moves {s' : System} {r : ℕ} {run : Run} {change : Run → Run} (kept : Kept secretDataKeys s)
    (moves : Moves s s' r run change) (tallied : ∀ id, Tallied s' id) (relies : Relies s' run.now (change run).phase)
    (sent : ∀ id now, .sent id now ∈ s'.log → .sent id now ∈ s.log ∨ ∃ row, s.outbox.get id = some row ∧ now < row.giveUpAt)
    (accepted : ∀ id row row', s.outbox.get id = some row → s'.outbox.get id = some row' → row'.status = .accepted →
      row.status = .accepted ∨ .acknowledged id row'.providerMessageId ∈ s'.log)
    (removes : ∀ id row', s'.outbox.get id = some row' → isFinal row' = true → ∀ key ∈ secretDataKeys, hasSecret row' key →
      .unscrubbed id ∈ s'.log ∨ (∃ keys, (change run).phase = .scrubbing id keys ∧ key ∈ keys) ∨
        ∃ row, s.outbox.get id = some row ∧ isFinal row = true ∧ hasSecret row key ∧
          ∀ keys, run.phase = .scrubbing id keys → key ∉ keys) : Kept secretDataKeys s' ∧ Later s s' := by
  refine ⟨?_, moves.later⟩
  exact {
    tallied := tallied
    keys id id' row row' found found' same := by
      obtain ⟨first, there, same₁⟩ := rel_right (moves.edits id) found
      obtain ⟨second, there', same₂⟩ := rel_right (moves.edits id') found'
      exact kept.keys id id' first second there there' (same₁.key.symm.trans (same.trans same₂.key))
    queue r' run' found id row member := by
      have before : ∃ row', s.outbox.get id = some row' ∧ row'.giveUpAt = row.giveUpAt := by
        rcases moves.get found with ⟨-, rfl⟩ | ⟨-, there⟩
        · exact kept.queue r run moves.found id row (moves.queue member)
        · exact kept.queue r' run' there id row member
      obtain ⟨row', there, same⟩ := before
      obtain ⟨row'', there', same', -⟩ := moves.later.rows id row' there
      exact ⟨row'', there', same'.giveUpAt.trans same⟩
    phase r' run' found := by
      rcases moves.get found with ⟨-, rfl⟩ | ⟨-, there⟩
      · rw [moves.now]
        exact relies
      · exact (kept.phase r' run' there).later moves.later moves.log
    sent id now member := by
      have before : ∃ row, s.outbox.get id = some row ∧ now < row.giveUpAt := by
        rcases sent id now member with earlier | new
        · exact kept.sent id now earlier
        · exact new
      obtain ⟨row, there, inTime⟩ := before
      obtain ⟨row', there', same, -⟩ := moves.later.rows id row there
      exact ⟨row', there', same.giveUpAt ▸ inTime⟩
    accepted id row' found isAccepted := by
      obtain ⟨row, there, same⟩ := rel_right (moves.edits id) found
      rcases accepted id row row' there found isAccepted with already | new
      · rw [same.final (by simp [isFinal, already])]
        exact moves.log (kept.accepted id row there already)
      · exact new
    scrubbed id row' found final key isSecret has := by
      rcases removes id row' found final key isSecret has with stopped | ⟨keys, phase, member⟩ | ⟨row, there, wasFinal, had, notIt⟩
      · exact .inl stopped
      · refine .inr ⟨r, change run, keys, ?_, phase, member⟩
        rw [moves.runs, Table.get_update_self, moves.found, Option.map_some]
      · rcases kept.scrubbed id row there wasFinal key isSecret had with stopped | ⟨r', run', keys, there', phase, member⟩
        · exact .inl (moves.log stopped)
        · have other : r' ≠ r := by
            rintro rfl
            rw [moves.found] at there'
            cases there'
            exact notIt keys phase member
          refine .inr ⟨r', run', keys, ?_, phase, member⟩
          rw [moves.runs, Table.get_update_of_ne _ _ other]
          exact there' }

/-! Each action keeps it. -/

theorem sameEmail_scrub (row : EmailRow) (key : String) : SameEmail row { row with data := row.data.filter (·.1 ≠ key) } :=
  ⟨rfl, rfl, rfl, fun _ => rfl⟩

theorem next_keeps {r : ℕ} (kept : Kept secretDataKeys s) : Kept secretDataKeys (s.next renderTemplate r) ∧ Later s (s.next renderTemplate r) := by
  have tallied : ∀ i, Tallied (s.next renderTemplate r) i := next_tallied kept.tallied
  unfold System.next at *
  split at *
  · next now id row rest found =>
    have sub : rest ⊆ (id, row) :: rest := List.subset_cons_self _ _
    dsimp only at *
    by_cases claimed : (claim s.outbox id now).2 = true
    · rw [if_pos claimed] at *
      have edits : Edits s.outbox (claim s.outbox id now).1 :=
        edits_updateIf fun _ pending => sameEmail_of_open (open_of_pending pending) rfl rfl rfl
      have later : Later s (({ s with outbox := (claim s.outbox id now).1 }.record (.claimed id)).setRun r fun run =>
          { run with queue := rest, phase := System.beginning renderTemplate now id row }) := by
        refine later_of_edits edits (fun _ => le_rfl) fun i before after there there' _ _ => ?_
        obtain ⟨row', was, same | ⟨-, -, same⟩⟩ := Table.get_updateIf there'
        all_goals
          rw [there] at was
          cases was
          rw [same]
      obtain ⟨listed, there, same⟩ := kept.queue r _ found id row List.mem_cons_self
      obtain ⟨claimedRow, there', same', -⟩ := later.rows id listed there
      refine kept.moves ⟨found, rfl, edits, later, List.subset_cons_self _ _, rfl, sub⟩ tallied ?_ ?_ ?_ ?_
      · rcases beginning_cases renderTemplate now id row with ⟨_, phase⟩ | ⟨inTime, phase | ⟨error, phase⟩⟩
        all_goals
          dsimp only
          rw [phase]
        · exact ⟨claimedRow, there'⟩
        · exact ⟨by decide, inTime, claimedRow, there', same'.giveUpAt.trans same⟩
        · exact ⟨⟨claimedRow, there'⟩, fun _ isOk => by cases isOk⟩
      · intro i time member
        rcases List.mem_cons.mp member with impossible | earlier
        · cases impossible
        · exact .inl earlier
      · intro i before after was is accepted
        obtain ⟨row', was', unchanged | ⟨-, -, sending⟩⟩ := Table.get_updateIf is
        · rw [was] at was'
          cases was'
          exact .inl (unchanged ▸ accepted)
        · rw [sending] at accepted
          cases accepted
      · intro i after is final key _ has
        obtain ⟨row', was, unchanged | ⟨-, -, sending⟩⟩ := Table.get_updateIf is
        · exact .inr (.inr ⟨row', was, unchanged ▸ final, unchanged ▸ has, fun _ none => by cases none⟩)
        · rw [sending] at final
          cases final
    · rw [if_neg claimed] at *
      refine kept.moves ⟨found, rfl, edits_refl _, later_of_same rfl fun _ => le_rfl, List.Subset.refl _, rfl, sub⟩ tallied trivial ?_ ?_ ?_
      · exact fun _ _ member => .inl member
      · intro i before after was is accepted
        rw [show s.outbox.get i = some after from is] at was
        cases was
        exact .inl accepted
      · exact fun i after is final key _ has => .inr (.inr ⟨after, is, final, has, fun _ none => by cases none⟩)
  · exact ⟨kept, Later.refl s⟩

theorem answered_keeps {r : ℕ} {answer : SendResult} (kept : Kept secretDataKeys s) : Kept secretDataKeys (s.answered r answer) ∧ Later s (s.answered r answer) := by
  have tallied : ∀ i, Tallied (s.answered r answer) i := answered_tallied kept.tallied kept.inRound
  unfold System.answered at *
  split at *
  · next now queue id row attempt found =>
    obtain ⟨⟨first, last⟩, inTime, current, there, same⟩ := kept.phase r _ found
    have inTime' : ∃ row, s.outbox.get id = some row ∧ now < row.giveUpAt := ⟨current, there, same ▸ inTime⟩
    have unchanged (s' : System) (outbox : s'.outbox = s.outbox) : ∀ i before after, s.outbox.get i = some before →
        s'.outbox.get i = some after → after.status = .accepted →
        before.status = .accepted ∨ .acknowledged i after.providerMessageId ∈ s'.log := by
      intro i before after was is accepted
      rw [outbox, was] at is
      cases is
      exact .inl accepted
    cases answer with
    | ok messageId =>
      refine kept.moves ⟨found, rfl, edits_refl _, later_of_same rfl fun _ => le_rfl,
        List.subset_append_right [Event.acknowledged id messageId, Event.sent id now] _, rfl, List.Subset.refl _⟩ tallied ?_ ?_ (unchanged _ rfl) ?_
      · refine ⟨⟨current, there⟩, fun _ isOk => ?_⟩
        cases isOk
        exact List.mem_cons_self
      · intro i time member
        rcases List.mem_cons.mp member with impossible | earlier
        · cases impossible
        · rcases List.mem_cons.mp earlier with here | earlier
          · cases here
            exact .inr inTime'
          · exact .inl earlier
      · exact fun i after is final key _ has => .inr (.inr ⟨after, is, final, has, fun _ none => by cases none⟩)
    | error error =>
      refine kept.moves ⟨found, rfl, edits_refl _, later_of_same rfl fun _ => le_rfl, List.subset_cons_self _ _, rfl,
        List.Subset.refl _⟩ tallied ?_ ?_ (unchanged _ rfl) ?_
      · dsimp only [System.afterAttempt]
        split_ifs with permanent again
        · exact ⟨⟨current, there⟩, fun _ isOk => by cases isOk⟩
        · exact ⟨⟨Nat.le_add_left 1 attempt, again⟩, inTime, current, there, same⟩
        · exact ⟨⟨current, there⟩, fun _ isOk => by cases isOk⟩
      · intro i time member
        rcases List.mem_cons.mp member with here | earlier
        · cases here
          exact .inr inTime'
        · exact .inl earlier
      · exact fun i after is final key _ has => .inr (.inr ⟨after, is, final, has, fun _ none => by cases none⟩)
  · exact ⟨kept, Later.refl s⟩

theorem inHand_of_phaseRow {id : ℕ} {run : Run} (hand : phaseRow run.phase = some id) : (runCounts id run).inHand = 1 := by
  unfold runCounts
  cases phase : run.phase with
  | idle =>
    rw [phase] at hand
    cases hand
  | scrubbing =>
    rw [phase] at hand
    cases hand
  | late i =>
    rw [phase] at hand
    exact congrArg RunCounts.inHand (if_pos (Option.some.inj hand))
  | trying i row attempt =>
    rw [phase] at hand
    exact congrArg RunCounts.inHand (if_pos (Option.some.inj hand))
  | ended i row outcome attemptsMade =>
    rw [phase] at hand
    cases outcome <;> exact congrArg RunCounts.inHand (if_pos (Option.some.inj hand))

/-- Only recovery takes a row from the run that has it. -/
theorem Kept.sending {r id : ℕ} {run : Run} (kept : Kept secretDataKeys s) (found : s.runs.get r = some run)
    (hand : phaseRow run.phase = some id) (never : recoveries s id = 0) :
    ∃ row, s.outbox.get id = some row ∧ row.status = .sending := by
  have one : (1 : ℤ) ≤ s.runs.total fun run => (runCounts id run).inHand := by
    rw [← inHand_of_phaseRow hand]
    exact Table.le_total (fun r run there => (runCounts_nonneg id fun i row attempt => kept.inRound r run i row attempt there).1) found
  have locked : (1 : ℤ) ≤ (rowCounts (s.outbox.get id)).locked := by
    have rounds := (kept.tallied id).rounds
    unfold recoveries at never
    linarith
  cases there : s.outbox.get id with
  | none =>
    rw [there] at locked
    exact absurd locked (by decide)
  | some row =>
    rw [there] at locked
    refine ⟨row, rfl, ?_⟩
    by_contra other
    simp [rowCounts, holds, other] at locked

/-- The run that has a row in hand marks it. -/
theorem marked_keeps {r id : ℕ} {run : Run} {when' : EmailRow → Bool} {change : EmailRow → EmailRow} {phase' : Phase}
    (kept : Kept secretDataKeys s) (found : s.runs.get r = some run) (hand : phaseRow run.phase = some id)
    (there : ∃ row, s.outbox.get id = some row) (opens : ∀ row, when' row = true → isOpen row = true)
    (same : ∀ row, (change row).idempotencyKey = row.idempotencyKey ∧ (change row).toEmail = row.toEmail ∧
      (change row).giveUpAt = row.giveUpAt ∧ (change row).data = row.data)
    (accepted : ∀ row, (change row).status = .accepted → .acknowledged id (change row).providerMessageId ∈ s.log)
    (ends : phase' = .scrubbing id secretDataKeys ∧ (∀ row, row.status = .sending → when' row = true) ∧
        (∀ row, isFinal (change row) = true) ∨ phase' = .idle ∧ ∀ row, isFinal (change row) = false)
    (tallied : ∀ i, Tallied ({ s with outbox := (s.outbox.updateIf id when' change).1 }.setRun r fun run =>
      { run with phase := phase' }) i) :
    Kept secretDataKeys ({ s with outbox := (s.outbox.updateIf id when' change).1 }.setRun r fun run => { run with phase := phase' }) ∧
      Later s ({ s with outbox := (s.outbox.updateIf id when' change).1 }.setRun r fun run => { run with phase := phase' }) := by
  have edits : Edits s.outbox (s.outbox.updateIf id when' change).1 :=
    edits_updateIf fun row chosen => sameEmail_of_open (opens row chosen) (same row).1 (same row).2.1 (same row).2.2.1
  have later : Later s ({ s with outbox := (s.outbox.updateIf id when' change).1 }.setRun r fun run => { run with phase := phase' }) := by
    refine later_of_edits edits (fun _ => le_rfl) fun i before after was is _ _ => ?_
    obtain ⟨row, was', unchanged | ⟨-, -, changed⟩⟩ := Table.get_updateIf is <;> rw [was] at was' <;> cases was'
    · rw [unchanged]
    · rw [changed, (same before).2.2.2]
  have noKeys (other : ℕ) (keys : List String) : run.phase ≠ .scrubbing other keys := by
    intro scrubbing
    rw [scrubbing] at hand
    cases hand
  refine kept.moves ⟨found, rfl, edits, later, List.Subset.refl _, rfl, List.Subset.refl _⟩ tallied ?_ (fun _ _ member => .inl member) ?_ ?_
  · rcases ends with ⟨rfl, chosen, final⟩ | ⟨rfl, -⟩
    · obtain ⟨row, was⟩ := there
      obtain ⟨row', is, -⟩ := later.rows id row was
      refine ⟨row', is, fun never => ?_⟩
      obtain ⟨current, was', sending⟩ := kept.sending found hand never
      change (s.outbox.updateIf id when' change).1.get id = some row' at is
      rw [Table.updateIf_self, was', Option.map_some, if_pos (chosen current sending)] at is
      rw [← Option.some.inj is]
      exact final current
    · trivial
  · intro i before after was is isAccepted
    obtain ⟨row, was', unchanged | ⟨rfl, -, changed⟩⟩ := Table.get_updateIf is
    · rw [was] at was'
      cases was'
      exact .inl (unchanged ▸ isAccepted)
    · rw [changed] at isAccepted ⊢
      exact .inr (accepted row isAccepted)
  · intro i after is final key isSecret has
    obtain ⟨row, was, unchanged | ⟨rfl, -, changed⟩⟩ := Table.get_updateIf is
    · exact .inr (.inr ⟨row, was, unchanged ▸ final, unchanged ▸ has, fun keys scrubbing => absurd scrubbing (noKeys i keys)⟩)
    · rcases ends with ⟨rfl, -⟩ | ⟨-, notFinal⟩
      · exact .inr (.inl ⟨secretDataKeys, rfl, isSecret⟩)
      · rw [changed, notFinal row] at final
        cases final

theorem finish_keeps {r : ℕ} (kept : Kept secretDataKeys s) : Kept secretDataKeys (s.finish secretDataKeys secrets r) ∧ Later s (s.finish secretDataKeys secrets r) := by
  have tallied : ∀ i, Tallied (s.finish secretDataKeys secrets r) i := finish_tallied kept.tallied
  unfold System.finish at *
  split at *
  · next now queue id row outcome attemptsMade found =>
    obtain ⟨there, acknowledged⟩ := kept.phase r _ found
    cases outcome with
    | ok messageId =>
      exact marked_keeps kept found rfl there (fun _ => open_of_sending) (fun _ => ⟨rfl, rfl, rfl, rfl⟩) (fun _ _ => acknowledged messageId rfl)
        (.inl ⟨rfl, fun _ => decide_eq_true, fun _ => rfl⟩) tallied
    | error error =>
      dsimp only [System.handleSendFailure] at *
      split_ifs at * with givesUp
      · exact marked_keeps kept found rfl there (fun _ open' => open') (fun _ => ⟨rfl, rfl, rfl, rfl⟩) (fun _ isAccepted => by cases isAccepted)
          (.inl ⟨rfl, fun _ sending => open_of_sending (decide_eq_true sending), fun _ => rfl⟩) tallied
      · exact marked_keeps kept found rfl there (fun _ open' => open') (fun _ => ⟨rfl, rfl, rfl, rfl⟩) (fun _ isAccepted => by cases isAccepted)
          (.inr ⟨rfl, fun _ => rfl⟩) tallied
  · next now queue id found =>
    have there : ∃ row, s.outbox.get id = some row := kept.phase r _ found
    exact marked_keeps kept found rfl there (fun _ open' => open') (fun _ => ⟨rfl, rfl, rfl, rfl⟩) (fun _ isAccepted => by cases isAccepted)
      (.inl ⟨rfl, fun _ sending => open_of_sending (decide_eq_true sending), fun _ => rfl⟩) tallied
  · exact ⟨kept, Later.refl s⟩

theorem scrub_get {o : Table EmailRow} {id i : ℕ} {key : String} {row' : EmailRow} (is : (scrubSecret o id key).get i = some row') :
    ∃ row, o.get i = some row ∧ SameEmail row row' ∧ row'.status = row.status ∧ row'.providerMessageId = row.providerMessageId ∧
      (i ≠ id ∧ row' = row ∨ i = id ∧ row'.data = row.data.filter (·.1 ≠ key)) := by
  unfold scrubSecret at is
  by_cases isIt : i = id
  · rw [isIt, Table.get_update_self] at is
    obtain ⟨row, was, rfl⟩ := Option.map_eq_some_iff.mp is
    exact ⟨row, isIt ▸ was, sameEmail_scrub row key, rfl, rfl, .inr ⟨isIt, rfl⟩⟩
  · rw [Table.get_update_of_ne _ _ isIt] at is
    exact ⟨row', is, SameEmail.refl row', rfl, rfl, .inl ⟨isIt, rfl⟩⟩

theorem edits_scrub (o : Table EmailRow) (id : ℕ) (key : String) : Edits o (scrubSecret o id key) := by
  intro i
  unfold scrubSecret
  by_cases isIt : i = id
  · rw [isIt, Table.get_update_self]
    cases o.get id with
    | none => exact .none
    | some row => exact .some (sameEmail_scrub row key)
  · rw [Table.get_update_of_ne _ _ isIt]
    exact rel_refl _

theorem isFinal_of_status {row row' : EmailRow} (same : row'.status = row.status) : isFinal row' = isFinal row := by
  unfold isFinal
  rw [same]

theorem scrub_later {r : ℕ} {now : ℤ} {queue : List (ℕ × EmailRow)} {id : ℕ} {key : String} {rest : List String}
    (kept : Kept secretDataKeys s) (found : s.runs.get r = some { now, queue, phase := .scrubbing id (key :: rest) }) :
    Later s ({ s with outbox := scrubSecret s.outbox id key }.setRun r fun run => { run with phase := .scrubbing id rest }) := by
  refine later_of_edits (edits_scrub s.outbox id key) (fun _ => le_rfl) fun i before after was is never open' => ?_
  obtain ⟨row, was', -, status, -, ⟨-, unchanged⟩ | ⟨rfl, -⟩⟩ := scrub_get is <;> rw [was] at was' <;> cases was'
  · rw [unchanged]
  · -- only a row with an end is scrubbed
    obtain ⟨current, there, final⟩ := kept.phase r _ found
    rw [was] at there
    cases there
    rw [isFinal_of_status status, final never] at open'
    cases open'

theorem scrub_keeps {r : ℕ} (kept : Kept secretDataKeys s) : Kept secretDataKeys (s.scrub r) ∧ Later s (s.scrub r) := by
  have tallied : ∀ i, Tallied (s.scrub r) i := scrub_tallied kept.tallied
  unfold System.scrub at *
  split at *
  · next now queue id key rest found =>
    have later := scrub_later kept found
    obtain ⟨current, there, final⟩ := kept.phase r _ found
    refine kept.moves ⟨found, rfl, edits_scrub s.outbox id key, later, List.Subset.refl _, rfl, List.Subset.refl _⟩ tallied ?_
      (fun _ _ member => .inl member) ?_ ?_
    · obtain ⟨row', there', same, -⟩ := later.rows id current there
      exact ⟨row', there', fun never => same.isFinal (final never)⟩
    · intro i before after was is isAccepted
      obtain ⟨row, was', -, status, -⟩ := scrub_get is
      rw [was] at was'
      cases was'
      exact .inl (status ▸ isAccepted)
    · intro i after is isFinal' k isSecret has
      obtain ⟨row, was, -, status, -, ⟨other, unchanged⟩ | ⟨rfl, data⟩⟩ := scrub_get is
      · refine .inr (.inr ⟨row, was, unchanged ▸ isFinal', unchanged ▸ has, fun keys scrubbing => ?_⟩)
        cases scrubbing
        exact absurd rfl other
      · obtain ⟨entry, member, rfl⟩ := List.mem_map.mp has
        rw [data] at member
        obtain ⟨had, notIt⟩ := List.mem_filter.mp member
        by_cases left : entry.1 ∈ rest
        · exact .inr (.inl ⟨rest, rfl, left⟩)
        · refine .inr (.inr ⟨row, was, isFinal_of_status status ▸ isFinal', List.mem_map.mpr ⟨entry, had, rfl⟩, fun keys scrubbing => ?_⟩)
          cases scrubbing
          exact List.not_mem_cons_of_ne_of_not_mem (of_decide_eq_true notIt) left
  · next now queue id found =>
    refine kept.moves ⟨found, rfl, edits_refl _, later_of_same rfl fun _ => le_rfl, List.Subset.refl _, rfl, List.Subset.refl _⟩ tallied
      trivial (fun _ _ member => .inl member) ?_ ?_
    · intro i before after was is isAccepted
      rw [show s.outbox.get i = some after from is] at was
      cases was
      exact .inl isAccepted
    · intro i after is final key _ has
      refine .inr (.inr ⟨after, is, final, has, fun keys scrubbing => ?_⟩)
      cases scrubbing
      exact List.not_mem_nil
  · exact ⟨kept, Later.refl s⟩

theorem abandon_keeps {r : ℕ} {crashed : Bool} (kept : Kept secretDataKeys s) : Kept secretDataKeys (s.abandon r crashed) ∧ Later s (s.abandon r crashed) := by
  have tallied : ∀ i, Tallied (s.abandon r crashed) i := abandon_tallied kept.tallied kept.inRound
  unfold System.abandon at *
  split at *
  · exact ⟨kept, Later.refl s⟩
  · next run found =>
    have queue : (if crashed then [] else run.queue) ⊆ run.queue := by
      split_ifs
      · exact List.nil_subset _
      · exact List.Subset.refl _
    have same (s' : System) (outbox : s'.outbox = s.outbox) : ∀ i before after, s.outbox.get i = some before →
        s'.outbox.get i = some after → after.status = .accepted →
        before.status = .accepted ∨ .acknowledged i after.providerMessageId ∈ s'.log := by
      intro i before after was is isAccepted
      rw [outbox, was] at is
      cases is
      exact .inl isAccepted
    dsimp only at *
    split at *
    · next id key rest phase =>
      refine kept.moves ⟨found, rfl, edits_refl _, later_of_same rfl fun _ => le_rfl, List.subset_cons_self _ _, rfl, queue⟩ tallied
        trivial ?_ (same _ rfl) ?_
      · intro i now member
        rcases List.mem_cons.mp member with impossible | earlier
        · cases impossible
        · exact .inl earlier
      · intro i after is final k _ has
        by_cases isIt : i = id
        · exact .inl (isIt ▸ List.mem_cons_self)
        · refine .inr (.inr ⟨after, is, final, has, fun keys scrubbing => ?_⟩)
          rw [phase] at scrubbing
          cases scrubbing
          exact absurd rfl isIt
    · next notScrubbing =>
      refine kept.moves ⟨found, rfl, edits_refl _, later_of_same rfl fun _ => le_rfl, List.Subset.refl _, rfl, queue⟩ tallied
        trivial (fun _ _ member => .inl member) (same _ rfl) ?_
      intro i after is final k _ has
      refine .inr (.inr ⟨after, is, final, has, fun keys scrubbing => ?_⟩)
      cases keys with
      | nil => exact List.not_mem_nil
      | cons key rest => exact absurd scrubbing (notScrubbing i key rest)

theorem recoverStuck_get {o : Table EmailRow} {now olderThanMs : ℤ} {i : ℕ} {row' : EmailRow}
    (is : (recoverStuck o now olderThanMs).get i = some row') :
    ∃ row, o.get i = some row ∧ (row' = row ∨ row' = { row with status := .pending, lockedAt := none }) := by
  unfold recoverStuck at is
  rw [Table.get_updateWhere] at is
  obtain ⟨row, was, changed⟩ := Option.map_eq_some_iff.mp is
  split_ifs at changed
  · exact ⟨row, was, .inr changed.symm⟩
  · exact ⟨row, was, .inl changed.symm⟩

theorem edits_recoverStuck (o : Table EmailRow) (now olderThanMs : ℤ) : Edits o (recoverStuck o now olderThanMs) := by
  intro i
  unfold recoverStuck
  rw [Table.get_updateWhere]
  cases o.get i with
  | none => exact .none
  | some row =>
    refine .some ?_
    dsimp only
    split_ifs with stuck
    · unfold isStuck at stuck
      exact sameEmail_of_open (open_of_sending (Bool.and_eq_true_iff.mp stuck).1) rfl rfl rfl
    · exact SameEmail.refl row

theorem start_later (s : System) (now : ℤ) : Later s (s.start now) := by
  refine later_of_edits (edits_recoverStuck s.outbox now _) (fun id => ?_) fun i before after was is _ _ => ?_
  · have log : (s.start now).log = ((s.outbox.select (isStuck (now - emailOutboxStuckAfterMs))).map (·.1)).map .recovered ++ s.log := rfl
    rw [logCounts_recoveries log id, logCounts_recovered (s.outbox.select_nodup _)]
    exact le_add_of_nonneg_left (holds_nonneg _)
  · obtain ⟨row, was', same | same⟩ := recoverStuck_get is
    all_goals
      rw [was] at was'
      cases was'
      rw [same]

theorem mem_findDue {o : Table EmailRow} {now : ℤ} {limit id : ℕ} {row : EmailRow} (member : (id, row) ∈ findDue o now limit) :
    o.get id = some row :=
  (Table.mem_select.mp (List.mem_mergeSort.mp (List.mem_of_mem_take member))).1

/-- A new run disturbs none. -/
theorem Removing.start {id : ℕ} {key : String} (removing : Removing s id key) (now : ℤ) : Removing (s.start now) id key := by
  rcases removing with stopped | ⟨r, run, keys, there, phase, member⟩
  · exact .inl (List.mem_append_right _ stopped)
  · exact .inr ⟨r, run, keys, Table.get_insert_of_get there, phase, member⟩

theorem start_kept (kept : Kept secretDataKeys s) (now : ℤ) : Kept secretDataKeys (s.start now) where
  tallied := start_tallied kept.tallied
  keys id id' row row' found found' same := by
    obtain ⟨first, there, same₁⟩ := rel_right (edits_recoverStuck s.outbox now _ id) found
    obtain ⟨second, there', same₂⟩ := rel_right (edits_recoverStuck s.outbox now _ id') found'
    exact kept.keys id id' first second there there' (same₁.key.symm.trans (same.trans same₂.key))
  queue r run found id row member := by
    rcases Table.get_insert found with earlier | ⟨-, rfl⟩
    · obtain ⟨row', there, same⟩ := kept.queue r run earlier id row member
      obtain ⟨row'', there', same', -⟩ := (start_later s now).rows id row' there
      exact ⟨row'', there', same'.giveUpAt.trans same⟩
    · exact ⟨row, mem_findDue member, rfl⟩
  phase r run found := by
    rcases Table.get_insert found with earlier | ⟨-, rfl⟩
    · exact (kept.phase r run earlier).later (start_later s now) (List.subset_append_right _ _)
    · trivial
  sent id time member := by
    rcases List.mem_append.mp member with recovered | earlier
    · obtain ⟨other, -, impossible⟩ := List.mem_map.mp recovered
      cases impossible
    · obtain ⟨row, there, inTime⟩ := kept.sent id time earlier
      obtain ⟨row', there', same, -⟩ := (start_later s now).rows id row there
      exact ⟨row', there', same.giveUpAt ▸ inTime⟩
  accepted id row' found isAccepted := by
    obtain ⟨row, was, same | same⟩ := recoverStuck_get found
    · rw [same] at isAccepted ⊢
      exact List.mem_append_right _ (kept.accepted id row was isAccepted)
    · rw [same] at isAccepted
      cases isAccepted
  scrubbed id row' found final key isSecret has := by
    obtain ⟨row, was, same | same⟩ := recoverStuck_get found
    · rw [same] at final has
      exact (kept.scrubbed id row was final key isSecret has).start now
    · rw [same] at final
      cases final

theorem enqueue_get {o : Table EmailRow} {data : EnqueueEmailData} {i : ℕ} {row : EmailRow} (is : (enqueue o data).get i = some row) :
    o.get i = some row ∨ i = o.nextId ∧ row.idempotencyKey = data.idempotencyKey ∧ isFinal row = false ∧ hasKey o data.idempotencyKey = false := by
  unfold enqueue at is
  split_ifs at is with taken
  · exact .inl is
  · rcases Table.get_insert is with old | ⟨new, rfl⟩
    · exact .inl old
    · exact .inr ⟨new, rfl, rfl, by simpa using taken⟩

theorem enqueue_later (s : System) (data : EnqueueEmailData) : Later s { s with outbox := enqueue s.outbox data } := by
  refine ⟨fun id row found => ⟨row, ?_, SameEmail.refl row, fun _ _ => rfl⟩, fun _ => le_rfl⟩
  unfold enqueue
  dsimp only
  split_ifs
  · exact found
  · exact Table.get_insert_of_get found

/-- A new row has a key of its own. -/
theorem fresh_of_hasKey {o : Table EmailRow} {key : String} (fresh : hasKey o key = false) {id : ℕ} {row : EmailRow}
    (there : o.get id = some row) : row.idempotencyKey ≠ key := by
  intro same
  have none : o.select (fun row => row.idempotencyKey = key) = [] := by simpa [hasKey] using fresh
  have member : (id, row) ∈ o.select (fun row => row.idempotencyKey = key) := Table.mem_select.mpr ⟨there, decide_eq_true same⟩
  rw [none] at member
  cases member

theorem enqueue_kept (kept : Kept secretDataKeys s) (data : EnqueueEmailData) :
    Kept secretDataKeys { s with outbox := enqueue s.outbox data } where
  tallied := enqueue_tallied kept.tallied
  keys id id' row row' found found' same := by
    rcases enqueue_get found with old | ⟨new, key, -, fresh⟩ <;> rcases enqueue_get found' with old' | ⟨new', key', -, fresh'⟩
    · exact kept.keys id id' row row' old old' same
    · exact absurd (same.trans key') (fresh_of_hasKey fresh' old)
    · exact absurd (same.symm.trans key) (fresh_of_hasKey fresh old')
    · exact new.trans new'.symm
  queue r run found id row member := by
    obtain ⟨row', there, same⟩ := kept.queue r run found id row member
    obtain ⟨row'', there', same', -⟩ := (enqueue_later s data).rows id row' there
    exact ⟨row'', there', same'.giveUpAt.trans same⟩
  phase r run found := (kept.phase r run found).later (enqueue_later s data) (List.Subset.refl _)
  sent id now member := by
    obtain ⟨row, there, inTime⟩ := kept.sent id now member
    obtain ⟨row', there', same, -⟩ := (enqueue_later s data).rows id row there
    exact ⟨row', there', same.giveUpAt ▸ inTime⟩
  accepted id row found isAccepted := by
    rcases enqueue_get found with old | ⟨-, -, notFinal, -⟩
    · exact kept.accepted id row old isAccepted
    · rw [isFinal, isAccepted] at notFinal
      cases notFinal
  scrubbed id row found final := by
    rcases enqueue_get found with old | ⟨-, -, notFinal, -⟩
    · exact kept.scrubbed id row old final
    · rw [notFinal] at final
      cases final

/-- Only `enqueue` adds a row. -/
theorem exec_edits (s : System) {action : Action} (notEnqueue : ∀ data, action ≠ .enqueue data) :
    Edits s.outbox (exec renderTemplate secretDataKeys secrets s action).outbox := by
  cases action with
  | enqueue data => exact absurd rfl (notEnqueue data)
  | start now => exact edits_recoverStuck s.outbox now _
  | next r =>
    dsimp only [exec, System.next]
    split
    · split_ifs
      · exact edits_updateIf fun _ pending => sameEmail_of_open (open_of_pending pending) rfl rfl rfl
      · exact edits_refl _
    · exact edits_refl _
  | answered r answer =>
    dsimp only [exec, System.answered]
    split
    · cases answer <;> exact edits_refl _
    · exact edits_refl _
  | finish r =>
    dsimp only [exec, System.finish]
    split
    · split
      · exact edits_updateIf fun _ sending => sameEmail_of_open (open_of_sending sending) rfl rfl rfl
      · dsimp only [System.handleSendFailure]
        split_ifs
        · exact edits_updateIf fun _ open' => sameEmail_of_open open' rfl rfl rfl
        · exact edits_updateIf fun _ open' => sameEmail_of_open open' rfl rfl rfl
    · exact edits_updateIf fun _ open' => sameEmail_of_open open' rfl rfl rfl
    · exact edits_refl _
  | scrub r =>
    dsimp only [exec, System.scrub]
    split
    · exact edits_scrub s.outbox _ _
    · exact edits_refl _
    · exact edits_refl _
  | abandon r crashed =>
    dsimp only [exec, System.abandon]
    split
    · exact edits_refl _
    · split <;> exact edits_refl _

theorem exec_keeps (kept : Kept secretDataKeys s) (action : Action) :
    Kept secretDataKeys (exec renderTemplate secretDataKeys secrets s action) ∧
      Later s (exec renderTemplate secretDataKeys secrets s action) := by
  cases action with
  | enqueue data => exact ⟨enqueue_kept kept data, enqueue_later s data⟩
  | start now => exact ⟨start_kept kept now, start_later s now⟩
  | next r => exact next_keeps kept
  | answered r answer => exact answered_keeps kept
  | finish r => exact finish_keeps kept
  | scrub r => exact scrub_keeps kept
  | abandon r crashed => exact abandon_keeps kept

theorem run_kept (kept : Kept secretDataKeys s) (actions : List Action) :
    Kept secretDataKeys (run (exec renderTemplate secretDataKeys secrets) s actions) :=
  run_always (Kept secretDataKeys) (fun _ action kept => (exec_keeps kept action).1) kept actions

theorem run_later (kept : Kept secretDataKeys s) (actions : List Action) :
    Later s (run (exec renderTemplate secretDataKeys secrets) s actions) :=
  @run_relation _ _ _ (fun _ _ => True) (Kept secretDataKeys) Later (fun _ action kept _ => (exec_keeps kept action).1) Later.refl
    (fun _ _ _ => Later.trans) (fun _ action kept _ => (exec_keeps kept action).2) s actions kept
    (meets_of_forall (fun _ _ => trivial) s)

end

/-- What holds of a row and of what was done for it. An email is taken when a send of it resolves: a send that throws counts for
nothing here, though the provider may have kept the email. -/
structure SentOnce (secretDataKeys : List String) (s : System) (id : ℕ) (row : EmailRow) : Prop where
  /-- at most one send has resolved, and one more for each time it was recovered -/
  once : (logCounts id s.log).acknowledged ≤ (logCounts id s.log).recovered + 1
  /-- never recovered, a row whose send resolved is on its way to `accepted` or there -/
  taken : (logCounts id s.log).recovered = 0 → 0 < (logCounts id s.log).acknowledged → row.status = .sending ∨ row.status = .accepted
  /-- a round has two attempts -/
  attempts : row.attempts ≤ (logCounts id s.log).sent ∧ (logCounts id s.log).sent ≤ 2 * (logCounts id s.log).claimed
  inTime : ∀ now, .sent id now ∈ s.log → now < row.giveUpAt
  accepted : row.status = .accepted → .acknowledged id row.providerMessageId ∈ s.log
  scrubbed : isFinal row = true → ∀ key ∈ secretDataKeys, hasSecret row key → Removing s id key
  ownKey : ∀ id' row', s.outbox.get id' = some row' → row.idempotencyKey = row'.idempotencyKey → id = id'

theorem Kept.sentOnce {secretDataKeys : List String} {s : System} (kept : Kept secretDataKeys s) {id : ℕ} {row : EmailRow}
    (found : s.outbox.get id = some row) : SentOnce secretDataKeys s id row := by
  have nonneg (f : RunCounts → ℤ) (each : ∀ r run, s.runs.get r = some run → 0 ≤ f (runCounts id run)) :
      0 ≤ s.runs.total fun run => f (runCounts id run) := Table.total_nonneg each
  have counts (r : ℕ) (run : Run) (there : s.runs.get r = some run) :=
    runCounts_nonneg id fun i row attempt => kept.inRound r run i row attempt there
  have untaken := nonneg (·.untaken) fun r run there => (counts r run there).2.1
  have left := nonneg (·.left) fun r run there => (counts r run there).2.2.1
  have made := nonneg (·.made) fun r run there => (counts r run there).2.2.2
  have taken := (kept.tallied id).taken
  have sends := (kept.tallied id).sends
  have attempts := (kept.tallied id).attempts
  rw [found] at taken attempts
  dsimp only [rowCounts] at taken attempts
  refine ⟨?_, fun never some' => ?_, ⟨by linarith, ?_⟩, fun now member => ?_, kept.accepted id row found, kept.scrubbed id row found,
    fun id' row' => kept.keys id id' row row' found⟩
  · linarith [holds_le (row.status = .sending || row.status = .accepted)]
  · by_contra neither
    obtain ⟨notSending, notAccepted⟩ := not_or.mp neither
    have none : holds (row.status = .sending || row.status = .accepted) = 0 := by simp [holds, notSending, notAccepted]
    linarith
  · have two : (emailOutboxAttemptsPerRound : ℤ) = 2 := rfl
    rw [two] at sends
    linarith
  · obtain ⟨row', there, inTime⟩ := kept.sent id now member
    rw [found] at there
    cases there
    exact inTime

/-- Whatever is queued, whichever runs overlap, wherever they stop and whatever the transport answers. -/
theorem run_sentOnce (renderTemplate : String → EmailTemplateData → Except String Unit) (secretDataKeys secrets : List String)
    (actions more : List Action) :
    (∀ id row, (run (exec renderTemplate secretDataKeys secrets) {} actions).outbox.get id = some row →
      SentOnce secretDataKeys (run (exec renderTemplate secretDataKeys secrets) {} actions) id row) ∧
    Later (run (exec renderTemplate secretDataKeys secrets) {} actions)
      (run (exec renderTemplate secretDataKeys secrets) {} (actions ++ more)) := by
  have kept : Kept secretDataKeys (run (exec renderTemplate secretDataKeys secrets) {} actions) := run_kept kept_empty actions
  refine ⟨fun id row found => kept.sentOnce found, ?_⟩
  rw [run_append]
  exact run_later kept more

end Liratek.Email.OutboxRuns
