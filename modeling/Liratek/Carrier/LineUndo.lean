import Liratek.Carrier.Lines
import Liratek.Lib.Runs
import Liratek.Lib.Unwinding

/-! Undoing the movements of a line gives back the line as it was. -/

namespace Liratek.Carrier.LineUndo
open Lib Lib.Calls Lib.Runs Lib.Unwinding Validity Lines

inductive MovementAction where
  | applyMovement (carrierLineId : Nat) (creditsDelta validityDaysDelta : ℤ) (reason : String)
      (transactionId : Option Nat) (today : Day)
  | reverseMovement (movementId : Nat) (today : Day)

def attempt (b : Book) : MovementAction → Except LineError Book
  | .applyMovement carrierLineId creditsDelta validityDaysDelta reason transactionId today =>
    applyMovement b
      { carrierLineId := carrierLineId
        creditsDelta := creditsDelta
        validityDaysDelta := validityDaysDelta
        reason := reason
        transactionId := transactionId
        today := today }
  | .reverseMovement movementId today => reverseMovement b movementId today

def exec (b : Book) (action : MovementAction) : Book :=
  leaves b (attempt b action)

/-- The movements of a line, in the order they were made. -/
def lineLog (b : Book) (lineId : Nat) : List (Nat × CarrierLineMovement) :=
  b.movements.select fun m => m.carrierLineId = lineId

theorem mem_lineLog {b : Book} {lineId id : Nat} {m : CarrierLineMovement} :
    (id, m) ∈ lineLog b lineId ↔ b.movements.get id = some m ∧ m.carrierLineId = lineId := by
  rw [lineLog, Table.mem_select, decide_eq_true_iff]

theorem lineLog_sorted (b : Book) (lineId : Nat) : (lineLog b lineId).Pairwise (·.1 < ·.1) :=
  List.pairwise_map.mp (b.movements.rows_sorted.sublist (List.filter_sublist.map _))

/-! The log of one line. -/

/-- A charge still stands that came after a reversed movement of days: the order guard refuses it for good. -/
def Stuck (older charge : CarrierLineMovement) : Prop :=
  charge.isReversed = false ∧ 0 < charge.validityDaysDelta ∧ older.isReversed = true ∧ older.validityDaysDelta ≠ 0

/-- Every movement of the log can still be undone, the newest first. -/
def Undoable (log : List CarrierLineMovement) : Prop :=
  log.Pairwise fun older charge => ¬Stuck older charge

/-- One movement taken back from the expiry, under no ceiling. -/
def takenBack (m : CarrierLineMovement) (expiry : Option Day) : Option Day :=
  if m.isReversed = true ∨ m.validityDaysDelta = 0 then expiry
  else if 0 < m.validityDaysDelta then m.previousValidityExpiresAt
  else m.previousValidityExpiresAt.bind fun _ => expiry.map (· - m.validityDaysDelta)

theorem takenBack_reversed {m : CarrierLineMovement} (reversed : m.isReversed = true) (expiry : Option Day) :
    takenBack m expiry = expiry :=
  if_pos (Or.inl reversed)

theorem takenBack_dayless {m : CarrierLineMovement} (dayless : m.validityDaysDelta = 0) (expiry : Option Day) :
    takenBack m expiry = expiry :=
  if_pos (Or.inr dayless)

theorem takenBack_charge {m : CarrierLineMovement} (active : m.isReversed = false) (charge : 0 < m.validityDaysDelta)
    (expiry : Option Day) : takenBack m expiry = m.previousValidityExpiresAt := by
  simp only [takenBack, active, charge.ne', charge, Bool.false_eq_true, or_self, if_false, if_true]

theorem takenBack_sale {m : CarrierLineMovement} (active : m.isReversed = false) (sale : m.validityDaysDelta < 0)
    {previous : Day} (snapshot : m.previousValidityExpiresAt = some previous) (expiry : Option Day) :
    takenBack m expiry = expiry.map (· - m.validityDaysDelta) := by
  simp only [takenBack, active, sale.ne, sale.not_gt, snapshot, Bool.false_eq_true, or_self, if_false, Option.bind_some]

theorem takenBack_unlimited {m : CarrierLineMovement} (active : m.isReversed = false) (sale : m.validityDaysDelta < 0)
    (snapshot : m.previousValidityExpiresAt = none) (expiry : Option Day) : takenBack m expiry = none := by
  simp only [takenBack, active, sale.ne, sale.not_gt, snapshot, Bool.false_eq_true, or_self, if_false, Option.bind_none]

def standing (amount : CarrierLineMovement → ℤ) (m : CarrierLineMovement) : ℤ :=
  if m.isReversed then 0 else amount m

/-- How a line relates to the line it was before its first movement. -/
structure Restorable (start line : CarrierLine) (log : List CarrierLineMovement) : Prop where
  credits : line.credits = start.credits + (log.map (standing (·.creditsDelta))).sum
  owed : Undoable log → line.daysOwed = start.daysOwed + (log.map (standing (·.daysOwedDelta))).sum
  expiry : Undoable log → unwound takenBack log line.validityExpiresAt = start.validityExpiresAt
  charges : ∀ m ∈ log, 0 < m.validityDaysDelta → m.daysOwedDelta ≤ 0

theorem sum_standing_reversed {log : List CarrierLineMovement} (reversed : ∀ m ∈ log, m.isReversed = true)
    (amount : CarrierLineMovement → ℤ) : (log.map (standing amount)).sum = 0 := by
  apply List.sum_eq_zero
  intro x member
  obtain ⟨m, inside, rfl⟩ := List.mem_map.mp member
  rw [standing, if_pos (reversed m inside)]

/-- Once all is reversed, the line is as it was. -/
theorem Restorable.restored {start line : CarrierLine} {log : List CarrierLineMovement} (restorable : Restorable start line log)
    (reversed : ∀ m ∈ log, m.isReversed = true) :
    line.credits = start.credits ∧ line.validityExpiresAt = start.validityExpiresAt ∧ line.daysOwed = start.daysOwed := by
  have undoable : Undoable log := by
    apply List.pairwise_of_forall_mem_list
    intro older _ charge member stuck
    rw [Stuck, reversed charge member] at stuck
    cases stuck.1
  refine ⟨?_, ?_, ?_⟩
  · rw [restorable.credits, sum_standing_reversed reversed, add_zero]
  · rw [← restorable.expiry undoable, unwound_idle fun m member => takenBack_reversed (reversed m member)]
  · rw [restorable.owed undoable, sum_standing_reversed reversed, add_zero]

/-! A new movement. -/

/-- The movement row says what the step did to the line. -/
structure Recorded (line after : CarrierLine) (m : CarrierLineMovement) : Prop where
  active : m.isReversed = false
  credits : after.credits = line.credits + m.creditsDelta
  owed : after.daysOwed = line.daysOwed + m.daysOwedDelta
  nonneg : 0 ≤ after.daysOwed
  expiry : takenBack m after.validityExpiresAt = line.validityExpiresAt
  charge : 0 < m.validityDaysDelta → m.daysOwedDelta ≤ 0

theorem sale_recorded {line : CarrierLine} (owed : 0 ≤ line.daysOwed) {m : CarrierLineMovement} {magnitude today : ℤ}
    {p : ValidityProjection} (sold : Sold line.validityExpiresAt magnitude today line.daysOwed p) (sale : 0 < magnitude)
    (active : m.isReversed = false) (days : m.validityDaysDelta = -(magnitude - p.soldAhead))
    (ahead : m.daysOwedDelta = p.soldAhead) (snapshot : m.previousValidityExpiresAt = line.validityExpiresAt)
    {after : CarrierLine} (credits : after.credits = line.credits + m.creditsDelta)
    (expiry : after.validityExpiresAt = p.expiry) (owes : after.daysOwed = p.daysOwed) : Recorded line after m := by
  have within := sold.within
  refine ⟨active, credits, ?_, ?_, ?_, ?_⟩
  · rw [owes, sold.owes, ahead]
  · rw [owes, sold.owes]
    exact add_nonneg owed sold.ahead
  · rw [expiry, sold.lands]
    rcases before : line.validityExpiresAt with _ | date
    · have none := sold.unlimited before
      rw [before] at snapshot
      exact takenBack_unlimited active (by omega) snapshot _
    · rw [before] at snapshot
      by_cases dayless : m.validityDaysDelta = 0
      · have none : magnitude - p.soldAhead = 0 := by omega
        rw [takenBack_dayless dayless, none, sub_zero]
        rfl
      · rw [takenBack_sale active (by omega) snapshot, Option.map_some]
        congr 1
        dsimp only [Option.getD]
        omega
  · intro charge
    omega

theorem applied_recorded {line : CarrierLine} (owed : 0 ≤ line.daysOwed) {input : ApplyCarrierLineMovementInput}
    (delta : input.validityExpiresAt = none) {applied : AppliedState}
    (computed : computeAppliedState line input.creditsDelta input.validityDaysDelta input.validityExpiresAt input.today =
      .ok applied) : Recorded line (applied.state.patch line) (movementOf input line applied) := by
  unfold computeAppliedState at computed
  rw [delta] at computed
  dsimp only at computed
  split_ifs at computed with dayless burned
  · cases computed
    have none : recordedDeltas input line.validityExpiresAt none = (0, 0) := by rw [recordedDeltas, delta]
    refine ⟨rfl, rfl, ?_, owed, ?_, ?_⟩
    · dsimp only [movementOf]
      rw [none]
      exact (add_zero _).symm
    · exact takenBack_dayless (congrArg Prod.fst none) _
    · intro charge
      dsimp only [movementOf] at charge
      rw [none] at charge
      cases charge
  · cases computed
    by_cases sale : input.validityDaysDelta < 0
    · have sold := projectValidityExpiry_sold line.validityExpiresAt sale input.today line.daysOwed
      apply sale_recorded owed sold (by omega) rfl _ _ rfl rfl rfl rfl
      · simp only [movementOf, recordedDeltas, delta, sale, if_true]
      · simp only [movementOf, recordedDeltas, delta, sale, if_true]
    · have charge : 0 < input.validityDaysDelta := by omega
      have charged := projectValidityExpiry_charged line.validityExpiresAt charge input.today owed
      have owes := charged.owes
      have applied := charged.applied
      have within := charged.within
      generalize projectValidityExpiry line.validityExpiresAt input.validityDaysDelta input.today line.daysOwed = p at *
      have recorded : recordedDeltas input line.validityExpiresAt (some p) = (input.validityDaysDelta, -p.owedApplied) := by
        simp only [recordedDeltas, delta, sale, if_false]
      refine ⟨rfl, rfl, ?_, ?_, ?_, ?_⟩
      · dsimp only [movementOf, UpdateCarrierLineData.patch, Option.getD]
        rw [recorded, owes, sub_eq_add_neg]
      · dsimp only [UpdateCarrierLineData.patch, Option.getD]
        omega
      · apply takenBack_charge rfl
        dsimp only [movementOf]
        rw [recorded]
        exact charge
      · intro _
        dsimp only [movementOf]
        rw [recorded]
        exact neg_nonpos.mpr applied

theorem Recorded.restorable {start line after : CarrierLine} {log : List CarrierLineMovement} {m : CarrierLineMovement}
    (recorded : Recorded line after m) (restorable : Restorable start line log) :
    Restorable start after (log ++ [m]) := by
  have sum : ∀ amount : CarrierLineMovement → ℤ,
      ((log ++ [m]).map (standing amount)).sum = (log.map (standing amount)).sum + amount m := by
    intro amount
    rw [List.map_append, List.sum_append, List.map_singleton, List.sum_singleton, standing, recorded.active]
    rfl
  have older : Undoable (log ++ [m]) → Undoable log := fun undoable => (List.pairwise_append.mp undoable).1
  refine ⟨?_, ?_, ?_, ?_⟩
  · rw [recorded.credits, restorable.credits, sum]
    omega
  · intro undoable
    rw [recorded.owed, restorable.owed (older undoable), sum]
    omega
  · intro undoable
    rw [unwound_concat log recorded.expiry, restorable.expiry (older undoable)]
  · intro m' member
    rcases List.mem_append.mp member with old | new
    · exact restorable.charges m' old
    · rw [List.mem_singleton.mp new]
      exact recorded.charge

/-! A movement that is undone. -/

/-- A charge, or a sale from a line without an expiry, restores what it has stored. -/
def Resets (m : CarrierLineMovement) : Prop :=
  m.isReversed = false ∧ (0 < m.validityDaysDelta ∨ m.validityDaysDelta < 0 ∧ m.previousValidityExpiresAt = none)

instance (m : CarrierLineMovement) : Decidable (Resets m) :=
  inferInstanceAs (Decidable (_ ∧ _))

theorem Resets.takenBack {m : CarrierLineMovement} (resets : Resets m) (expiry : Option Day) :
    takenBack m expiry = m.previousValidityExpiresAt := by
  obtain ⟨active, charge | ⟨sale, snapshot⟩⟩ := resets
  · exact takenBack_charge active charge expiry
  · rw [takenBack_unlimited active sale snapshot, snapshot]

def NotCharge (m : CarrierLineMovement) : Prop :=
  m.isReversed = true ∨ m.validityDaysDelta ≤ 0

theorem takenBack_none {m : CarrierLineMovement} (notCharge : NotCharge m) : takenBack m none = none := by
  unfold takenBack
  split_ifs with idle charge
  · rfl
  · rcases notCharge with reversed | sale
    · exact absurd (Or.inl reversed) idle
    · omega
  · cases m.previousValidityExpiresAt <;> rfl

/-- Days given back commute with every movement that is no charge. -/
theorem takenBack_add {m : CarrierLineMovement} (notCharge : NotCharge m) (days : ℤ) (expiry : Option Day) :
    takenBack m (expiry.map (· - days)) = (takenBack m expiry).map (· - days) := by
  unfold takenBack
  split_ifs with idle charge
  · rfl
  · rcases notCharge with reversed | sale
    · exact absurd (Or.inl reversed) idle
    · omega
  · rcases m.previousValidityExpiresAt with _ | previous
    · rfl
    · rcases expiry with _ | date
      · rfl
      · exact congrArg some (sub_right_comm date days _)

section
variable {older newer : List CarrierLineMovement} {m : CarrierLineMovement}

theorem undoable_marked (undoable : Undoable (older ++ markReversed m :: newer)) (dayful : m.validityDaysDelta ≠ 0) :
    ∀ x ∈ newer, NotCharge x := by
  intro x member
  have free := List.rel_of_pairwise_cons (List.pairwise_append.mp undoable).2.1 member
  by_contra charge
  obtain ⟨active, positive⟩ := not_or.mp charge
  exact free ⟨Bool.eq_false_of_not_eq_true active, not_le.mp positive, rfl, dayful⟩

/-- Undoing a movement leaves no more to undo, while no charge of the log got stuck by it. -/
theorem undoable_before (active : m.isReversed = false) (free : ∀ o ∈ older, ¬Stuck o m)
    (undoable : Undoable (older ++ markReversed m :: newer)) : Undoable (older ++ m :: newer) := by
  obtain ⟨first, rest, between⟩ := List.pairwise_append.mp undoable
  obtain ⟨-, last⟩ := List.pairwise_cons.mp rest
  refine List.pairwise_append.mpr ⟨first, List.pairwise_cons.mpr ⟨?_, last⟩, ?_⟩
  · intro x _ stuck
    rw [Stuck, active] at stuck
    cases stuck.2.2.1
  · intro o member x inside
    rcases List.mem_cons.mp inside with rfl | later
    · exact free o member
    · exact between o member x (List.mem_cons_of_mem _ later)

theorem sum_marked (active : m.isReversed = false) (amount : CarrierLineMovement → ℤ) :
    ((older ++ markReversed m :: newer).map (standing amount)).sum =
      ((older ++ m :: newer).map (standing amount)).sum - amount m := by
  have gone : standing amount (markReversed m) = 0 := rfl
  have was : standing amount m = amount m := by
    rw [standing, active]
    rfl
  rw [List.map_append, List.map_append, List.sum_append, List.sum_append, List.map_cons, List.map_cons, List.sum_cons,
    List.sum_cons, gone, was]
  omega

/-- A sale gives its days back in full: to a line that has an expiry, under the ceiling. Otherwise something that
restores a stored expiry is still to be undone. -/
def GivesBack (m : CarrierLineMovement) (line : CarrierLine) (others : List CarrierLineMovement) (today : Day) : Prop :=
  m.validityDaysDelta < 0 → ∀ previous, m.previousValidityExpiresAt = some previous →
    (∃ x ∈ others, Resets x) ∨
      ∃ date, line.validityExpiresAt = some date ∧ date - m.validityDaysDelta ≤ max (today + maxLineValidityDays) previous

theorem restoredExpiry_sale {line : CarrierLine} {today date previous : Day} (sale : m.validityDaysDelta < 0)
    (snapshot : m.previousValidityExpiresAt = some previous) (unpaid : m.daysOwedDelta ≤ line.daysOwed)
    (has : line.validityExpiresAt = some date)
    (within : date - m.validityDaysDelta ≤ max (today + maxLineValidityDays) previous) :
    restoredExpiry m line today = some (date - m.validityDaysDelta) := by
  have paidOff : (if 0 < m.daysOwedDelta then max 0 (m.daysOwedDelta - line.daysOwed) else 0) = 0 := by
    split_ifs
    · exact max_eq_left (sub_nonpos.mpr unpaid)
    · rfl
  have ceiling : (if today + maxLineValidityDays < previous then previous else today + maxLineValidityDays) =
      max (today + maxLineValidityDays) previous := by
    split_ifs with past
    · exact (max_eq_right past.le).symm
    · exact (max_eq_left (not_lt.mp past)).symm
  simp only [restoredExpiry, sale, snapshot, if_true, paidOff, has, Option.getD, addDaysToDateString, add_zero,
    ← sub_eq_add_neg]
  exact congrArg some (if_neg (not_lt.mpr (within.trans ceiling.ge)))

/-- What undoing one movement does to the expiry is what taking it back out of the log does. -/
theorem restoredExpiry_unwound {line : CarrierLine} {today : Day} (active : m.isReversed = false)
    (guard : 0 < m.validityDaysDelta → ∀ x ∈ newer, x.isReversed = true ∨ x.validityDaysDelta = 0)
    (unpaid : m.daysOwedDelta ≤ line.daysOwed) (givesBack : GivesBack m line (older ++ newer) today)
    (undoable : Undoable (older ++ markReversed m :: newer)) :
    unwound takenBack (older ++ markReversed m :: newer) (restoredExpiry m line today) =
      unwound takenBack (older ++ m :: newer) line.validityExpiresAt := by
  rcases lt_trichotomy m.validityDaysDelta 0 with sale | dayless | charge
  · have plain := undoable_marked undoable sale.ne
    have nothing : unwound takenBack newer none = none := by
      have const := unwound_commute (f := fun _ => none) (fun x member _ => takenBack_none (plain x member)) none
      exact const
    rcases snapshot : m.previousValidityExpiresAt with _ | previous
    · have restored : restoredExpiry m line today = none := by
        simp only [restoredExpiry, sale, snapshot, if_true]
      apply unwound_replace
      rw [restored, nothing, takenBack_reversed rfl, takenBack_unlimited active sale snapshot]
    · rcases givesBack sale previous snapshot with ⟨x, member, resets⟩ | ⟨date, has, within⟩
      · rcases List.mem_append.mp member with before | after
        · rw [unwound_append, unwound_append]
          exact unwound_reset before resets.takenBack _ _
        · have unlimited : x.previousValidityExpiresAt = none := by
            obtain ⟨on, charge | ⟨-, none⟩⟩ := resets
            · rcases plain x after with off | sold
              · rw [on] at off
                cases off
              · omega
            · exact none
          have hidden : ∀ expiry, unwound takenBack newer expiry = none := by
            intro expiry
            rw [unwound_reset after resets.takenBack expiry none, nothing]
          apply unwound_replace
          rw [hidden, hidden, takenBack_reversed rfl, takenBack_sale active sale snapshot]
          rfl
      · apply unwound_replace
        have add := unwound_commute (f := Option.map (· - m.validityDaysDelta))
          (fun x member => takenBack_add (plain x member) m.validityDaysDelta) (some date)
        rw [restoredExpiry_sale sale snapshot unpaid has within, has, takenBack_reversed rfl,
          takenBack_sale active sale snapshot, ← add]
        rfl
  · apply unwound_replace
    have kept : restoredExpiry m line today = line.validityExpiresAt := by
      rw [restoredExpiry, dayless, if_neg (lt_irrefl _), if_neg (lt_irrefl _)]
    rw [kept, takenBack_reversed rfl, takenBack_dayless dayless]
  · have idle : ∀ x ∈ newer, ∀ expiry, takenBack x expiry = expiry :=
      fun x member expiry => if_pos (guard charge x member)
    have restored : restoredExpiry m line today = m.previousValidityExpiresAt := by
      rw [restoredExpiry, if_neg charge.not_gt, if_pos charge]
    apply unwound_replace
    rw [unwound_idle idle, restored, takenBack_reversed rfl, takenBack_charge active charge]

/-- Undoing a movement that the order guard lets through. -/
theorem Restorable.undone {start line : CarrierLine} {today : Day} (restorable : Restorable start line (older ++ m :: newer))
    (active : m.isReversed = false)
    (guard : 0 < m.validityDaysDelta → (∀ x ∈ newer, x.isReversed = true ∨ x.validityDaysDelta = 0) ∧
      ∀ o ∈ older, o.isReversed = true → o.validityDaysDelta = 0)
    (keeps : Undoable (older ++ markReversed m :: newer) →
      m.daysOwedDelta ≤ line.daysOwed ∧ GivesBack m line (older ++ newer) today) :
    Restorable start ((restoredState m line today).patch line) (older ++ markReversed m :: newer) := by
  have free : ∀ o ∈ older, ¬Stuck o m := by
    intro o member ⟨_, charge, reversed, dayful⟩
    exact dayful ((guard charge).2 o member reversed)
  refine ⟨?_, ?_, ?_, ?_⟩
  · change line.credits - m.creditsDelta = _
    rw [restorable.credits, sum_marked active]
    omega
  · intro undoable
    change max 0 (line.daysOwed - m.daysOwedDelta) = _
    rw [max_eq_right (sub_nonneg.mpr (keeps undoable).1), restorable.owed (undoable_before active free undoable),
      sum_marked active]
    omega
  · intro undoable
    obtain ⟨unpaid, givesBack⟩ := keeps undoable
    rw [← restorable.expiry (undoable_before active free undoable)]
    exact restoredExpiry_unwound active (fun charge => (guard charge).1) unpaid givesBack undoable
  · intro x member
    rcases List.mem_append.mp member with before | inside
    · exact restorable.charges x (List.mem_append_left _ before)
    · rcases List.mem_cons.mp inside with rfl | after
      · exact restorable.charges m (List.mem_append_right _ List.mem_cons_self)
      · exact restorable.charges x (List.mem_append_right _ (List.mem_cons_of_mem m after))

end

/-! Runs of one shop. -/

/-- The log of the line once a movement is undone. -/
def logWithout (b : Book) (lineId movementId : Nat) : List CarrierLineMovement :=
  (lineLog b lineId).map fun entry => if entry.1 = movementId then markReversed entry.2 else entry.2

def others (b : Book) (lineId movementId : Nat) : List CarrierLineMovement :=
  ((lineLog b lineId).filter fun entry => entry.1 ≠ movementId).map (·.2)

/-- While every movement of the line could still be undone, no sale is undone whose owed days were paid since, or whose
days the line can no longer take back in full. -/
def Restores (lineId : Nat) (b : Book) : MovementAction → Prop
  | .applyMovement .. => True
  | .reverseMovement movementId today => ∀ m line, b.movements.get movementId = some m → m.isReversed = false →
    m.carrierLineId = lineId → b.lines.get lineId = some line → Undoable (logWithout b lineId movementId) →
      m.daysOwedDelta ≤ line.daysOwed ∧ GivesBack m line (others b lineId movementId) today

structure Sound (start : CarrierLine) (lineId : Nat) (b : Book) : Prop where
  line : ∃ line, b.lines.get lineId = some line ∧ 0 ≤ line.daysOwed ∧ Restorable start line ((lineLog b lineId).map (·.2))

/-- The line is still there, and owes no negative days. -/
def OwesNothingNegative (lineId : Nat) (b : Book) : Prop :=
  ∃ line, b.lines.get lineId = some line ∧ 0 ≤ line.daysOwed

theorem applyMovement_log {b : Book} {lineId : Nat} {lines : Table CarrierLine} {m : CarrierLineMovement} :
    (lineLog { b with lines := lines, movements := b.movements.insert m } lineId).map (·.2) =
      (lineLog b lineId).map (·.2) ++ if m.carrierLineId = lineId then [m] else [] := by
  rw [lineLog, Table.select_insert, List.map_append]
  congr 1
  by_cases own : m.carrierLineId = lineId
  · rw [if_pos (decide_eq_true own), if_pos own]
    rfl
  · rw [if_neg (by simpa using own), if_neg own]
    rfl

theorem reverseMovement_log {b : Book} {lineId movementId : Nat} {lines : Table CarrierLine} :
    (lineLog { b with lines := lines, movements := b.movements.update movementId markReversed } lineId).map (·.2) =
      logWithout b lineId movementId := by
  have same : ∀ row, b.movements.get movementId = some row →
      decide ((markReversed row).carrierLineId = lineId) = decide (row.carrierLineId = lineId) := fun _ _ => rfl
  rw [lineLog, Table.select_update _ _ _ _ same, List.map_map]
  rfl

/-- The log around one of its movements. -/
theorem lineLog_split {b : Book} {lineId movementId : Nat} {m : CarrierLineMovement}
    (found : b.movements.get movementId = some m) (own : m.carrierLineId = lineId) :
    ∃ older newer, lineLog b lineId = older ++ (movementId, m) :: newer ∧ (∀ e ∈ older, e.1 < movementId) ∧
      ∀ e ∈ newer, movementId < e.1 := by
  obtain ⟨older, newer, split⟩ := List.append_of_mem (mem_lineLog.mpr ⟨found, own⟩)
  have sorted := lineLog_sorted b lineId
  rw [split] at sorted
  obtain ⟨-, rest, between⟩ := List.pairwise_append.mp sorted
  exact ⟨older, newer, split, fun e member => between e member _ List.mem_cons_self, (List.pairwise_cons.mp rest).1⟩

section
variable {b : Book} {lineId movementId : Nat} {m : CarrierLineMovement} {older newer : List (Nat × CarrierLineMovement)}
  (split : lineLog b lineId = older ++ (movementId, m) :: newer) (before : ∀ e ∈ older, e.1 < movementId)
  (after : ∀ e ∈ newer, movementId < e.1)
include split before after

theorem logWithout_split :
    logWithout b lineId movementId = older.map (·.2) ++ markReversed m :: newer.map (·.2) := by
  have kept : ∀ entries : List (Nat × CarrierLineMovement), (∀ e ∈ entries, e.1 ≠ movementId) →
      entries.map (fun entry => if entry.1 = movementId then markReversed entry.2 else entry.2) = entries.map (·.2) :=
    fun entries other => List.map_congr_left fun e member => if_neg (other e member)
  rw [logWithout, split, List.map_append, List.map_cons, kept older fun e member => (before e member).ne,
    kept newer fun e member => (after e member).ne']
  rw [if_pos rfl]

theorem others_split : others b lineId movementId = older.map (·.2) ++ newer.map (·.2) := by
  have kept : ∀ entries : List (Nat × CarrierLineMovement), (∀ e ∈ entries, e.1 ≠ movementId) →
      entries.filter (fun entry => decide (entry.1 ≠ movementId)) = entries :=
    fun entries other => List.filter_eq_self.mpr fun e member => decide_eq_true (other e member)
  rw [others, split, List.filter_append, List.filter_cons_of_neg (by simp),
    kept older fun e member => (before e member).ne, kept newer fun e member => (after e member).ne', List.map_append]

/-- What the order guard has seen when it lets a charge be undone. -/
theorem guard_passed {line : CarrierLine} (own : m.carrierLineId = lineId) (passed : refuseReversal b movementId m line = none)
    (charge : 0 < m.validityDaysDelta) :
    (∀ x ∈ newer.map (·.2), x.isReversed = true ∨ x.validityDaysDelta = 0) ∧
      ∀ o ∈ older.map (·.2), o.isReversed = true → o.validityDaysDelta = 0 := by
  have seen : ∀ e, e ∈ lineLog b lineId → e.2.validityDaysDelta ≠ 0 → e ∈ validityMovements b lineId := by
    intro e member dayful
    obtain ⟨found, own⟩ := mem_lineLog.mp member
    refine Table.mem_select.mpr ⟨found, ?_⟩
    rw [decide_eq_true own, decide_eq_true dayful]
    rfl
  unfold refuseReversal at passed
  rw [if_pos charge, own] at passed
  split_ifs at passed with later earlier
  have noLater := List.find?_eq_none.mp (Option.not_isSome_iff_eq_none.mp later)
  have noEarlier := List.find?_eq_none.mp (Option.not_isSome_iff_eq_none.mp earlier)
  constructor
  · intro x member
    obtain ⟨e, inside, rfl⟩ := List.mem_map.mp member
    by_contra stands
    obtain ⟨active, dayful⟩ := not_or.mp stands
    have listed : e ∈ lineLog b lineId := by
      rw [split]
      exact List.mem_append_right _ (List.mem_cons_of_mem _ inside)
    apply noLater e (seen e listed dayful)
    rw [decide_eq_true (after e inside), Bool.eq_false_of_not_eq_true active]
    rfl
  · intro o member reversed
    obtain ⟨e, inside, rfl⟩ := List.mem_map.mp member
    by_contra dayful
    have listed : e ∈ lineLog b lineId := by
      rw [split]
      exact List.mem_append_left _ inside
    apply noEarlier e (List.mem_reverse.mpr (seen e listed dayful))
    rw [decide_eq_true (before e inside), reversed]
    rfl

end

theorem applyMovement_sound {start : CarrierLine} {lineId : Nat} {b b' : Book} (sound : Sound start lineId b)
    {input : ApplyCarrierLineMovementInput} (delta : input.validityExpiresAt = none)
    (done : applyMovement b input = .ok b') : Sound start lineId b' := by
  obtain ⟨line, there, owed, restorable⟩ := sound.line
  obtain ⟨line', applied, found, computed, -, rfl⟩ := applyMovement_ok done
  refine ⟨_, Table.get_update_of_get there _ _, ?_⟩
  rw [applyMovement_log]
  by_cases own : input.carrierLineId = lineId
  · rw [own, there] at found
    cases found
    have recorded := applied_recorded owed delta computed
    rw [if_pos own, if_pos (show (movementOf input line applied).carrierLineId = lineId from own)]
    exact ⟨recorded.nonneg, recorded.restorable restorable⟩
  · rw [if_neg own, if_neg (show ¬(movementOf input line' applied).carrierLineId = lineId from own), List.append_nil]
    exact ⟨owed, restorable⟩

theorem reverseMovement_sound {start : CarrierLine} {lineId : Nat} {b b' : Book} (sound : Sound start lineId b)
    {movementId : Nat} {today : Day} (restores : Restores lineId b (.reverseMovement movementId today))
    (done : reverseMovement b movementId today = .ok b') : Sound start lineId b' := by
  obtain ⟨line, there, owed, restorable⟩ := sound.line
  rcases reverseMovement_ok done with rfl | ⟨m, line', found, found', active, passed, rfl⟩
  · exact sound
  · refine ⟨_, Table.get_update_of_get there _ _, ?_⟩
    rw [reverseMovement_log]
    by_cases own : m.carrierLineId = lineId
    · rw [own, there] at found'
      cases found'
      obtain ⟨older, newer, split, before, after⟩ := lineLog_split found own
      have keeps := restores m line found active own there
      rw [logWithout_split split before after, others_split split before after] at keeps
      rw [logWithout_split split before after, if_pos own]
      rw [split, List.map_append, List.map_cons] at restorable
      exact ⟨le_max_left _ _, restorable.undone active (guard_passed split before after own passed) keeps⟩
    · have kept : logWithout b lineId movementId = (lineLog b lineId).map (·.2) := by
        apply List.map_congr_left
        intro entry member
        refine if_neg ?_
        intro same
        obtain ⟨inside, mine⟩ := mem_lineLog.mp member
        rw [same, found] at inside
        cases inside
        exact own mine
      rw [kept, if_neg own]
      exact ⟨owed, restorable⟩

theorem exec_sound {start : CarrierLine} {lineId : Nat} {b : Book} (sound : Sound start lineId b) (action : MovementAction)
    (restores : Restores lineId b action) : Sound start lineId (exec b action) := by
  apply leaves_invariant sound
  intro b' done
  cases action with
  | applyMovement => exact applyMovement_sound sound rfl done
  | reverseMovement => exact reverseMovement_sound sound restores done

/-- No condition is needed for the owed days. -/
theorem exec_owes {lineId : Nat} {b : Book} (owes : OwesNothingNegative lineId b) (action : MovementAction) :
    OwesNothingNegative lineId (exec b action) := by
  apply leaves_invariant owes
  intro b' done
  obtain ⟨line, there, owed⟩ := owes
  cases action with
  | applyMovement carrierLineId =>
    obtain ⟨line', applied, found, computed, -, rfl⟩ := applyMovement_ok done
    refine ⟨_, Table.get_update_of_get there _ _, ?_⟩
    split_ifs with own
    · rw [own, there] at found
      cases found
      exact (applied_recorded owed rfl computed).nonneg
    · exact owed
  | reverseMovement =>
    rcases reverseMovement_ok done with rfl | ⟨m, line', found, found', -, -, rfl⟩
    · exact ⟨line, there, owed⟩
    · refine ⟨_, Table.get_update_of_get there _ _, ?_⟩
      split_ifs
      · exact le_max_left _ _
      · exact owed

/-- A line never owes negative days. Once all its movements are reversed it is the line it was before the first. -/
theorem movements_undone (b : Book) (lineId : Nat) (start : CarrierLine) (there : b.lines.get lineId = some start)
    (owed : 0 ≤ start.daysOwed) (untouched : lineLog b lineId = []) (actions before after : List MovementAction)
    (split : actions = before ++ after) :
    ∃ line, (run exec b before).lines.get lineId = some line ∧ 0 ≤ line.daysOwed ∧
      (Meets exec (Restores lineId) b actions → (∀ e ∈ lineLog (run exec b before) lineId, e.2.isReversed = true) →
        line.credits = start.credits ∧ line.validityExpiresAt = start.validityExpiresAt ∧
          line.daysOwed = start.daysOwed) := by
  subst split
  have owes : OwesNothingNegative lineId (run exec b before) :=
    run_always (OwesNothingNegative lineId) (fun _ action owes => exec_owes owes action) ⟨start, there, owed⟩ before
  obtain ⟨line, found, nonneg⟩ := owes
  refine ⟨line, found, nonneg, ?_⟩
  intro meets reversed
  have sound : Sound start lineId b := by
    refine ⟨start, there, owed, ?_⟩
    rw [untouched]
    exact ⟨(add_zero _).symm, fun _ => (add_zero _).symm, fun _ => rfl, fun m member => absurd member List.not_mem_nil⟩
  have keeps : ∀ b action, Sound start lineId b → Restores lineId b action → Sound start lineId (exec b action) :=
    fun _ action sound restores => exec_sound sound action restores
  have kept : Sound start lineId (run exec b before) := run_invariant keeps sound (meets_append.mp meets).1
  obtain ⟨line', found', -, restorable⟩ := kept.line
  rw [found] at found'
  cases found'
  apply restorable.restored
  intro m member
  obtain ⟨e, inside, rfl⟩ := List.mem_map.mp member
  exact reversed e inside

/-- A line on the last day of its validity. -/
def lastDay : CarrierLine where
  carrier := .mtc
  phoneNumber := "76123456"
  label := none
  credits := 500
  validityExpiresAt := some 20000
  notes := none
  isPrimary := true

def oneLine : Book where
  lines := ⟨[some lastDay]⟩

def sale : MovementAction :=
  .applyMovement 0 0 (-30) "ONLY_DAYS" (some 1) 20000

def charge : MovementAction :=
  .applyMovement 0 0 30 "SELF_CHARGE" (some 2) 20000

/-- The sale, all of it sold ahead, is undone before the charge that paid for it. -/
def saleFirst : List MovementAction :=
  [sale, charge, .reverseMovement 0 20000, .reverseMovement 1 20000]

theorem saleFirst_not_restored :
    ∃ line, (run exec oneLine saleFirst).lines.get 0 = some line ∧
      (∀ e ∈ lineLog (run exec oneLine saleFirst) 0, e.2.isReversed = true) ∧ line.daysOwed ≠ lastDay.daysOwed :=
  ⟨{ lastDay with daysOwed := 30 }, by decide, by decide, by decide⟩

/-- The other order. -/
def chargeFirst : List MovementAction :=
  [sale, charge, .reverseMovement 1 20000, .reverseMovement 0 20000]

theorem chargeFirst_restored :
    ∃ line, (run exec oneLine chargeFirst).lines.get 0 = some line ∧ 0 ≤ line.daysOwed ∧
      line.credits = lastDay.credits ∧ line.validityExpiresAt = lastDay.validityExpiresAt ∧
        line.daysOwed = lastDay.daysOwed := by
  have first : Restores 0 (run exec oneLine [sale, charge]) (.reverseMovement 1 20000) := by
    intro m line found _ _ there _
    cases found
    cases there
    exact ⟨by decide, fun sells => absurd sells (by decide)⟩
  have second : Restores 0 (run exec oneLine [sale, charge, .reverseMovement 1 20000]) (.reverseMovement 0 20000) := by
    intro m line found _ _ there _
    cases found
    cases there
    exact ⟨by decide, fun sells => absurd sells (by decide)⟩
  obtain ⟨line, found, nonneg, restored⟩ :=
    movements_undone oneLine 0 lastDay rfl (by decide) rfl chargeFirst chargeFirst [] rfl
  exact ⟨line, found, nonneg, restored ⟨trivial, trivial, first, second, trivial⟩ (by decide)⟩

end Liratek.Carrier.LineUndo
