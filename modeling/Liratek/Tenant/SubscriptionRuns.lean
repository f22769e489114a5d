import Liratek.Lib.Runs
import Liratek.Tenant.Subscription

/-! A shop's standing ended any sequence of payments, extensions and sweeps. -/

namespace Liratek.Tenant.SubscriptionRuns
open Lib Lib.Calls Lib.Runs TrialCalendar Subscription

/-! What a sweep does to a row. -/

def sweptRow (now : ℤ) (row : SubscriptionEntity) : SubscriptionEntity :=
  if periodOver (toUtcSqlTimestamp now) row then graceRow (toUtcSqlTimestamp (addDays now gracePeriodDays)) row
  else if graceOver (toUtcSqlTimestamp now) row then readOnlyRow row
  else row

theorem updateAll_get (s : Subscriptions) (tenantIds : List Nat) (change : SubscriptionEntity → SubscriptionEntity)
    (again : ∀ row, change (change row) = change row) (id : Nat) :
    (updateAll s tenantIds change).get id = (s.get id).map fun row => if id ∈ tenantIds then change row else row := by
  induction tenantIds generalizing s with
  | nil => simp [updateAll]
  | cons first rest ih =>
    change (updateAll (s.update first change) rest change).get id = _
    rw [ih]
    by_cases this : id = first
    · rw [this, Table.get_update_self, Option.map_map]
      congr 1
      funext row
      dsimp only [Function.comp_apply]
      split_ifs <;> simp_all
    · rw [Table.get_update_of_ne _ _ this]
      simp [this]

theorem mem_lapsed {s : Subscriptions} {id : Nat} {row : SubscriptionEntity} (found : s.get id = some row)
    (p : SubscriptionEntity → Bool) : id ∈ (s.select p).map (·.1) ↔ p row = true := by
  rw [List.mem_map]
  constructor
  · rintro ⟨⟨id', row'⟩, member, rfl⟩
    obtain ⟨there, chosen⟩ := Table.mem_select.mp member
    rw [found] at there
    cases there
    exact chosen
  · exact fun chosen => ⟨(id, row), Table.mem_select.mpr ⟨found, chosen⟩, rfl⟩

theorem runLapseSweep_get (s : Subscriptions) (now : ℤ) (id : Nat) :
    (runLapseSweep s now).get id = (s.get id).map (sweptRow now) := by
  unfold runLapseSweep findLapsed
  dsimp only
  rw [updateAll_get _ _ readOnlyRow fun _ => rfl, updateAll_get _ _ (graceRow _) fun _ => rfl, Option.map_map]
  rcases found : s.get id with _ | row
  · rfl
  · rw [Option.map_some, Option.map_some]
    dsimp only [Function.comp_apply]
    simp only [mem_lapsed found]
    unfold sweptRow
    by_cases ended : periodOver (toUtcSqlTimestamp now) row = true
    · have other : ¬graceOver (toUtcSqlTimestamp now) row = true := by
        intro also
        unfold periodOver at ended
        unfold graceOver at also
        rw [Bool.and_eq_true, decide_eq_true_eq] at ended also
        rw [ended.1] at also
        cases also.1
      rw [if_pos ended, if_pos ended, if_neg other]
    · rw [if_neg ended, if_neg ended]

/-- A row moves by one step at most. -/
theorem sweptRow_status (now : ℤ) (row : SubscriptionEntity) :
    (sweptRow now row).status = row.status ∨ row.status = .active ∧ (sweptRow now row).status = .grace ∨
      row.status = .grace ∧ (sweptRow now row).status = .readOnly := by
  unfold sweptRow
  split_ifs with period grace
  · unfold periodOver at period
    rw [Bool.and_eq_true, decide_eq_true_eq] at period
    exact Or.inr (Or.inl ⟨period.1, rfl⟩)
  · unfold graceOver at grace
    rw [Bool.and_eq_true, decide_eq_true_eq] at grace
    exact Or.inr (Or.inr ⟨grace.1, rfl⟩)
  · exact Or.inl rfl

theorem graceEnds_eq (now : ℤ) : toUtcSqlTimestamp (addDays now gracePeriodDays) = toUtcSqlTimestamp now + 604800 := by
  unfold toUtcSqlTimestamp addDays gracePeriodDays dayMs
  omega

theorem sweptRow_twice (now : ℤ) (row : SubscriptionEntity) : sweptRow now (sweptRow now row) = sweptRow now row := by
  by_cases period : periodOver (toUtcSqlTimestamp now) row = true
  · have first : sweptRow now row = graceRow (toUtcSqlTimestamp now + 604800) row := by
      rw [← graceEnds_eq]
      exact if_pos period
    have still : ¬toUtcSqlTimestamp now + 604800 ≤ toUtcSqlTimestamp now := by omega
    rw [first]
    unfold sweptRow periodOver graceOver graceRow
    simp [still]
  · by_cases grace : graceOver (toUtcSqlTimestamp now) row = true
    · have first : sweptRow now row = readOnlyRow row := by
        unfold sweptRow
        rw [if_neg period, if_pos grace]
      rw [first]
      unfold sweptRow periodOver graceOver readOnlyRow
      simp
    · have none : sweptRow now row = row := by
        unfold sweptRow
        rw [if_neg period, if_neg grace]
      rw [none, none]

section
variable {shopDayOf : ℤ → ℤ}

/-- A trial is never read from the paid columns. -/
def TrialKept (row : SubscriptionEntity) : Prop :=
  row.trialEndsAt.isSome = true → row.status = .active ∧ row.currentPeriodEnd = none ∧ row.graceEndsAt = none

/-- The call records a payment of the shop. -/
def Pays (shopDayOf : ℤ → ℤ) (tenantId : Nat) (s : Subscriptions) (input : ℤ × Action) : Prop :=
  (∃ s', call shopDayOf s input = .ok s') ∧
    ((∃ periodEnd, input.2 = .markPaid tenantId periodEnd) ∨ ∃ lastPaid, input.2 = .activate tenantId lastPaid)

/-- What an action can do to a row that is there. -/
inductive RowStep (shopDayOf : ℤ → ℤ) (s : Subscriptions) (input : ℤ × Action) (id : Nat) (row : SubscriptionEntity) :
    SubscriptionEntity → Prop where
  | same : RowStep shopDayOf s input id row row
  | paid (periodEnd : Option ℤ) (pays : Pays shopDayOf id s input) : RowStep shopDayOf s input id row (paidRow periodEnd row)
  | extended (instant : ℤ) (active : row.status = .active) (noPeriod : row.currentPeriodEnd = none)
    (noGrace : row.graceEndsAt = none) : RowStep shopDayOf s input id row (trialRow input.1 instant row)
  | swept (sweep : input.2 = .runLapseSweep) : RowStep shopDayOf s input id row (sweptRow input.1 row)

theorem update_step {s : Subscriptions} {input : ℤ × Action} {id target : Nat} {row' : SubscriptionEntity}
    {change : SubscriptionEntity → SubscriptionEntity} (after : (s.update target change).get id = some row')
    (one : ∀ row, target = id → s.get id = some row → RowStep shopDayOf s input id row (change row)) :
    ∃ row, s.get id = some row ∧ RowStep shopDayOf s input id row row' := by
  by_cases this : id = target
  · rw [this, Table.get_update_self] at after
    obtain ⟨row, found, rfl⟩ := Option.map_eq_some_iff.mp after
    rw [← this] at found
    exact ⟨row, found, one row this.symm found⟩
  · rw [Table.get_update_of_ne _ _ this] at after
    exact ⟨row', after, RowStep.same⟩

theorem onTrial_active {row : SubscriptionEntity} {now : ℤ} (running : onTrial shopDayOf row now = true) :
    row.status = .active ∧ row.currentPeriodEnd = none ∧ row.graceEndsAt = none := by
  have trial : ∃ view, trialOf shopDayOf row now = some view := by
    rcases none : trialOf shopDayOf row now with _ | view
    · unfold onTrial toView at running
      rw [none] at running
      simp [standingOf] at running
    · exact ⟨view, rfl⟩
  obtain ⟨view, here⟩ := trial
  unfold trialOf at here
  obtain ⟨ends, -, kept⟩ := Option.bind_eq_some_iff.mp here
  split_ifs at kept with broken
  simpa [and_assoc] using broken

/-- A row of a new shop. -/
def IsSeed (row : SubscriptionEntity) : Prop :=
  row.status = .active ∧ row.currentPeriodEnd = none ∧ row.graceEndsAt = none

theorem call_row {s s' : Subscriptions} {input : ℤ × Action} {id : Nat} {row' : SubscriptionEntity}
    (done : call shopDayOf s input = .ok s') (after : s'.get id = some row') :
    (∃ row, s.get id = some row ∧ RowStep shopDayOf s input id row row') ∨ s.get id = none ∧ IsSeed row' := by
  have pays := done
  obtain ⟨now, action⟩ := input
  cases action with
  | create withTrial =>
    cases done
    rcases Table.get_insert after with old | ⟨rfl, rfl⟩
    · exact Or.inl ⟨row', old, RowStep.same⟩
    · refine Or.inr ⟨Table.get_of_le (le_refl _), ?_⟩
      split_ifs
      · exact ⟨rfl, rfl, rfl⟩
      · exact ⟨rfl, rfl, rfl⟩
  | markPaid tenantId periodEnd =>
    unfold call markPaid at done
    dsimp only at done
    split_ifs at done
    cases done
    left
    apply update_step after
    rintro row rfl _
    exact RowStep.paid periodEnd ⟨⟨_, pays⟩, Or.inl ⟨periodEnd, rfl⟩⟩
  | activate tenantId lastPaid =>
    have paid : ∃ periodEnd, s' = s.update tenantId (paidRow periodEnd) := by
      unfold call activate at done
      dsimp only at done
      split at done
      · cases done
      · split at done
        · cases done
          exact ⟨none, rfl⟩
        · obtain ⟨instant, -, rfl⟩ := map_ok done
          exact ⟨some (toUtcSqlTimestamp instant), rfl⟩
    obtain ⟨periodEnd, rfl⟩ := paid
    left
    apply update_step after
    rintro row rfl _
    exact RowStep.paid periodEnd ⟨⟨_, pays⟩, Or.inr ⟨lastPaid, rfl⟩⟩
  | extendTrial tenantId lastDay =>
    unfold call extendTrial at done
    dsimp only at done
    split at done
    · cases done
    · rename_i target there
      split_ifs at done with refused
      obtain ⟨instant, -, rfl⟩ := map_ok done
      left
      apply update_step after
      rintro row rfl found
      rw [found] at there
      cases there
      have allowed : target.status = .active ∧ target.currentPeriodEnd = none ∧ target.graceEndsAt = none := by
        by_cases running : onTrial shopDayOf target now = true
        · exact onTrial_active running
        · unfold freeNoPeriod at refused
          simpa [running, and_assoc] using refused
      exact RowStep.extended instant allowed.1 allowed.2.1 allowed.2.2
  | runLapseSweep =>
    cases done
    rw [runLapseSweep_get] at after
    obtain ⟨row, found, rfl⟩ := Option.map_eq_some_iff.mp after
    exact Or.inl ⟨row, found, RowStep.swept rfl⟩

theorem exec_row {s : Subscriptions} {input : ℤ × Action} {id : Nat} {row' : SubscriptionEntity}
    (after : (exec shopDayOf s input).get id = some row') :
    (∃ row, s.get id = some row ∧ RowStep shopDayOf s input id row row') ∨ s.get id = none ∧ IsSeed row' := by
  unfold exec at after
  rcases done : call shopDayOf s input with refused | s'
  · rw [done] at after
    exact Or.inl ⟨row', after, RowStep.same⟩
  · rw [done] at after
    exact call_row done after

theorem TrialKept.step {s : Subscriptions} {input : ℤ × Action} {id : Nat} {row row' : SubscriptionEntity}
    (kept : TrialKept row) (step : RowStep shopDayOf s input id row row') : TrialKept row' := by
  cases step with
  | same => exact kept
  | paid periodEnd pays => exact fun none => nomatch none
  | extended instant active noPeriod noGrace => exact fun _ => ⟨active, noPeriod, noGrace⟩
  | swept sweep =>
    intro some
    have same : (sweptRow input.1 row).trialEndsAt = row.trialEndsAt := by
      unfold sweptRow
      split_ifs <;> rfl
    obtain ⟨active, noPeriod, noGrace⟩ := kept (same ▸ some)
    have still : sweptRow input.1 row = row := by
      unfold sweptRow periodOver graceOver
      rw [active, noPeriod]
      simp
    rw [still]
    exact ⟨active, noPeriod, noGrace⟩

end

/-! How a shop came to its standing. -/

def grace : ℤ := gracePeriodDays * dayMs

/-- The sweep at `time` is the one that moved the shop to grace. -/
def MovesToGrace (shopDayOf : ℤ → ℤ) (id : Nat) (s : Subscriptions) (time : ℤ) : Prop :=
  (∃ row, s.get id = some row ∧ row.status = .active) ∧
    ∃ row, (exec shopDayOf s (time, .runLapseSweep)).get id = some row ∧ row.status = .grace

/-- Nothing is paid for the shop. -/
def Unpaid (shopDayOf : ℤ → ℤ) (id : Nat) (s : Subscriptions) (inputs : List (ℤ × Action)) : Prop :=
  Meets (exec shopDayOf) (fun s input => ¬Pays shopDayOf id s input) s inputs

/-- A sweep moved the shop to grace, and nothing was paid since. Its grace ends at `graceEnd`. -/
def InGrace (shopDayOf : ℤ → ℤ) (id : Nat) (inputs : List (ℤ × Action)) (graceEnd : ℤ) : Prop :=
  ∃ before time after, inputs = before ++ (time, .runLapseSweep) :: after ∧
    MovesToGrace shopDayOf id (run (exec shopDayOf) {} before) time ∧
      Unpaid shopDayOf id (run (exec shopDayOf) {} (before ++ [(time, .runLapseSweep)])) after ∧
        graceEnd = toUtcSqlTimestamp time + 604800

/-- A sweep moved the shop to grace, a later one came at least the grace period after it by `clock`, and nothing was
paid since. -/
def GraceServed (shopDayOf : ℤ → ℤ) (clock : ℤ → ℤ) (id : Nat) (inputs : List (ℤ × Action)) : Prop :=
  ∃ before time between later after,
    inputs = before ++ (time, .runLapseSweep) :: (between ++ (later, .runLapseSweep) :: after) ∧
      MovesToGrace shopDayOf id (run (exec shopDayOf) {} before) time ∧
        Unpaid shopDayOf id (run (exec shopDayOf) {} (before ++ [(time, .runLapseSweep)]))
            (between ++ (later, .runLapseSweep) :: after) ∧ clock time + grace ≤ clock later

/-- An instant as it is stored. -/
def wholeSecond (instant : ℤ) : ℤ :=
  parseUtcInstant (toUtcSqlTimestamp instant)

/-- How each standing was reached. -/
structure Reached (shopDayOf : ℤ → ℤ) (inputs : List (ℤ × Action)) (id : Nat) (row : SubscriptionEntity) : Prop where
  trial : TrialKept row
  active : row.status = .active → row.graceEndsAt = none
  grace : row.status = .grace → ∃ graceEnd, row.graceEndsAt = some graceEnd ∧ InGrace shopDayOf id inputs graceEnd
  readOnly : row.status = .readOnly → GraceServed shopDayOf wholeSecond id inputs

section
variable {shopDayOf : ℤ → ℤ} {id : Nat} {inputs : List (ℤ × Action)} {input : ℤ × Action}

theorem Unpaid.snoc {s : Subscriptions} {after : List (ℤ × Action)} (unpaid : Unpaid shopDayOf id s after)
    (not : ¬Pays shopDayOf id (run (exec shopDayOf) s after) input) : Unpaid shopDayOf id s (after ++ [input]) :=
  meets_append.mpr ⟨unpaid, not, trivial⟩

theorem InGrace.snoc {graceEnd : ℤ} (here : InGrace shopDayOf id inputs graceEnd)
    (not : ¬Pays shopDayOf id (run (exec shopDayOf) {} inputs) input) : InGrace shopDayOf id (inputs ++ [input]) graceEnd := by
  obtain ⟨before, time, after, rfl, moved, unpaid, ends⟩ := here
  have split : run (exec shopDayOf) {} (before ++ (time, .runLapseSweep) :: after) =
      run (exec shopDayOf) (run (exec shopDayOf) {} (before ++ [(time, .runLapseSweep)])) after := by
    rw [← run_append, List.append_assoc, List.singleton_append]
  rw [split] at not
  exact ⟨before, time, after ++ [input], by rw [List.append_assoc, List.cons_append], moved, unpaid.snoc not, ends⟩

theorem GraceServed.snoc {clock : ℤ → ℤ} (here : GraceServed shopDayOf clock id inputs)
    (not : ¬Pays shopDayOf id (run (exec shopDayOf) {} inputs) input) : GraceServed shopDayOf clock id (inputs ++ [input]) := by
  obtain ⟨before, time, between, later, after, rfl, moved, unpaid, long⟩ := here
  have split : run (exec shopDayOf) {} (before ++ (time, .runLapseSweep) :: (between ++ (later, .runLapseSweep) :: after)) =
      run (exec shopDayOf) (run (exec shopDayOf) {} (before ++ [(time, .runLapseSweep)]))
        (between ++ (later, .runLapseSweep) :: after) := by
    rw [← run_append, List.append_assoc, List.singleton_append]
  rw [split] at not
  have longer := unpaid.snoc not
  rw [List.append_assoc, List.cons_append] at longer
  refine ⟨before, time, between, later, after ++ [input], ?_, moved, longer, long⟩
  simp only [List.append_assoc, List.cons_append]

/-- The sweep that ends a grace. -/
theorem InGrace.served {graceEnd now : ℤ} (here : InGrace shopDayOf id inputs graceEnd)
    (ended : graceEnd ≤ toUtcSqlTimestamp now) :
    GraceServed shopDayOf wholeSecond id (inputs ++ [(now, .runLapseSweep)]) := by
  have not : ¬Pays shopDayOf id (run (exec shopDayOf) {} inputs) (now, .runLapseSweep) := by
    rintro ⟨-, ⟨periodEnd, same⟩ | ⟨lastPaid, same⟩⟩
    · cases same
    · cases same
  obtain ⟨before, time, after, rfl, moved, unpaid, rfl⟩ := here
  have split : run (exec shopDayOf) {} (before ++ (time, .runLapseSweep) :: after) =
      run (exec shopDayOf) (run (exec shopDayOf) {} (before ++ [(time, .runLapseSweep)])) after := by
    rw [← run_append, List.append_assoc, List.singleton_append]
  rw [split] at not
  refine ⟨before, time, after, now, [], by rw [List.append_assoc, List.cons_append], moved, unpaid.snoc not, ?_⟩
  unfold wholeSecond parseUtcInstant grace gracePeriodDays dayMs
  omega

theorem sweptRow_readOnly {now : ℤ} {row : SubscriptionEntity} (moved : (sweptRow now row).status = .readOnly) :
    row.status = .readOnly ∨ row.status = .grace ∧ ∃ graceEnd, row.graceEndsAt = some graceEnd ∧
      graceEnd ≤ toUtcSqlTimestamp now := by
  unfold sweptRow at moved
  split_ifs at moved with period ended
  · cases moved
  · unfold graceOver at ended
    rw [Bool.and_eq_true, decide_eq_true_eq] at ended
    obtain ⟨inGrace, past⟩ := ended
    rcases ends : row.graceEndsAt with _ | graceEnd
    · rw [ends] at past
      cases past
    · rw [ends] at past
      exact Or.inr ⟨inGrace, graceEnd, rfl, of_decide_eq_true past⟩
  · exact Or.inl moved

/-- A paid shop is active, with no grace. -/
theorem pays_active {s : Subscriptions} {row' : SubscriptionEntity} (pays : Pays shopDayOf id s input)
    (after : (exec shopDayOf s input).get id = some row') : row'.status = .active ∧ row'.graceEndsAt = none := by
  obtain ⟨⟨s', done⟩, kind⟩ := pays
  have paid : ∃ periodEnd, s' = s.update id (paidRow periodEnd) := by
    obtain ⟨now, action⟩ := input
    rcases kind with ⟨periodEnd, rfl⟩ | ⟨lastPaid, rfl⟩
    · unfold call markPaid at done
      dsimp only at done
      split_ifs at done
      cases done
      exact ⟨periodEnd, rfl⟩
    · unfold call activate at done
      dsimp only at done
      split at done
      · cases done
      · split at done
        · cases done
          exact ⟨none, rfl⟩
        · obtain ⟨instant, -, rfl⟩ := map_ok done
          exact ⟨some (toUtcSqlTimestamp instant), rfl⟩
  obtain ⟨periodEnd, rfl⟩ := paid
  unfold exec at after
  rw [done] at after
  change (s.update id (paidRow periodEnd)).get id = some row' at after
  rw [Table.get_update_self] at after
  obtain ⟨row, -, rfl⟩ := Option.map_eq_some_iff.mp after
  exact ⟨rfl, rfl⟩

theorem Reached.swept {now : ℤ} {row : SubscriptionEntity} (here : Reached shopDayOf inputs id row)
    (found : (run (exec shopDayOf) {} inputs).get id = some row)
    (trial : TrialKept (sweptRow now row))
    (not : ¬Pays shopDayOf id (run (exec shopDayOf) {} inputs) (now, .runLapseSweep)) :
    Reached shopDayOf (inputs ++ [(now, .runLapseSweep)]) id (sweptRow now row) := by
  have after : (exec shopDayOf (run (exec shopDayOf) {} inputs) (now, .runLapseSweep)).get id = some (sweptRow now row) := by
    change (runLapseSweep _ now).get id = _
    rw [runLapseSweep_get, found]
    rfl
  constructor
  · exact trial
  · intro active
    rcases sweptRow_status now row with same | ⟨-, moved⟩ | ⟨-, moved⟩
    · have still : sweptRow now row = row := by
        unfold sweptRow at same active ⊢
        split_ifs at same active ⊢
        · cases active
        · cases active
        · rfl
      rw [still] at active ⊢
      exact here.active active
    · rw [active] at moved
      cases moved
    · rw [active] at moved
      cases moved
  · intro inGrace
    by_cases period : periodOver (toUtcSqlTimestamp now) row = true
    · have moved : sweptRow now row = graceRow (toUtcSqlTimestamp now + 604800) row := by
        rw [← graceEnds_eq]
        exact if_pos period
      unfold periodOver at period
      rw [Bool.and_eq_true, decide_eq_true_eq] at period
      refine ⟨toUtcSqlTimestamp now + 604800, by rw [moved]; rfl, inputs, now, [], rfl, ⟨⟨row, found, period.1⟩, ?_⟩,
        trivial, rfl⟩
      exact ⟨_, after, inGrace⟩
    · have still : sweptRow now row = row := by
        unfold sweptRow at inGrace ⊢
        rw [if_neg period] at inGrace ⊢
        split_ifs at inGrace ⊢
        · cases inGrace
        · rfl
      rw [still] at inGrace ⊢
      obtain ⟨graceEnd, ends, since⟩ := here.grace inGrace
      exact ⟨graceEnd, ends, since.snoc not⟩
  · intro locked
    rcases sweptRow_readOnly locked with already | ⟨inGrace, graceEnd, ends, ended⟩
    · exact (here.readOnly already).snoc not
    · obtain ⟨graceEnd', ends', since⟩ := here.grace inGrace
      rw [ends] at ends'
      cases ends'
      exact since.served ended

theorem Reached.step {row row' : SubscriptionEntity} (here : Reached shopDayOf inputs id row)
    (found : (run (exec shopDayOf) {} inputs).get id = some row)
    (after : (exec shopDayOf (run (exec shopDayOf) {} inputs) input).get id = some row')
    (step : RowStep shopDayOf (run (exec shopDayOf) {} inputs) input id row row') :
    Reached shopDayOf (inputs ++ [input]) id row' := by
  have trial := here.trial.step step
  by_cases pays : Pays shopDayOf id (run (exec shopDayOf) {} inputs) input
  · obtain ⟨active, noGrace⟩ := pays_active pays after
    refine ⟨trial, fun _ => noGrace, ?_, ?_⟩
    · intro inGrace
      rw [active] at inGrace
      cases inGrace
    · intro locked
      rw [active] at locked
      cases locked
  · cases step with
    | same =>
      refine ⟨trial, here.active, ?_, fun locked => (here.readOnly locked).snoc pays⟩
      intro inGrace
      obtain ⟨graceEnd, ends, since⟩ := here.grace inGrace
      exact ⟨graceEnd, ends, since.snoc pays⟩
    | paid periodEnd paying => exact absurd paying pays
    | extended instant active noPeriod noGrace =>
      refine ⟨trial, fun _ => noGrace, ?_, ?_⟩
      · intro inGrace
        change row.status = .grace at inGrace
        rw [active] at inGrace
        cases inGrace
      · intro locked
        change row.status = .readOnly at locked
        rw [active] at locked
        cases locked
    | swept sweep =>
      obtain ⟨now, action⟩ := input
      cases sweep
      exact here.swept found trial pays

theorem reached (shopDayOf : ℤ → ℤ) (inputs : List (ℤ × Action)) (id : Nat) (row : SubscriptionEntity)
    (found : (run (exec shopDayOf) {} inputs).get id = some row) : Reached shopDayOf inputs id row := by
  induction inputs using List.reverseRecOn generalizing row with
  | nil => exact nomatch (Table.get_empty id).symm.trans found
  | append_singleton inputs input ih =>
    rw [run_append] at found
    change (exec shopDayOf (run (exec shopDayOf) {} inputs) input).get id = some row at found
    rcases exec_row found with ⟨old, there, step⟩ | ⟨missing, seed⟩
    · exact (ih old there).step there found step
    · refine ⟨fun _ => seed, fun _ => seed.2.2, ?_, ?_⟩
      · intro inGrace
        rw [seed.1] at inGrace
        cases inGrace
      · intro locked
        rw [seed.1] at locked
        cases locked

/-- A shop may write until it is locked or its trial is ended. -/
theorem canWrite_iff {s : Subscriptions} {row : SubscriptionEntity} (found : s.get id = some row) (kept : TrialKept row)
    (now : ℤ) : canWrite shopDayOf s id now = false ↔
      row.status = .readOnly ∨ ∃ ends, row.trialEndsAt = some ends ∧ parseUtcInstant ends ≤ now := by
  unfold canWrite
  rw [found]
  dsimp only
  rcases onTrial : row.trialEndsAt with _ | ends
  · have paid : trialOf shopDayOf row now = none := by
      unfold trialOf
      rw [onTrial]
      rfl
    unfold toView
    rw [paid]
    simp [standingOf]
  · obtain ⟨active, noPeriod, noGrace⟩ := kept (by rw [onTrial]; rfl)
    have running : trialOf shopDayOf row now = some (trialView shopDayOf (parseUtcInstant ends) now) := by
      unfold trialOf
      rw [onTrial, active, noPeriod, noGrace]
      rfl
    unfold toView
    rw [running, active]
    by_cases ended : parseUtcInstant ends ≤ now
    · simp [standingOf, trialView, ended]
    · simp [standingOf, trialView, ended]

end

/-- A shop after a run. -/
structure NeverLockedEarly (shopDayOf : ℤ → ℤ) (clock : ℤ → ℤ) (inputs : List (ℤ × Action)) (s : Subscriptions) : Prop where
  trial : ∀ id row, s.get id = some row → TrialKept row
  readOnly : ∀ id row, s.get id = some row → row.status = .readOnly → GraceServed shopDayOf clock id inputs
  oneStep : ∀ now id row row', s.get id = some row → (runLapseSweep s now).get id = some row' → row.status = .active →
    row'.status ≠ .readOnly
  twice : ∀ now id, (runLapseSweep (runLapseSweep s now) now).get id = (runLapseSweep s now).get id
  canWrite : ∀ now id row, s.get id = some row → (canWrite shopDayOf s id now = false ↔
    row.status = .readOnly ∨ ∃ ends, row.trialEndsAt = some ends ∧ parseUtcInstant ends ≤ now)
  refused : ∀ input error, call shopDayOf s input = .error error → exec shopDayOf s input = s

theorem never_locked_early (shopDayOf : ℤ → ℤ) (inputs : List (ℤ × Action)) :
    NeverLockedEarly shopDayOf wholeSecond inputs (run (exec shopDayOf) {} inputs) where
  trial id row found := (reached shopDayOf inputs id row found).trial
  readOnly id row found := (reached shopDayOf inputs id row found).readOnly
  oneStep := by
    intro now id row row' found after active
    rw [runLapseSweep_get, found] at after
    cases after
    rcases sweptRow_status now row with same | ⟨-, moved⟩ | ⟨inGrace, -⟩
    · rw [same, active]
      decide
    · rw [moved]
      decide
    · rw [active] at inGrace
      cases inGrace
  twice := by
    intro now id
    rw [runLapseSweep_get, runLapseSweep_get, Option.map_map]
    congr 1
    funext row
    exact sweptRow_twice now row
  canWrite now id row found := canWrite_iff found (reached shopDayOf inputs id row found).trial now
  refused := by
    intro input error refused
    change leaves _ (call shopDayOf (run (exec shopDayOf) {} inputs) input) = _
    rw [refused]
    rfl

/-- Paid until the start of 1970, swept 0.9 seconds later, and again seven days after that start. -/
def sweptWithinTheSecond : List (ℤ × Action) :=
  [(0, .create false), (0, .markPaid 0 (some 0)), (900, .runLapseSweep), (604800000, .runLapseSweep)]

/-- Beirut in the winter of 1970 -/
def winterDay (instant : ℤ) : ℤ :=
  (instant + 2 * 60 * minuteMs) / dayMs

theorem swept_within_the_second : ¬NeverLockedEarly winterDay (fun instant => instant) sweptWithinTheSecond
    (run (exec winterDay) {} sweptWithinTheSecond) := by
  intro holds
  have locked : ((run (exec winterDay) {} sweptWithinTheSecond).get 0).map (·.status) = some .readOnly := by
    decide +kernel
  obtain ⟨row, found, readOnly⟩ := Option.map_eq_some_iff.mp locked
  obtain ⟨before, time, between, later, after, same, -, -, long⟩ := holds.readOnly 0 row found readOnly
  have first : (time, Action.runLapseSweep) ∈ sweptWithinTheSecond := by
    rw [same]
    simp
  have second : (later, Action.runLapseSweep) ∈ sweptWithinTheSecond := by
    rw [same]
    simp
  simp [sweptWithinTheSecond] at first second
  change time + 7 * 86400000 ≤ later at long
  omega

end Liratek.Tenant.SubscriptionRuns
