import Liratek.Drawer.CheckpointResolution
import Mathlib.Tactic.Linarith

/-! The Drawer shortage expense of a closed difference follows what is open on it. -/

namespace Liratek.Drawer.ShortageExpense
open Lib CheckpointDifference CheckpointResolution

/-- What a difference's expense should hold when `resolved` of it is resolved. -/
def targetFor (d : Difference) (resolved : ℚ) : ℚ :=
  if d.isClosed && directionOf d.amount = .short && bookable d.currencyCode then
    (describeCheckpointDifference ⟨d.amount, resolved, d.isClosed, d.currencyCode⟩).openAmount
  else 0

theorem shortageTarget_eq (s : Books) (id : Nat) (d : Difference) : shortageTarget s id d = targetFor d (resolvedOf s id) :=
  rfl

/-- The expense of an amount held. -/
def booked (id : Nat) (d : Difference) (held : ℚ) : List Expense :=
  if 0 < held then [shortageExpense id d.currencyCode held] else []

/-- An amount an expense of the difference can hold. -/
structure Holdable (d : Difference) (held : ℚ) : Prop where
  nonneg : 0 ≤ held
  currency : 0 < held → bookable d.currencyCode = true

theorem targetFor_holdable (d : Difference) (resolved : ℚ) : Holdable d (targetFor d resolved) := by
  unfold targetFor
  split_ifs with due
  · rw [Bool.and_eq_true] at due
    refine ⟨?_, fun _ => due.2⟩
    rcases openAmount_range ⟨d.amount, resolved, d.isClosed, d.currencyCode⟩ with none | some
    · exact none.ge
    · exact ((epsilon_pos _).trans some).le
  · exact ⟨le_rfl, fun none => absurd none (lt_irrefl 0)⟩

/-- A change of what is resolved changes the target by more than the sync overlooks, or not at all. -/
theorem targetFor_apart {d : Difference} {resolved resolved' : ℚ} (nonneg : 0 ≤ resolved)
    (more : resolved + checkpointDifferenceEpsilon d.currencyCode < resolved') (within : resolved' ≤ |d.amount|) :
    targetFor d resolved' = targetFor d resolved ∨ targetFor d resolved' + 1 / 10 ^ 9 ≤ targetFor d resolved := by
  unfold targetFor
  split_ifs
  · have apart := @openAmount_apart d.amount resolved resolved' d.isClosed d.currencyCode nonneg more within
    have least := tolerance_le d.currencyCode
    right
    linarith
  · exact Or.inl rfl

theorem targetFor_open {d : Difference} (opened : d.isClosed = false) (resolved : ℚ) : targetFor d resolved = 0 := by
  unfold targetFor
  rw [opened]
  rfl

/-- The expenses of every difference, up to those that are to be derived again. -/
def Slack (s : Books) (gap : ℚ → ℚ → Prop) (stale : Nat → Prop) : Prop :=
  ∀ id d, s.differences.get id = some d → ∃ held, activeExpenses s id = booked id d held ∧ Holdable d held ∧
    (held = shortageTarget s id d ∨ stale id ∧ gap held (shortageTarget s id d))

/-- The expense of every difference holds what it should. -/
def Right (s : Books) : Prop :=
  ∀ id d, s.differences.get id = some d → activeExpenses s id = booked id d (shortageTarget s id d)

theorem Right.slack {s : Books} (right : Right s) (gap : ℚ → ℚ → Prop) : Slack s gap fun _ => False :=
  fun id d found => ⟨_, right id d found, targetFor_holdable d _, Or.inl rfl⟩

theorem Slack.right {s : Books} {gap : ℚ → ℚ → Prop} {stale : Nat → Prop} (slack : Slack s gap stale)
    (none : ∀ id, ¬stale id) : Right s := by
  intro id d found
  obtain ⟨held, same, -, settled | ⟨late, -⟩⟩ := slack id d found
  · rw [same, settled]
  · exact absurd late (none id)

theorem Slack.mono {s : Books} {gap : ℚ → ℚ → Prop} {stale stale' : Nat → Prop} (slack : Slack s gap stale)
    (wider : ∀ id, stale id → stale' id) : Slack s gap stale' := by
  intro id d found
  obtain ⟨held, same, holdable, settled⟩ := slack id d found
  exact ⟨held, same, holdable, settled.imp_right fun late => ⟨wider id late.1, late.2⟩⟩

theorem amountIn_shortageExpense {currencyCode : String} (inBooks : bookable currencyCode = true) (id : Nat) {amount : ℚ}
    (nonneg : 0 ≤ amount) : amountIn currencyCode (shortageExpense id currencyCode amount) = amount := by
  unfold bookable at inBooks
  unfold amountIn shortageExpense
  rw [abs_of_nonneg nonneg]
  by_cases pounds : currencyCode = "LBP"
  · rw [if_pos pounds, if_pos pounds]
  · have dollars : currencyCode = "USD" := by
      simp only [Bool.or_eq_true, beq_iff_eq] at inBooks
      exact inBooks.resolve_right pounds
    rw [if_neg pounds, if_pos dollars]

/-! The sync. -/

theorem sync_eq (s : Books) (id : Nat) :
    syncShortageExpense s id = { s with expenses := (syncShortageExpense s id).expenses } := by
  unfold syncShortageExpense
  split
  · rfl
  · dsimp only
    split_ifs <;> rfl

theorem syncAll_eq (s : Books) (ids : List Nat) : syncAll s ids = { s with expenses := (syncAll s ids).expenses } := by
  induction ids generalizing s with
  | nil => rfl
  | cons id rest ih =>
    change syncAll (syncShortageExpense s id) rest = { s with expenses := (syncAll (syncShortageExpense s id) rest).expenses }
    rw [ih, sync_eq]

theorem activeExpenses_insert (s : Books) (expenses : Table Expense) (id : Nat) (e : Expense) :
    activeExpenses { s with expenses := expenses.insert e } id =
      activeExpenses { s with expenses := expenses } id ++ if isActiveExpense id e then [e] else [] := by
  unfold activeExpenses
  dsimp only
  rw [Table.select_insert, List.map_append]
  split_ifs <;> rfl

theorem activeExpenses_cleared (s : Books) (id other : Nat) :
    activeExpenses { s with expenses := s.expenses.updateWhere (isActiveExpense id) refundExpense } other =
      if other = id then [] else activeExpenses s other := by
  unfold activeExpenses
  dsimp only
  rw [Table.select_updateWhere]
  · split_ifs with this
    · rw [List.map_eq_nil_iff, Table.select, List.filter_eq_nil_iff]
      intro entry _
      rw [this]
      cases isActiveExpense id entry.2 <;> decide
    · congr 2
      funext e
      unfold isActiveExpense
      by_cases same : e.differenceId = other
      · simp [same, this]
      · simp [same]
  · intro e _
    unfold isActiveExpense refundExpense
    exact Bool.and_false _

theorem sync_active {s : Books} {gap : ℚ → ℚ → Prop} {stale : Nat → Prop} (slack : Slack s gap stale)
    (wide : ∀ held target, gap held target → 1 / 10 ^ 9 ≤ |held - target|) {id : Nat} {d : Difference}
    (found : s.differences.get id = some d) :
    activeExpenses (syncShortageExpense s id) id = booked id d (shortageTarget s id d) := by
  obtain ⟨held, same, ⟨nonneg, inBooks⟩, settled⟩ := slack id d found
  have short : (booked id d held).length ≤ 1 := by
    unfold booked
    split_ifs
    · exact le_rfl
    · exact Nat.zero_le 1
  have total : ((booked id d held).map (amountIn d.currencyCode)).sum = held := by
    unfold booked
    split_ifs with some
    · rw [List.map_singleton, List.sum_singleton, amountIn_shortageExpense (inBooks some) id nonneg]
    · exact (le_antisymm (not_lt.mp some) nonneg).symm
  unfold syncShortageExpense
  rw [found]
  dsimp only
  rw [same, total]
  split_ifs with near positive
  · rw [Bool.and_eq_true, decide_eq_true_eq, decide_eq_true_eq] at near
    rcases settled with settled | ⟨-, apart⟩
    · rw [same, settled]
    · exact absurd near.2 (not_lt.mpr (wide _ _ apart))
  · rw [activeExpenses_insert, activeExpenses_cleared, if_pos rfl, if_pos, List.nil_append, booked, if_pos positive]
    simp [isActiveExpense, shortageExpense]
  · rw [activeExpenses_cleared, if_pos rfl, booked, if_neg positive]

theorem sync_other (s : Books) {id other : Nat} (this : other ≠ id) :
    activeExpenses (syncShortageExpense s id) other = activeExpenses s other := by
  unfold syncShortageExpense
  split
  · rfl
  · dsimp only
    split_ifs
    · rfl
    · rw [activeExpenses_insert, activeExpenses_cleared, if_neg this, if_neg, List.append_nil]
      simp [isActiveExpense, shortageExpense, Ne.symm this]
    · rw [activeExpenses_cleared, if_neg this]

/-- A difference that was derived again is not stale any more. -/
theorem Slack.sync {s : Books} {gap : ℚ → ℚ → Prop} {stale : Nat → Prop} (slack : Slack s gap stale)
    (wide : ∀ held target, gap held target → 1 / 10 ^ 9 ≤ |held - target|) (id : Nat) :
    Slack (syncShortageExpense s id) gap fun j => stale j ∧ j ≠ id := by
  intro j d found
  have before : s.differences.get j = some d := by
    rw [sync_eq] at found
    exact found
  have target : shortageTarget (syncShortageExpense s id) j d = shortageTarget s j d := by
    rw [sync_eq]
    rfl
  rw [target]
  by_cases this : j = id
  · rw [this] at before ⊢
    exact ⟨_, sync_active slack wide before, targetFor_holdable d _, Or.inl rfl⟩
  · obtain ⟨held, same, holdable, settled⟩ := slack j d before
    refine ⟨held, by rw [sync_other s this, same], holdable, ?_⟩
    rcases settled with settled | ⟨late, apart⟩
    · exact Or.inl settled
    · exact Or.inr ⟨⟨late, this⟩, apart⟩

theorem Slack.syncAll {s : Books} {gap : ℚ → ℚ → Prop} {stale : Nat → Prop} (slack : Slack s gap stale)
    (wide : ∀ held target, gap held target → 1 / 10 ^ 9 ≤ |held - target|) (ids : List Nat) :
    Slack (syncAll s ids) gap fun j => stale j ∧ j ∉ ids := by
  induction ids generalizing s stale with
  | nil =>
    intro j d found
    obtain ⟨held, same, holdable, settled⟩ := slack j d found
    exact ⟨held, same, holdable, settled.imp_right fun late => ⟨⟨late.1, List.not_mem_nil⟩, late.2⟩⟩
  | cons id rest ih =>
    intro j d found
    obtain ⟨held, same, holdable, settled⟩ := ih (slack.sync wide id) j d found
    refine ⟨held, same, holdable, settled.imp_right ?_⟩
    rintro ⟨⟨⟨late, other⟩, outside⟩, apart⟩
    refine ⟨⟨late, ?_⟩, apart⟩
    rw [List.mem_cons]
    tauto

end Liratek.Drawer.ShortageExpense
