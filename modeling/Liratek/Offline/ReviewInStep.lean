import Liratek.Offline.ExactlyOnce

/-! The review list follows the status of every event: one open holding item while an admin's decision is
awaited, none otherwise. -/

namespace Liratek.Offline.ReviewInStep
open Lib.Runs Tables Channels Replay Consistency Review Upload Shop ExactlyOnce

def ListInStep (s : Store) : Prop :=
  ∀ (id : RowId) (row : EventRow), s.events[id]? = some row →
    (s.openOfKind id ReviewKind.holding).length = if row.status.awaits then 1 else 0

theorem listInStep_of_consistent {policy : Policy} {s : Store} (c : Consistent policy True s) : ListInStep s := by
  intro id row found
  split_ifs with awaits
  · obtain ⟨item, kind, opened, holding⟩ := c.held id row found awaits
    exact openOfKind_length_one opened holding fun other kind' there holds =>
      c.single trivial id other item kind' kind there opened holds holding
  · have calm : row.status.awaits = false := by simpa using awaits
    rw [openOfKind_eq_nil.mpr (c.quiet id row found calm), List.length_nil]

/-- In every state of a run that meets two conditions the list is in step. No Apply is answered with a
certain duplicate, and no event is decided while a held checkpoint waits below it. -/
theorem listInStep_of_run (policy : Policy) (devices : List DeviceRow) (inputs : List Step)
    (meets : Meets (exec policy) (fun s input => ¬ CertainOnApply policy s input ∧
      ∀ event, MayRelease s event input → ClearBelow policy s event.eventId) (newShop devices) inputs) :
    ∀ before after, inputs = before ++ after → ListInStep (run (exec policy) (newShop devices) before) := by
  rintro before after rfl
  have early := (meets_append.mp meets).1
  exact listInStep_of_consistent
    (run_advances (newShop_consistent devices) (early.mono fun _ _ ok => ⟨ok.1, fun _ => ok.2⟩)).1

/-! Each condition is needed. -/

/-- A refused event whose Apply finds a certain duplicate. -/
def skippedOnApply : List Step :=
  [uploadOf [parentEvent], .merge 0 answersRefused, .apply 0 1 fun _ => answersCertain]

theorem skippedOnApply_out_of_step :
    ¬ ListInStep (run (exec openPolicy) (newShop [{ deviceNo := 1 }]) skippedOnApply) := by
  intro inStep
  have stored : ((run (exec openPolicy) (newShop [{ deviceNo := 1 }]) skippedOnApply).events[0]?).map (·.status) =
      some .skipped := by decide
  obtain ⟨row, found, status⟩ := Option.map_eq_some_iff.mp stored
  have none := inStep 0 row found
  have one : ((run (exec openPolicy) (newShop [{ deviceNo := 1 }]) skippedOnApply).openOfKind 0
      ReviewKind.holding).length = 1 := by decide
  rw [one, status] at none
  cases none

/-- Channels whose name starts the word "closing" are checkpoints. -/
def checkpointPolicy : Policy :=
  { openPolicy with classOf := fun channel => if channel = "closing:create-checkpoint" then .checkpoint else .offline }

/-- A drawer count that names a refused sale. Applying the sale lists the count a second time. -/
def checkpointBelow : List Step :=
  [uploadOf [parentEvent, { childEvent with channel := "closing:create-checkpoint" }], .merge 0 answersRefused,
    .merge 1 answersBooked, .apply 0 1 fun _ => answersBooked]

-- The count is listed twice: not in step either.
example : ((run (exec checkpointPolicy) (newShop [{ deviceNo := 1 }]) checkpointBelow).openOfKind 1
    ReviewKind.holding).length = 2 := by
  decide

theorem plainRecovery_inStep :
    (∀ before after, plainRecovery = before ++ after →
      ListInStep (run (exec openPolicy) (newShop [{ deviceNo := 1 }]) before)) ∧
    ((run (exec openPolicy) (newShop [{ deviceNo := 1 }]) (plainRecovery.take 3)).openOfKind 1
      ReviewKind.holding).length = 1 := by
  have noCheckpoint : ∀ s parent, ClearBelow openPolicy s parent := fun s parent id row below => rfl
  refine ⟨listInStep_of_run openPolicy [{ deviceNo := 1 }] plainRecovery ?_, by decide⟩
  refine ⟨⟨id, fun _ _ => noCheckpoint _ _⟩, ⟨id, fun _ _ => noCheckpoint _ _⟩, ⟨id, fun _ _ => noCheckpoint _ _⟩,
    ⟨?_, fun _ _ => noCheckpoint _ _⟩, trivial⟩
  rintro ⟨_, _, _, _, hook⟩
  cases hook.certain

end Liratek.Offline.ReviewInStep
