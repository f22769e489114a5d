import Liratek.Carrier.Lines
import Liratek.Lib.Runs
import Mathlib.Algebra.Order.Ring.Int

/-! The drawer of a carrier holds the credits of its active lines. -/

namespace Liratek.Carrier.LineLedger
open Lib Lib.Calls Lib.Runs Validity Lines

inductive LineAction where
  | createLine (data : CreateCarrierLineData) (userId : Nat)
  | updateLineAndSyncDrawer (id : Nat) (data : UpdateCarrierLineData) (userId : Nat)
  | updateBalance (id : Nat) (data : UpdateBalanceData) (userId : Nat)
  | toggleActive (id : Nat) (userId : Nat)
  | archive (id : Nat) (userId : Nat)
  | recordUsage (data : RecordCarrierLineUsageData) (userId : Nat) (today : Day)

def attempt (b : Book) : LineAction → Except LineError Book
  | .createLine data userId => createLine b data (some userId)
  | .updateLineAndSyncDrawer id data userId => updateLineAndSyncDrawer b id data (some userId)
  | .updateBalance id data userId => updateBalance b id data (some userId)
  | .toggleActive id userId => toggleActive b id (some userId)
  | .archive id userId => archive b id (some userId)
  | .recordUsage data userId today => recordUsage b data userId today

/-- A call that throws is rolled back. -/
def exec (b : Book) (action : LineAction) : Book :=
  leaves b (attempt b action)

structure PrimaryKept (b : Book) : Prop where
  active : ∀ id line, b.lines.get id = some line → line.isPrimary = true → line.isActive = true
  one : ∀ id id' line line', b.lines.get id = some line → b.lines.get id' = some line' →
    line.isPrimary = true → line'.isPrimary = true → line.carrier = line'.carrier → id = id'

structure DrawersKept (b : Book) : Prop where
  drawers : ∀ carrier, b.drawers carrier = getCarrierCreditsSum b carrier
  primary : PrimaryKept b

theorem activeCredits_active {line : CarrierLine} (active : line.isActive = true) (carrier : CarrierKey) :
    activeCredits carrier line = if line.carrier = carrier then line.credits else 0 := by
  simp only [activeCredits, active, and_true]

theorem activeCredits_archived {line : CarrierLine} (archived : line.isActive = false) (carrier : CarrierKey) :
    activeCredits carrier line = 0 := by
  refine if_neg ?_
  rw [archived]
  intro both
  cases both.2

/-! What a call does to the lines and the drawers. -/

/-- The drawer of one carrier moves, and no line does. -/
structure Posted (b b' : Book) (carrier : CarrierKey) (delta : ℤ) : Prop where
  lines : b'.lines = b.lines
  drawers : b'.drawers = Function.update b.drawers carrier (b.drawers carrier + delta)

theorem posted_nothing (b : Book) (carrier : CarrierKey) : Posted b b carrier 0 where
  lines := rfl
  drawers := by rw [add_zero, Function.update_eq_self]

theorem negligible {delta : ℤ} (small : 2 * |delta| ≤ lineUsageMinDeltaUsd) : delta = 0 := by
  unfold lineUsageMinDeltaUsd at small
  have none : |delta| = 0 := by
    have := abs_nonneg delta
    omega
  exact abs_eq_zero.mp none

theorem postCarrierDrawerAdjustment_posted {b b' : Book} {input : AdjustmentInput}
    (done : postCarrierDrawerAdjustment b input = .ok b') : Posted b b' input.carrier input.deltaUsd := by
  unfold postCarrierDrawerAdjustment at done
  split_ifs at done with small
  · cases done
    rw [negligible small]
    exact posted_nothing b input.carrier
  · rcases user : input.userId with _ | userId
    · rw [user] at done
      cases done
    · rw [user] at done
      cases done
      exact ⟨rfl, rfl⟩

theorem primaryTaken_false {b : Book} {id : Nat} {carrier : CarrierKey} (free : primaryTaken b id carrier = false)
    {other : Nat} {line : CarrierLine} (found : b.lines.get other = some line) (same : line.carrier = carrier)
    (primary : line.isPrimary = true) : other = id := by
  by_contra ne
  have taken := List.any_eq_false.mp free (other, line) (Table.mem_rows.mpr found)
  apply taken
  simp [ne, same, primary]

/-- What one edit of a line writes, once the primary index lets it through. -/
structure Edited (b b' : Book) (id : Nat) (line after : CarrierLine) (posted : ℤ) : Prop where
  lines : ∃ change : CarrierLine → CarrierLine, change line = after ∧ b'.lines = b.lines.update id change
  drawers : b'.drawers = Function.update b.drawers line.carrier (b.drawers line.carrier + posted)
  free : after.isPrimary = true → primaryTaken b id after.carrier = false

/-- The sums of both carriers move as the drawers do. -/
theorem edited_kept {b b' : Book} {id : Nat} {line after : CarrierLine} {posted : ℤ} (kept : DrawersKept b)
    (found : b.lines.get id = some line) (edited : Edited b b' id line after posted)
    (sums : ∀ carrier, activeCredits carrier after - activeCredits carrier line = if line.carrier = carrier then posted else 0)
    (active : after.isPrimary = true → after.isActive = true) : DrawersKept b' := by
  obtain ⟨⟨change, rfl, lines⟩, drawers, free⟩ := edited
  refine ⟨?_, ?_, ?_⟩
  · intro carrier
    have sum := sums carrier
    have before : b.drawers carrier = b.lines.total (activeCredits carrier) := kept.drawers carrier
    rw [getCarrierCreditsSum, lines, Table.total_update found, drawers]
    split_ifs at sum with own
    · rw [own, Function.update_self, before]
      omega
    · rw [Function.update_of_ne (Ne.symm own), before]
      omega
  · intro id' line' found'
    rw [lines] at found'
    by_cases this : id' = id
    · rw [this, Table.get_update_self, found] at found'
      cases found'
      exact active
    · rw [Table.get_update_of_ne _ _ this] at found'
      exact kept.primary.active id' line' found'
  · intro id₁ id₂ line₁ line₂ found₁ found₂ primary₁ primary₂ same
    rw [lines] at found₁ found₂
    by_cases this₁ : id₁ = id <;> by_cases this₂ : id₂ = id
    · rw [this₁, this₂]
    · rw [this₁, Table.get_update_self, found] at found₁
      cases found₁
      rw [Table.get_update_of_ne _ _ this₂] at found₂
      exact absurd (primaryTaken_false (free primary₁) found₂ same.symm primary₂) this₂
    · rw [this₂, Table.get_update_self, found] at found₂
      cases found₂
      rw [Table.get_update_of_ne _ _ this₁] at found₁
      exact absurd (primaryTaken_false (free primary₂) found₁ same primary₁) this₁
    · rw [Table.get_update_of_ne _ _ this₁] at found₁
      rw [Table.get_update_of_ne _ _ this₂] at found₂
      exact kept.primary.one id₁ id₂ line₁ line₂ found₁ found₂ primary₁ primary₂ same

/-- A movement of credits alone. -/
theorem applyMovement_credits {b b' : Book} {input : ApplyCarrierLineMovementInput} (days : input.validityDaysDelta = 0)
    (delta : input.validityExpiresAt = none) (done : applyMovement b input = .ok b') :
    ∃ line, b.lines.get input.carrierLineId = some line ∧
      ∃ change : CarrierLine → CarrierLine, b'.lines = b.lines.update input.carrierLineId change ∧
        change line = { line with credits := line.credits + input.creditsDelta } ∧ b'.drawers = b.drawers ∧
        (line.isPrimary = true → primaryTaken b input.carrierLineId line.carrier = false) := by
  obtain ⟨line, applied, found, computed, free, rfl⟩ := applyMovement_ok done
  unfold computeAppliedState at computed
  rw [delta, days] at computed
  dsimp only at computed
  rw [if_pos rfl] at computed
  cases computed
  exact ⟨line, found, _, rfl, rfl, rfl, free⟩

/-! The edits that post what they change. -/

/-- What the edit adds to the credits is what it adds to the active sums, and a primary line stays active. -/
def EditPosts (line : CarrierLine) (data : UpdateCarrierLineData) : Prop :=
  let after := data.patch line
  (line.isPrimary = true → after.isActive = true) ∧
    if after.carrier = line.carrier then
      match line.isActive, after.isActive with
      | true, true => True
      | true, false => after.credits = 0
      | false, true => line.credits = 0
      | false, false => after.credits = line.credits
    else
      match line.isActive with
      | true => after.credits = 0
      | false => after.credits = line.credits ∧ (after.isActive = true → after.credits = 0)

theorem editPosts_sums {line : CarrierLine} {data : UpdateCarrierLineData} (posts : EditPosts line data)
    (carrier : CarrierKey) :
    activeCredits carrier (data.patch line) - activeCredits carrier line =
      if line.carrier = carrier then (data.patch line).credits - line.credits else 0 := by
  obtain ⟨-, sums⟩ := posts
  by_cases own : (data.patch line).carrier = line.carrier
  · rw [if_pos own] at sums
    rcases was : line.isActive with _ | _ <;> rcases becomes : (data.patch line).isActive with _ | _ <;>
      rw [was, becomes] at sums <;> dsimp only at sums
    · rw [activeCredits_archived was, activeCredits_archived becomes, sums, sub_self, sub_self, ite_self]
    · rw [activeCredits_archived was, activeCredits_active becomes, own, sums]
      split_ifs <;> omega
    · rw [activeCredits_active was, activeCredits_archived becomes, sums]
      split_ifs <;> omega
    · rw [activeCredits_active was, activeCredits_active becomes, own]
      split_ifs <;> omega
  · rw [if_neg own] at sums
    have nothing : (data.patch line).isActive = true → (data.patch line).credits = 0 := by
      intro active
      rcases was : line.isActive with _ | _ <;> rw [was] at sums
      · exact sums.2 active
      · exact sums
    have none : activeCredits carrier (data.patch line) = 0 := by
      unfold activeCredits
      split_ifs with counted
      · exact nothing counted.2
      · rfl
    rcases was : line.isActive with _ | _ <;> rw [was] at sums <;> dsimp only at sums
    · rw [none, activeCredits_archived was, sums.1, sub_self, sub_self, ite_self]
    · rw [none, activeCredits_active was, sums]
      split_ifs <;> omega

section
variable {b b' : Book} (kept : DrawersKept b)
include kept

theorem createLine_kept {data : CreateCarrierLineData} {userId : Option Nat}
    (done : createLine b data userId = .ok b') : DrawersKept b' := by
  obtain ⟨lines, drawers, free⟩ : b'.lines = b.lines.insert
        { carrier := data.carrier
          phoneNumber := data.phoneNumber
          label := data.label
          credits := data.credits
          validityExpiresAt := data.validityExpiresAt
          notes := data.notes
          isPrimary := !hasActive b data.carrier } ∧
      b'.drawers = Function.update b.drawers data.carrier (b.drawers data.carrier + data.credits) ∧
      (hasActive b data.carrier = false → primaryTaken b b.lines.nextId data.carrier = false) := by
    unfold createLine at done
    dsimp only at done
    split_ifs at done with taken free
    · cases done
      have posted := posted_nothing b data.carrier
      rw [← free] at posted
      refine ⟨rfl, posted.drawers, ?_⟩
      intro idle
      simpa [idle] using taken
    · have posted := postCarrierDrawerAdjustment_posted done
      refine ⟨posted.lines, posted.drawers, ?_⟩
      intro idle
      simpa [idle] using taken
  refine ⟨?_, ?_, ?_⟩
  · intro carrier
    rw [getCarrierCreditsSum, lines, Table.total_insert, drawers, activeCredits_active rfl]
    split_ifs with own
    · rw [← own, Function.update_self, kept.drawers]
      rfl
    · rw [Function.update_of_ne (Ne.symm own), kept.drawers, add_zero]
      rfl
  · intro id line found
    rw [lines] at found
    rcases Table.get_insert found with old | ⟨-, rfl⟩
    · exact kept.primary.active id line old
    · exact fun _ => rfl
  · intro id₁ id₂ line₁ line₂ found₁ found₂ primary₁ primary₂ same
    rw [lines] at found₁ found₂
    rcases Table.get_insert found₁ with old₁ | ⟨last₁, rfl⟩ <;> rcases Table.get_insert found₂ with old₂ | ⟨last₂, rfl⟩
    · exact kept.primary.one id₁ id₂ line₁ line₂ old₁ old₂ primary₁ primary₂ same
    · have idle := (Bool.not_eq_true' _).mp primary₂
      exact absurd (primaryTaken_false (free idle) old₁ same primary₁) (Table.get_lt old₁).ne
    · have idle := (Bool.not_eq_true' _).mp primary₁
      exact absurd (primaryTaken_false (free idle) old₂ same.symm primary₂) (Table.get_lt old₂).ne
    · rw [last₁, last₂]

theorem updateLineAndSyncDrawer_kept {id : Nat} {data : UpdateCarrierLineData} {userId : Option Nat}
    {line : CarrierLine} (found : b.lines.get id = some line) (posts : EditPosts line data)
    (done : updateLineAndSyncDrawer b id data userId = .ok b') : DrawersKept b' := by
  have edited : Edited b b' id line (data.patch line) ((data.patch line).credits - line.credits) := by
    unfold updateLineAndSyncDrawer at done
    rw [found] at done
    obtain ⟨written, wrote, posting⟩ := bind_ok done
    obtain ⟨rfl, free⟩ := updateLine_ok found wrote
    split_ifs at posting with small
    · cases posting
      rw [negligible small]
      exact ⟨⟨data.patch, rfl, rfl⟩, (posted_nothing b line.carrier).drawers, free⟩
    · have posted := postCarrierDrawerAdjustment_posted posting
      exact ⟨⟨data.patch, rfl, posted.lines⟩, posted.drawers, free⟩
  apply edited_kept kept found edited _ posts.1
  exact editPosts_sums posts

theorem updateBalance_kept {id : Nat} {data : UpdateBalanceData} {userId : Option Nat} {line : CarrierLine}
    (found : b.lines.get id = some line) (posts : line.isActive = true ∨ data.credits.getD line.credits = line.credits)
    (done : updateBalance b id data userId = .ok b') : DrawersKept b' := by
  have edited : Edited b b' id line (data.toPatch.patch line) ((data.toPatch.patch line).credits - line.credits) := by
    unfold updateBalance at done
    rw [found] at done
    dsimp only at done
    split_ifs at done with same none
    · obtain ⟨rfl, free⟩ := updateLine_ok found done
      have posted := posted_nothing b line.carrier
      rw [← same.1] at posted
      exact ⟨⟨data.toPatch.patch, rfl, rfl⟩, posted.drawers, free⟩
    · obtain ⟨written, wrote, posting⟩ := bind_ok done
      obtain ⟨rfl, free⟩ := updateLine_ok found wrote
      cases posting
      have posted := posted_nothing b line.carrier
      rw [← none] at posted
      exact ⟨⟨data.toPatch.patch, rfl, rfl⟩, posted.drawers, free⟩
    · obtain ⟨written, wrote, posting⟩ := bind_ok done
      obtain ⟨rfl, free⟩ := updateLine_ok found wrote
      have posted := postCarrierDrawerAdjustment_posted posting
      exact ⟨⟨data.toPatch.patch, rfl, posted.lines⟩, posted.drawers, free⟩
  have active : line.isPrimary = true → line.isActive = true := kept.primary.active id line found
  have edit : EditPosts line data.toPatch := by
    refine ⟨active, ?_⟩
    have carrier : (data.toPatch.patch line).carrier = line.carrier := rfl
    have flag : (data.toPatch.patch line).isActive = line.isActive := rfl
    rw [if_pos carrier, flag]
    rcases was : line.isActive with _ | _
    · exact posts.resolve_left (by rw [was]; decide)
    · trivial
  exact edited_kept kept found edited (editPosts_sums edit) active

theorem toggleActive_kept {id : Nat} {userId : Option Nat} {line : CarrierLine} (found : b.lines.get id = some line)
    (done : toggleActive b id userId = .ok b') : DrawersKept b' := by
  have secondary : (toggled line).isPrimary = false := by
    rcases was : line.isActive with _ | _
    · rcases primary : line.isPrimary with _ | _
      · simp only [toggled, was, primary, Bool.false_eq_true, if_false]
      · exact absurd (kept.primary.active id line found primary) (by rw [was]; decide)
    · simp only [toggled, was, if_true]
  have edited : Edited b b' id line (toggled line) (if (toggled line).isActive then line.credits else -line.credits) := by
    unfold toggleActive at done
    rw [found] at done
    have posted := postCarrierDrawerAdjustment_posted done
    refine ⟨⟨toggled, rfl, posted.lines⟩, posted.drawers, ?_⟩
    rw [secondary]
    intro primary
    cases primary
  apply edited_kept kept found edited
  · intro carrier
    rcases was : line.isActive with _ | _
    · have becomes : (toggled line).isActive = true := by rw [toggled, was]; rfl
      rw [activeCredits_archived was, activeCredits_active becomes, becomes, sub_zero]
      rfl
    · have becomes : (toggled line).isActive = false := by rw [toggled, was]; rfl
      rw [activeCredits_active was, activeCredits_archived becomes, becomes, if_neg Bool.false_ne_true]
      split_ifs <;> omega
  · rw [secondary]
    intro primary
    cases primary

theorem archive_kept {id : Nat} {userId : Option Nat} {line : CarrierLine} (found : b.lines.get id = some line)
    (done : archive b id userId = .ok b') : DrawersKept b' := by
  have edited : Edited b b' id line (archivedLine line) (if line.isActive then -line.credits else 0) := by
    unfold archive at done
    rw [found] at done
    dsimp only at done
    split_ifs at done with active
    · have posted := postCarrierDrawerAdjustment_posted done
      rw [if_pos active]
      exact ⟨⟨archivedLine, rfl, posted.lines⟩, posted.drawers, fun primary => by cases primary⟩
    · cases done
      rw [if_neg active]
      exact ⟨⟨archivedLine, rfl, rfl⟩, (posted_nothing b line.carrier).drawers, fun primary => by cases primary⟩
  apply edited_kept kept found edited
  · intro carrier
    have becomes : (archivedLine line).isActive = false := rfl
    rw [activeCredits_archived becomes]
    rcases was : line.isActive with _ | _
    · rw [activeCredits_archived was, if_neg Bool.false_ne_true, ite_self, sub_self]
    · rw [activeCredits_active was, if_pos rfl]
      split_ifs <;> omega
  · intro primary
    cases primary

theorem recordUsage_kept {data : RecordCarrierLineUsageData} {userId : Nat} {today : Day}
    (done : recordUsage b data userId today = .ok b') : DrawersKept b' := by
  unfold recordUsage at done
  rcases found : b.lines.get data.carrierLineId with _ | line
  · rw [found] at done
    cases done
  · rw [found] at done
    dsimp only at done
    split_ifs at done with archived changed small
    have active : line.isActive = true := by rwa [Bool.not_eq_false] at archived
    obtain ⟨line', found', change, lines, changed, drawers, free⟩ := applyMovement_credits rfl rfl done
    have same : b.lines.get data.carrierLineId = some line' := found'
    rw [found] at same
    cases same
    have used : -|line.credits - data.newCredits| = -(line.credits - data.newCredits) := by
      unfold lineUsageMinDeltaUsd at small
      rw [abs_of_pos (by omega)]
    have edited : Edited b b' data.carrierLineId line (change line) (-|line.credits - data.newCredits|) := by
      refine ⟨⟨change, rfl, lines⟩, drawers, ?_⟩
      rw [changed]
      exact free
    rw [used, changed] at edited
    apply edited_kept kept found edited
    · intro carrier
      simp only [activeCredits, active, and_true]
      split_ifs <;> omega
    · exact kept.primary.active data.carrierLineId line found

end

/-- The two ways of editing credits keep to lines that are counted. -/
def Posts (b : Book) : LineAction → Prop
  | .updateLineAndSyncDrawer id data _ => ∀ line, b.lines.get id = some line →
    (line.isPrimary = true ∧ primaryTaken b id (data.patch line).carrier = true) ∨ EditPosts line data
  | .updateBalance id data _ => ∀ line, b.lines.get id = some line →
    line.isActive = true ∨ data.credits.getD line.credits = line.credits
  | _ => True

theorem exec_kept {b : Book} (kept : DrawersKept b) (action : LineAction) (posts : Posts b action) :
    DrawersKept (exec b action) := by
  apply leaves_invariant kept
  intro b' done
  cases action with
  | createLine data userId => exact createLine_kept kept done
  | updateLineAndSyncDrawer id data userId =>
    rcases found : b.lines.get id with _ | line
    · simp only [attempt, updateLineAndSyncDrawer, found] at done
      cases done
      exact kept
    · rcases posts line found with ⟨primary, taken⟩ | edit
      · simp [attempt, updateLineAndSyncDrawer, updateLine, found, primary, taken] at done
        cases done
      · exact updateLineAndSyncDrawer_kept kept found edit done
  | updateBalance id data userId =>
    rcases found : b.lines.get id with _ | line
    · simp only [attempt, updateBalance, found] at done
      cases done
      exact kept
    · exact updateBalance_kept kept found (posts line found) done
  | toggleActive id userId =>
    rcases found : b.lines.get id with _ | line
    · simp only [attempt, toggleActive, found] at done
      cases done
      exact kept
    · exact toggleActive_kept kept found done
  | archive id userId =>
    rcases found : b.lines.get id with _ | line
    · simp only [attempt, archive, found] at done
      cases done
      exact kept
    · exact archive_kept kept found done
  | recordUsage data userId today => exact recordUsage_kept kept done

theorem drawersKept_empty : DrawersKept {} where
  drawers _ := rfl
  primary := ⟨fun id line found => (by cases found), fun id id' line line' found => (by cases found)⟩

/-- While every edit posts what it changes, the drawer of each carrier holds the credits of its active lines, and its
one primary line is active. -/
theorem drawers_kept (actions : List LineAction) (posts : Meets exec Posts {} actions) (before after : List LineAction)
    (split : actions = before ++ after) : DrawersKept (run exec {} before) := by
  subst split
  have keeps : ∀ b action, DrawersKept b → Posts b action → DrawersKept (exec b action) :=
    fun _ action kept posts => exec_kept kept action posts
  exact run_invariant keeps drawersKept_empty (meets_append.mp posts).1

def firstLine : CreateCarrierLineData where
  carrier := .alfa
  phoneNumber := "03123456"
  credits := 1000

/-- The settings form archives the line as one more field of its patch. -/
def archivedByPatch : List LineAction :=
  [.createLine firstLine 1, .updateLineAndSyncDrawer 0 { isActive := some false } 1]

theorem archivedByPatch_not_kept : ¬DrawersKept (run exec {} archivedByPatch) := by
  intro kept
  have drawers := kept.drawers .alfa
  have balance : (run exec {} archivedByPatch).drawers .alfa = 1000 := by decide
  have sum : getCarrierCreditsSum (run exec {} archivedByPatch) .alfa = 0 := by decide
  rw [balance, sum] at drawers
  cases drawers

/-- The same line with its credits edited, some of them used, and then archived by its button. -/
def archivedByButton : List LineAction :=
  [.createLine firstLine 1, .updateLineAndSyncDrawer 0 { credits := some 1500, label := some (some "spare") } 1,
    .recordUsage { carrierLineId := 0, newCredits := 1200 } 1 20000, .archive 0 1]

theorem archivedByButton_kept : DrawersKept (run exec {} archivedByButton) := by
  have edit : Posts (run exec {} [.createLine firstLine 1])
      (.updateLineAndSyncDrawer 0 { credits := some 1500, label := some (some "spare") } 1) := by
    intro line found
    have active : line.isActive = true := by
      cases found
      rfl
    refine Or.inr ⟨fun _ => active, ?_⟩
    cases found
    trivial
  exact drawers_kept archivedByButton ⟨trivial, edit, trivial, trivial, trivial⟩ archivedByButton [] rfl

end Liratek.Carrier.LineLedger
