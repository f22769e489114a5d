import Liratek.Drawer.VoidedEntries
import Liratek.Lib.Runs

/-! A transaction that is entered after the checkpoint that missed it is counted once. -/

namespace Liratek.Drawer.CountedOnce
open Lib Lib.Calls Lib.Runs CheckpointDifference CheckpointResolution Postings ShortageExpense Standing LateEntries VoidedEntries

/-! A checkpoint. -/

section
variable {s : Books}

theorem resolvedOf_new (sound : Sound s) {j : Nat} (new : s.differences.nextId ≤ j) : resolvedOf s j = 0 := by
  apply Table.total_eq_zero
  intro i r found
  obtain ⟨-, d, explains⟩ := sound.resolutions i r found
  have old := Table.get_lt explains.found
  rw [if_neg]
  simp [(old.trans_le new).ne]

/-- Only the balances and the checkpoints are changed. -/
theorem Sound.around (sound : Sound s) (balance : String → String → ℚ) (closings : Table DailyClosing) :
    Sound { s with balance := balance, closings := closings } :=
  { sound with
    resolutions := by
      intro i r found
      obtain ⟨old, d, explains⟩ := sound.resolutions i r found
      exact ⟨old, d, explains.of_differences rfl⟩
    pickups := fun i p found => ⟨(sound.pickups i p found).saved, (sound.pickups i p found).counted⟩ }

/-- A difference that nothing has resolved yet. -/
def withDifference (s : Books) (d : Difference) : Books :=
  { s with differences := s.differences.insert d }

theorem standsOn_withDifference (sound : Sound s) (d : Difference) {i : Nat} {r : Resolution}
    (found : s.resolutions.get i = some r) (drawerName currencyCode : String) :
    standsOn (withDifference s d) drawerName currencyCode r.differenceId = standsOn s drawerName currencyCode r.differenceId := by
  obtain ⟨-, d', explains⟩ := sound.resolutions i r found
  unfold standsOn withDifference
  dsimp only
  rw [Table.get_insert_of_ne _ _ (Table.get_lt explains.found).ne]

theorem Sound.withDifference (sound : Sound s) {d : Difference} (above : checkpointDifferenceEpsilon d.currencyCode < |d.amount|) :
    Sound (withDifference s d) where
  rows := sound.rows
  recorded := by
    intro i d' found
    rcases Table.get_insert found with old | ⟨-, rfl⟩
    · exact sound.recorded i d' old
    · exact above
  resolutions := by
    intro i r found
    obtain ⟨old, d', explains⟩ := sound.resolutions i r found
    exact ⟨old, d', Table.get_insert_of_get explains.found, explains.signed, explains.above⟩
  within := by
    intro i d' found
    have same : resolvedOf (CountedOnce.withDifference s d) i = resolvedOf s i := rfl
    rw [same]
    rcases Table.get_insert found with old | ⟨rfl, -⟩
    · exact sound.within i d' old
    · rw [resolvedOf_new sound le_rfl]
      exact abs_nonneg _
  expenses := by
    intro i e found
    exact (sound.expenses i e found).trans_le ((Nat.le_succ _).trans_eq (Table.nextId_insert _ _).symm)
  offset := by
    intro id t found notReversal drawerName currencyCode
    have same : resolvedBy (CountedOnce.withDifference s d) id drawerName currencyCode = resolvedBy s id drawerName currencyCode := by
      apply Table.total_congr
      intro i r there
      rw [standsOn_withDifference sound d there]
    rw [same]
    exact sound.offset id t found notReversal drawerName currencyCode
  sources := sound.sources
  pickups := fun i p found => ⟨(sound.pickups i p found).saved, (sound.pickups i p found).counted⟩
  apart := sound.apart
  pickupVoids := sound.pickupVoids

theorem Right.withDifference (right : Right s) (sound : Sound s) {d : Difference} (opened : d.isClosed = false) :
    Right (withDifference s d) := by
  intro j d' found
  have target : shortageTarget (CountedOnce.withDifference s d) j d' = shortageTarget s j d' := rfl
  rw [target]
  rcases Table.get_insert found with old | ⟨rfl, rfl⟩
  · exact right j d' old
  · have none : activeExpenses s s.differences.nextId = [] := by
      unfold activeExpenses
      rw [List.map_eq_nil_iff, Table.select, List.filter_eq_nil_iff]
      intro entry member active
      have old := sound.expenses entry.1 entry.2 (Table.mem_rows.mp member)
      rw [isActiveExpense, Bool.and_eq_true, decide_eq_true_eq] at active
      exact absurd active.1 old.ne
    rw [shortageTarget_eq, targetFor_open opened, booked, if_neg (lt_irrefl 0)]
    exact none

/-- What the books keep besides what stands on the drawers. -/
structure Keeps (s s' : Books) : Prop where
  sound : Sound s'
  right : Right s'
  size : s.transactions.nextId ≤ s'.transactions.nextId
  movement : ∀ id < s.transactions.nextId, ∀ drawerName currencyCode,
    movement s' id drawerName currencyCode = movement s id drawerName currencyCode

theorem postAdjustment_keeps (sound : Sound s) (right : Right s) (closingId : Nat) (a : CheckpointAdjustment) :
    Keeps s (postAdjustment closingId s a) := by
  have moved : Sound (applyDrawerDelta s a.drawerName a.currencyCode a.delta) := Sound.around sound _ s.closings
  have rightMoved : Right (applyDrawerDelta s a.drawerName a.currencyCode a.delta) := right
  unfold postAdjustment
  split_ifs with posts records
  · have above : checkpointDifferenceEpsilon (differenceRow closingId a).currencyCode < |(differenceRow closingId a).amount| := by
      rw [recorded, Bool.and_eq_true, decide_eq_true_eq] at records
      exact records.2
    exact ⟨Sound.withDifference moved above, Right.withDifference rightMoved moved rfl, le_rfl, fun _ _ _ _ => rfl⟩
  · exact ⟨moved, right, le_rfl, fun _ _ _ _ => rfl⟩
  · exact ⟨sound, right, le_rfl, fun _ _ _ _ => rfl⟩

theorem postAdjustments_keeps (sound : Sound s) (right : Right s) (closingId : Nat) (counted : List CheckpointAdjustment) :
    Keeps s (counted.foldl (postAdjustment closingId) s) := by
  induction counted generalizing s with
  | nil => exact ⟨sound, right, le_rfl, fun _ _ _ _ => rfl⟩
  | cons a rest ih =>
    have first := postAdjustment_keeps sound right closingId a
    have others := ih first.sound first.right
    refine ⟨others.sound, others.right, first.size.trans others.size, ?_⟩
    intro id old drawerName currencyCode
    exact (others.movement id (old.trans_le first.size) _ _).trans (first.movement id old _ _)

theorem createCheckpoint_keeps (sound : Sound s) (right : Right s) (time : ℤ) (counted : List CheckpointAdjustment) :
    Keeps s (createCheckpoint s time counted) := by
  have started := Sound.around sound s.balance
    (s.closings.insert { createdAt := time, amounts := counted.map fun a => (a.drawerName, a.currencyCode) })
  have posts := postAdjustments_keeps started right s.closings.nextId counted
  exact ⟨posts.sound, posts.right, posts.size, posts.movement⟩

/-! Close and reopen. -/

def withState (s : Books) (id : Nat) (isClosed : Bool) : Books :=
  { s with differences := s.differences.update id (setClosed isClosed) }

theorem get_withState {id j : Nat} {isClosed : Bool} {d' : Difference}
    (found : (withState s id isClosed).differences.get j = some d') :
    ∃ d, s.differences.get j = some d ∧ d' = if j = id then setClosed isClosed d else d := by
  by_cases this : j = id
  · subst this
    rw [withState, Table.get_update_self, Option.map_eq_some_iff] at found
    obtain ⟨d, stands, rfl⟩ := found
    exact ⟨d, stands, (if_pos rfl).symm⟩
  · rw [withState, Table.get_update_of_ne _ _ this] at found
    exact ⟨d', found, (if_neg this).symm⟩

theorem standsOn_withState (id : Nat) (isClosed : Bool) (drawerName currencyCode : String) (j : Nat) :
    standsOn (withState s id isClosed) drawerName currencyCode j = standsOn s drawerName currencyCode j := by
  unfold standsOn withState
  by_cases this : j = id
  · subst this
    rw [Table.get_update_self, Option.any_map]
    rfl
  · rw [Table.get_update_of_ne _ _ this]

theorem Sound.withState (sound : Sound s) (id : Nat) (isClosed : Bool) : Sound (withState s id isClosed) where
  rows := sound.rows
  recorded := by
    intro i d' found
    obtain ⟨d, stands, rfl⟩ := get_withState found
    split_ifs
    · exact sound.recorded i d stands
    · exact sound.recorded i d stands
  resolutions := by
    intro i r found
    obtain ⟨old, d, explains⟩ := sound.resolutions i r found
    refine ⟨old, if id = r.differenceId then setClosed isClosed d else d, Table.get_update_of_get explains.found _ _, ?_, ?_⟩
    · split_ifs
      · exact explains.signed
      · exact explains.signed
    · split_ifs
      · exact explains.above
      · exact explains.above
  within := by
    intro i d' found
    have same : resolvedOf (CountedOnce.withState s id isClosed) i = resolvedOf s i := rfl
    rw [same]
    obtain ⟨d, stands, rfl⟩ := get_withState found
    split_ifs
    · exact sound.within i d stands
    · exact sound.within i d stands
  expenses := by
    intro i e found
    exact (sound.expenses i e found).trans_eq (Table.nextId_update _ _ _).symm
  offset := by
    intro j t found notReversal drawerName currencyCode
    have same : resolvedBy (CountedOnce.withState s id isClosed) j drawerName currencyCode = resolvedBy s j drawerName currencyCode := by
      unfold resolvedBy
      simp only [standsOn_withState]
      rfl
    rw [same]
    exact sound.offset j t found notReversal drawerName currencyCode
  sources := sound.sources
  pickups := fun i p found => ⟨(sound.pickups i p found).saved, (sound.pickups i p found).counted⟩
  apart := sound.apart
  pickupVoids := sound.pickupVoids

theorem standing_withState (sound : Sound s) (id : Nat) (isClosed : Bool) (drawerName currencyCode : String) :
    standing (withState s id isClosed) drawerName currencyCode = standing s drawerName currencyCode := by
  have amounts : corrected (withState s id isClosed) drawerName currencyCode = corrected s drawerName currencyCode :=
    Table.total_update_same s.differences id fun _ => rfl
  have same : explained (withState s id isClosed) drawerName currencyCode = explained s drawerName currencyCode := by
    unfold explained counted
    simp only [standsOn_withState]
    rfl
  rw [(Sound.withState sound id isClosed).standing_eq, sound.standing_eq, amounts, same]
  rfl

/-- What is booked and what should be are far apart. -/
def Apart (held target : ℚ) : Prop :=
  1 / 10 ^ 9 ≤ |held - target|

theorem targetFor_setClosed (d : Difference) (isClosed : Bool) (resolved : ℚ) :
    targetFor d resolved = targetFor (setClosed isClosed d) resolved ∨
      Apart (targetFor d resolved) (targetFor (setClosed isClosed d) resolved) := by
  have range := openAmount_range ⟨d.amount, resolved, d.isClosed, d.currencyCode⟩
  have same : (describeCheckpointDifference ⟨d.amount, resolved, isClosed, d.currencyCode⟩).openAmount =
      (describeCheckpointDifference ⟨d.amount, resolved, d.isClosed, d.currencyCode⟩).openAmount := rfl
  have least := tolerance_le d.currencyCode
  have far : ∀ x : ℚ, checkpointDifferenceEpsilon d.currencyCode < x → 1 / 10 ^ 9 ≤ |x| :=
    fun x above => (least.trans above.le).trans (le_abs_self x)
  unfold targetFor Apart setClosed
  dsimp only
  rw [same]
  rcases range with none | some
  · rw [none]
    left
    split_ifs <;> rfl
  · split_ifs
    · exact Or.inl rfl
    · right
      rw [sub_zero]
      exact far _ some
    · right
      rw [zero_sub, abs_neg]
      exact far _ some
    · exact Or.inl rfl

theorem withClosed_right (right : Right s) (id : Nat) (isClosed : Bool) : Right (withClosed s id isClosed) := by
  have slack : Slack (withState s id isClosed) Apart fun j => j = id := by
    intro j d' found
    obtain ⟨d, stands, rfl⟩ := get_withState found
    have code : (if j = id then setClosed isClosed d else d).currencyCode = d.currencyCode := by
      split_ifs <;> rfl
    have holdable := targetFor_holdable d (resolvedOf s j)
    refine ⟨shortageTarget s j d, ?_, ⟨holdable.nonneg, by rw [code]; exact holdable.currency⟩, ?_⟩
    · rw [booked, code]
      exact right j d stands
    · have target : shortageTarget (withState s id isClosed) j (if j = id then setClosed isClosed d else d) =
          targetFor (if j = id then setClosed isClosed d else d) (resolvedOf s j) := rfl
      rw [target, shortageTarget_eq]
      by_cases this : j = id
      · rw [if_pos this]
        exact (targetFor_setClosed d isClosed (resolvedOf s j)).imp_right fun apart => ⟨this, apart⟩
      · rw [if_neg this]
        exact Or.inl rfl
  apply (slack.sync (fun _ _ apart => apart) id).right
  rintro j ⟨this, other⟩
  exact other this

theorem withClosed_keeps (sound : Sound s) (right : Right s) (id : Nat) (isClosed : Bool) : Keeps s (withClosed s id isClosed) := by
  have state := Sound.withState sound id isClosed
  refine ⟨Sound.sync state id, withClosed_right right id isClosed, ?_, ?_⟩
  · rw [withClosed, sync_eq]
  · intro j _ drawerName currencyCode
    rw [withClosed, sync_eq]
    rfl

theorem standing_withClosed (sound : Sound s) (id : Nat) (isClosed : Bool) (drawerName currencyCode : String) :
    standing (withClosed s id isClosed) drawerName currencyCode = standing s drawerName currencyCode := by
  rw [withClosed, sync_eq]
  exact standing_withState sound id isClosed drawerName currencyCode

theorem close_withClosed {id : Nat} {s' : Books} (done : close s id = .ok s') : s' = withClosed s id true := by
  unfold close at done
  split at done
  · cases done
  · split_ifs at done
    exact (Except.ok.inj done).symm

theorem reopen_withClosed {id : Nat} {s' : Books} (done : reopen s id = .ok s') : s' = withClosed s id false := by
  unfold reopen at done
  split at done
  · cases done
  · split_ifs at done
    exact (Except.ok.inj done).symm

end

/-! Every call, and every run. -/

theorem Saved.keeps {s s' : Books} {lists : List (List Leg)} (saved : Saved s s' lists) : Keeps s s' where
  sound := saved.sound
  right := saved.right
  size := by
    rw [saved.size]
    exact Nat.le_add_right _ _
  movement := saved.before

theorem Voided.keeps {s s' : Books} {ids : List Nat} (voided : Voided s s' ids) (right : Right s') : Keeps s s' where
  sound := voided.sound
  right := right
  size := voided.size
  movement := voided.before

theorem exec_keeps {s : Books} (sound : Sound s) (right : Right s) (action : Action) : Keeps s (exec s action) := by
  have unchanged : Keeps s s := ⟨sound, right, le_rfl, fun _ _ _ _ => rfl⟩
  apply leaves_invariant unchanged
  intro s' done
  cases action with
  | checkpoint time counted =>
    cases done
    exact createCheckpoint_keeps sound right time counted
  | flow time legs expenses => exact Saved.keeps (saveFlow_saved sound right done)
  | collect time legs => exact Saved.keeps (collectHoldMoney_saved sound right done)
  | void transactionId now =>
    obtain ⟨voided, rightThen⟩ := voidTransaction_voided sound right done
    exact Voided.keeps voided rightThen
  | voidPickup pickupId now =>
    obtain ⟨pickup, -, voided, rightThen⟩ := voidPickup_voided sound right done
    exact Voided.keeps voided rightThen
  | close differenceId =>
    rw [close_withClosed done]
    exact withClosed_keeps sound right differenceId true
  | reopen differenceId =>
    rw [reopen_withClosed done]
    exact withClosed_keeps sound right differenceId false

theorem sound_empty : Sound {} where
  rows i row found := by rw [Table.get_empty] at found; cases found
  recorded i d found := by rw [Table.get_empty] at found; cases found
  resolutions i r found := by rw [Table.get_empty] at found; cases found
  within i d found := by rw [Table.get_empty] at found; cases found
  expenses i e found := by rw [Table.get_empty] at found; cases found
  offset id t found := by rw [Table.get_empty] at found; cases found
  sources id t source found := by rw [Table.get_empty] at found; cases found
  pickups i p found := by rw [Table.get_empty] at found; cases found
  apart i j p q found := by rw [Table.get_empty] at found; cases found
  pickupVoids id t found := by rw [Table.get_empty] at found; cases found

theorem right_empty : Right {} := by
  intro i d found
  rw [Table.get_empty] at found
  cases found

/-- The transactions saved change what stands on a drawer by their own net movement. -/
structure Booked (s s' : Books) (lists : List (List Leg)) : Prop where
  standing : ∀ drawerName currencyCode, standing s' drawerName currencyCode =
    standing s drawerName currencyCode + (lists.map fun legs => legsMove legs drawerName currencyCode).sum
  own : ∀ k legs, lists[k]? = some legs → ∀ drawerName currencyCode,
    movement s' (s.transactions.nextId + k) drawerName currencyCode = legsMove legs drawerName currencyCode

/-- The same amount goes back. -/
def GivenBack (s s' : Books) (ids : List Nat) : Prop :=
  ∀ drawerName currencyCode, standing s' drawerName currencyCode =
    standing s drawerName currencyCode - (ids.map fun id => movement s id drawerName currencyCode).sum

structure CountsOnce (s : Books) : Prop where
  flow : ∀ time legs expenses s', saveFlow s time legs expenses = .ok s' → Booked s s' (legs :: expenses)
  collect : ∀ time legs s', collectHoldMoney s time legs = .ok s' → Booked s s' [legs.map (·.toLeg)]
  void : ∀ id now s', voidTransaction s id now = .ok s' → GivenBack s s' (id :: (expenseSiblings s id).map (·.1))
  voidPickup : ∀ id now s', voidPickup s id now = .ok s' →
    ∃ pickup, s.pickups.get id = some pickup ∧ GivenBack s s' [pickup.transactionId]
  close : ∀ id s', close s id = .ok s' → GivenBack s s' []
  reopen : ∀ id s', reopen s id = .ok s' → GivenBack s s' []
  /-- What a transaction moved stays what it was. -/
  kept : ∀ action, ∀ id < s.transactions.nextId, ∀ drawerName currencyCode,
    movement (exec s action) id drawerName currencyCode = movement s id drawerName currencyCode
  within : ∀ id d, s.differences.get id = some d → resolvedOf s id ≤ |d.amount|
  signed : ∀ i r, s.resolutions.get i = some r → ∃ d, s.differences.get r.differenceId = some d ∧ 0 < d.amount * r.amount
  expense : ∀ id d, s.differences.get id = some d → activeExpenses s id =
    if d.isClosed = true ∧ directionOf d.amount = .short ∧ bookable d.currencyCode = true ∧ 0 < (describe s id d).openAmount then
      [shortageExpense id d.currencyCode (describe s id d).openAmount]
    else []

theorem Explains.same_sign {s : Books} {r : Resolution} {d : Difference} (explains : Explains s r d)
    (recorded : checkpointDifferenceEpsilon d.currencyCode < |d.amount|) : 0 < d.amount * r.amount := by
  have amount : 0 < |d.amount| := (epsilon_pos _).trans recorded
  have resolved : 0 < |r.amount| := (epsilon_pos _).trans explains.above
  have square : signOf d.amount * signOf d.amount = 1 := by
    unfold signOf
    split_ifs
    · exact one_mul 1
    · exact (neg_mul_neg 1 1).trans (one_mul 1)
  have product : d.amount * r.amount = |d.amount| * |r.amount| := by
    calc d.amount * r.amount = (signOf d.amount * |d.amount|) * (signOf d.amount * |r.amount|) := by
          rw [signOf_mul_abs, explains.signed]
      _ = (signOf d.amount * signOf d.amount) * (|d.amount| * |r.amount|) := by ring
      _ = |d.amount| * |r.amount| := by rw [square, one_mul]
  rw [product]
  exact mul_pos amount resolved

theorem countsOnce {s : Books} (sound : Sound s) (right : Right s) : CountsOnce s where
  flow time legs expenses s' done := by
    have saved := saveFlow_saved sound right done
    exact ⟨saved.standing, saved.own⟩
  collect time legs s' done := by
    have saved := collectHoldMoney_saved sound right done
    exact ⟨saved.standing, saved.own⟩
  void id now s' done := (voidTransaction_voided sound right done).1.standing
  voidPickup id now s' done := by
    obtain ⟨pickup, found, voided, -⟩ := voidPickup_voided sound right done
    exact ⟨pickup, found, voided.standing⟩
  close id s' done drawerName currencyCode := by
    rw [close_withClosed done, standing_withClosed sound]
    exact (sub_zero _).symm
  reopen id s' done drawerName currencyCode := by
    rw [reopen_withClosed done, standing_withClosed sound]
    exact (sub_zero _).symm
  kept action := (exec_keeps sound right action).movement
  within := sound.within
  signed i r found := by
    obtain ⟨-, d, explains⟩ := sound.resolutions i r found
    exact ⟨d, explains.found, Explains.same_sign explains (sound.recorded _ d explains.found)⟩
  expense id d found := by
    rw [right id d found, booked, shortageTarget]
    by_cases due : d.isClosed = true ∧ directionOf d.amount = .short ∧ bookable d.currencyCode = true
    · obtain ⟨closed, short, inBooks⟩ := due
      have direction : (describe s id d).direction = .short := short
      simp only [closed, short, inBooks, direction, decide_true, Bool.and_self, if_true, true_and]
    · have none : (d.isClosed && decide ((describe s id d).direction = .short) && bookable d.currencyCode) = false := by
        rw [Bool.eq_false_iff]
        intro all
        rw [Bool.and_eq_true, Bool.and_eq_true, decide_eq_true_eq] at all
        exact due ⟨all.1.1, all.1.2, all.2⟩
      rw [none, if_neg Bool.false_ne_true, if_neg (lt_irrefl 0), if_neg]
      rintro ⟨closed, short, inBooks, -⟩
      exact due ⟨closed, short, inBooks⟩

theorem run_countsOnce (actions : List Action) : CountsOnce (run exec {} actions) := by
  have kept : Sound (run exec {} actions) ∧ Right (run exec {} actions) := by
    apply run_always (fun s => Sound s ∧ Right s) ?_ ⟨sound_empty, right_empty⟩
    rintro s action ⟨sound, right⟩
    have keeps := exec_keeps sound right action
    exact ⟨keeps.sound, keeps.right⟩
  exact countsOnce kept.1 kept.2

end Liratek.Drawer.CountedOnce
