import Liratek.Money.DebtCoverage

/-! How much of a repayment's cash is routed, and the bounds of a repayment. -/

namespace Liratek.Money.DebtRepayment

/-- The cash moved of one tender currency. -/
def routedCash (takes : List RoutingTake) (c : Currency) : ℚ :=
  (takes.map fun t => if t.tenderCurrency = c then t.tenderAmount else 0).sum

/-- The value routed for one transfer, in one debt currency. -/
def routedFor (takes : List RoutingTake) (key : Key) (c : Currency) : ℚ :=
  (takes.map fun t => if t.toKey = key ∧ t.debtCurrency = c then t.value else 0).sum

theorem routedCash_append (takes : List RoutingTake) (t : RoutingTake) (c : Currency) :
    routedCash (takes ++ [t]) c = routedCash takes c + if t.tenderCurrency = c then t.tenderAmount else 0 := by
  simp [routedCash]

theorem routedFor_append (takes : List RoutingTake) (t : RoutingTake) (key : Key) (c : Currency) :
    routedFor (takes ++ [t]) key c = routedFor takes key c + if t.toKey = key ∧ t.debtCurrency = c then t.value else 0 := by
  simp [routedFor]

def capOf (r : Routing) (key : Key) (c : Currency) : ℚ :=
  ((r.caps key).map (·.get c)).getD 0

/-- Since `o`, what left the cash and the caps is what the takes say. -/
structure Drawer (o r : Routing) : Prop where
  cashWhole : ∀ c, Whole c (r.cash.get c)
  cashNonneg : ∀ c, 0 ≤ r.cash.get c
  routedWhole : ∀ c, Whole c (r.routed.get c)
  capsWhole : ∀ k cap, r.caps k = some cap → ∀ c, Whole c (cap.get c)
  capsNonneg : ∀ k cap, r.caps k = some cap → ∀ c, 0 ≤ cap.get c
  cash : ∀ c, r.cash.get c + r.routed.get c = o.cash.get c
  routed : ∀ c, r.routed.get c = routedCash r.takes c
  caps : ∀ k c, routedFor r.takes k c + capOf r k c = capOf o k c

section
variable {rate : ℚ}

theorem get_lower (a : Amounts) (c : Currency) (m : ℚ) (c' : Currency) :
    (a.lower c m).get c' = a.get c' - if c = c' then m else 0 := by
  unfold Amounts.lower
  rw [Amounts.get_of]
  split_ifs with same other other
  · rfl
  · exact absurd same.symm other
  · exact absurd other.symm same
  · rw [sub_zero]

/-- Routed with one tender currency: the want left is still within the cap left. -/
theorem Drawer.routeTender {o r : Routing} (drawer : Drawer o r) {key : Key} {cap : Amounts}
    (known : r.caps key = some cap) (debt tender : Currency) {want : ℚ} (within : want ≤ cap.get debt) :
    Drawer o (routeTender rate key debt tender r want).1 ∧
      ∃ cap', (routeTender rate key debt tender r want).1.caps key = some cap' ∧
        want - (routeTender rate key debt tender r want).2 ≤ cap'.get debt := by
  have stays : Drawer o r ∧ ∃ cap', r.caps key = some cap' ∧ want - 0 ≤ cap'.get debt :=
    ⟨drawer, cap, known, by rwa [sub_zero]⟩
  unfold DebtRepayment.routeTender
  split_ifs with small
  · exact stays
  · dsimp only
    split_ifs with none
    · exact stays
    · rw [Bool.or_eq_true, decide_eq_true_iff, decide_eq_true_iff, not_or, not_le, not_le] at small
      set tenderAmount := roundIn tender (min (r.cash.get tender) (convert rate debt tender want)) with tenderAmount_eq
      set value := roundIn debt (min (convert rate tender debt tenderAmount) want) with value_eq
      have tenderWhole : Whole tender tenderAmount := roundIn_whole tender _
      have valueWhole : Whole debt value := roundIn_whole debt _
      have tenderLe : tenderAmount ≤ r.cash.get tender := roundIn_le (drawer.cashWhole tender) (min_le_left _ _)
      have valueLe : value ≤ cap.get debt :=
        roundIn_le (drawer.capsWhole key cap known debt) ((min_le_right _ _).trans within)
      have lowered : Option.map (·.lower debt value) (r.caps key) = some (cap.lower debt value) := by
        rw [known]
        rfl
      rw [lowered]
      refine ⟨⟨?_, ?_, ?_, ?_, ?_, ?_, ?_, ?_⟩, cap.lower debt value, Function.update_self .., ?_⟩
      · intro c
        rw [get_lower]
        split_ifs with same
        · exact (drawer.cashWhole c).sub (same ▸ tenderWhole)
        · exact (drawer.cashWhole c).sub (whole_zero c)
      · intro c
        rw [get_lower]
        split_ifs with same
        · exact sub_nonneg.mpr (same ▸ tenderLe)
        · rw [sub_zero]
          exact drawer.cashNonneg c
      · intro c
        rw [Amounts.get_of]
        split_ifs
        · exact roundIn_whole c _
        · exact drawer.routedWhole c
      · intro k cap' found c
        dsimp only at found
        by_cases here : k = key
        · rw [here, Function.update_self] at found
          cases found
          rw [get_lower]
          split_ifs with same
          · exact (drawer.capsWhole key cap known c).sub (same ▸ valueWhole)
          · exact (drawer.capsWhole key cap known c).sub (whole_zero c)
        · rw [Function.update_of_ne here] at found
          exact drawer.capsWhole k cap' found c
      · intro k cap' found c
        dsimp only at found
        by_cases here : k = key
        · rw [here, Function.update_self] at found
          cases found
          rw [get_lower]
          split_ifs with same
          · exact sub_nonneg.mpr (same ▸ valueLe)
          · rw [sub_zero]
            exact drawer.capsNonneg key cap known c
        · rw [Function.update_of_ne here] at found
          exact drawer.capsNonneg k cap' found c
      · intro c
        have before := drawer.cash c
        rw [get_lower, Amounts.get_of]
        by_cases same : c = tender
        · subst same
          rw [if_pos rfl, if_pos rfl, ((drawer.routedWhole c).add tenderWhole).roundIn]
          linarith
        · rw [if_neg same, if_neg (Ne.symm same), sub_zero]
          exact before
      · intro c
        rw [Amounts.get_of, routedCash_append]
        dsimp only
        by_cases same : c = tender
        · subst same
          rw [if_pos rfl, if_pos rfl, ((drawer.routedWhole c).add tenderWhole).roundIn, drawer.routed]
        · rw [if_neg same, if_neg (Ne.symm same), add_zero, drawer.routed]
      · intro k c
        have before := drawer.caps k c
        rw [routedFor_append]
        unfold capOf at before ⊢
        dsimp only
        by_cases here : k = key
        · subst here
          rw [known] at before
          rw [Function.update_self]
          dsimp only [Option.map_some, Option.getD_some] at before ⊢
          rw [get_lower, ← before]
          simp only [true_and]
          ring
        · rw [Function.update_of_ne here, if_neg (fun both => here both.1.symm), add_zero, before]
      · rw [get_lower, if_pos rfl]
        exact sub_le_sub_right within value

theorem Drawer.route {o r : Routing} (drawer : Drawer o r) (key : Key) (debt : Currency)
    (wantValue : ℚ) : Drawer o (route rate r key debt wantValue).1 := by
  unfold DebtRepayment.route
  split
  · exact drawer
  · rename_i cap known
    dsimp only
    split_ifs
    · exact drawer
    · obtain ⟨first, cap', known', within⟩ := drawer.routeTender known debt debt (min_le_right wantValue _)
      exact (first.routeTender known' debt (other debt) within).1

theorem Drawer.routeTicked {o r : Routing} (drawer : Drawer o r) (t : CoverageTake) :
    Drawer o (routeTicked rate r t) := by
  have inUsd : Drawer o (if 0 < t.amounts.usd then (DebtRepayment.route rate r t.toKey .usd t.amounts.usd).1 else r) := by
    split_ifs
    · exact drawer.route ..
    · exact drawer
  unfold DebtRepayment.routeTicked
  dsimp only
  split_ifs at inUsd ⊢
  · exact inUsd.route ..
  · exact inUsd.route ..
  · exact inUsd
  · exact inUsd

theorem Drawer.ticked {o r : Routing} (drawer : Drawer o r) (takes : List CoverageTake) :
    Drawer o (takes.foldl (DebtRepayment.routeTicked rate) r) := by
  induction takes generalizing r with
  | nil => exact drawer
  | cons t rest ih => exact ih (drawer.routeTicked t)

theorem Drawer.routeTransfer {o r : Routing} (drawer : Drawer o r) (it : AllocationItem)
    (remainderValue : ℚ) : Drawer o (routeTransfer rate r it remainderValue).1 := by
  unfold DebtRepayment.routeTransfer
  dsimp only
  split_ifs
  · exact (drawer.route ..).route ..
  · exact drawer.route ..
  · exact drawer.route ..
  · exact drawer

theorem Drawer.routeTransfers {o r : Routing} (drawer : Drawer o r) (items : List AllocationItem)
    (remainderValue : ℚ) : Drawer o (routeTransfers rate r items remainderValue) := by
  induction items generalizing r remainderValue with
  | nil => exact drawer
  | cons it rest ih =>
    unfold DebtRepayment.routeTransfers
    split_ifs
    · exact drawer
    · exact ih (drawer.routeTransfer it remainderValue) _

end

section
variable {input : AllocateRepaymentInput}

theorem unrouted_caps {key : Key} {cap : Amounts} (found : (unrouted input).caps key = some cap) :
    ∃ it ∈ input.items, it.toKey = key ∧
      ∃ given, it.routingCap = some given ∧ cap = .of fun c => max 0 (given.get c) := by
  unfold unrouted at found
  dsimp only at found
  generalize input.items = items at found
  induction items using List.reverseRecOn with
  | nil => cases found
  | append_singleton rest last ih =>
    have earlier : ∀ {it}, it ∈ rest → it ∈ rest ++ [last] := List.mem_append_left _
    rw [List.foldl_append, List.foldl_cons, List.foldl_nil] at found
    rcases isCap : last.routingCap with _ | given
    · simp only [putCap, isCap] at found
      obtain ⟨it, member, given⟩ := ih found
      exact ⟨it, earlier member, given⟩
    · simp only [putCap, isCap] at found
      by_cases here : key = last.toKey
      · rw [here, Function.update_self] at found
        cases found
        exact ⟨last, List.mem_append_right _ List.mem_cons_self, here.symm, given, isCap, rfl⟩
      · rw [Function.update_of_ne here] at found
        obtain ⟨it, member, given⟩ := ih found
        exact ⟨it, earlier member, given⟩

theorem unrouted_drawer (whole : WholeInput input) : Drawer (unrouted input) (unrouted input) where
  cashWhole c := by
    unfold unrouted
    rw [Amounts.get_of]
    exact ((whole.cash c).min (whole.applied c)).max_zero
  cashNonneg c := by
    unfold unrouted
    rw [Amounts.get_of]
    exact le_max_left _ _
  routedWhole c := (Amounts.get_zero c).symm ▸ whole_zero c
  capsWhole k cap found c := by
    obtain ⟨it, member, -, given, isCap, rfl⟩ := unrouted_caps found
    rw [Amounts.get_of]
    exact (whole.caps it member given isCap c).max_zero
  capsNonneg k cap found c := by
    obtain ⟨it, member, -, given, isCap, rfl⟩ := unrouted_caps found
    rw [Amounts.get_of]
    exact le_max_left _ _
  cash c := by
    unfold unrouted
    rw [Amounts.get_zero, add_zero]
  routed c := Amounts.get_zero c
  caps k c := zero_add _

theorem routed_drawer (whole : WholeInput input) : Drawer (unrouted input) (routed input) :=
  ((unrouted_drawer whole).ticked _).routeTransfers _ _

theorem routed_le (whole : WholeInput input) (c : Currency) :
    (routed input).routed.get c ≤ max 0 (min (input.cash.get c) (input.applied.get c)) := by
  have drawer := routed_drawer whole
  have books := drawer.cash c
  have start : (unrouted input).cash.get c = max 0 (min (input.cash.get c) (input.applied.get c)) := Amounts.get_of _ c
  have := drawer.cashNonneg c
  linarith

/-- How much may still be routed for an item. -/
def routingRoom (it : AllocationItem) (c : Currency) : ℚ :=
  (it.routingCap.map fun cap => max 0 (cap.get c)).getD 0

theorem same_of_key (distinct : DistinctItems input) {a b : AllocationItem} (first : a ∈ input.items)
    (second : b ∈ input.items) (same : a.toKey = b.toKey) : a = b :=
  List.inj_on_of_nodup_map distinct first second same

theorem routedFor_le (whole : WholeInput input) (distinct : DistinctItems input) {it : AllocationItem}
    (member : it ∈ input.items) (c : Currency) : routedFor (routed input).takes it.toKey c ≤ routingRoom it c := by
  have drawer := routed_drawer whole
  have books := drawer.caps it.toKey c
  have start : capOf (unrouted input) it.toKey c ≤ routingRoom it c := by
    unfold capOf
    rcases found : (unrouted input).caps it.toKey with _ | cap
    · unfold routingRoom
      rcases it.routingCap with _ | given
      · exact le_rfl
      · exact le_max_left _ _
    · obtain ⟨it', member', same, given, isCap, rfl⟩ := unrouted_caps found
      unfold routingRoom
      rw [← same_of_key distinct member' member same, isCap]
      exact (Amounts.get_of _ c).le
  have left : 0 ≤ capOf (routed input) it.toKey c := by
    unfold capOf
    rcases found : (routed input).caps it.toKey with _ | cap
    · exact le_rfl
    · exact drawer.capsNonneg _ cap found c
  linarith

end

/-! The bounds of a repayment. -/

/-- An amount below zero counts as zero. -/
theorem repayment_bounded (input : AllocateRepaymentInput) (whole : WholeInput input) (distinct : DistinctItems input) :
    (∀ it ∈ input.items, ∀ c,
        coveredFor (allocateRepayment input).coverage it.toKey c ≤ max 0 (it.owed.get c)) ∧
      (∀ c, totalCovered (allocateRepayment input).coverage c ≤ max 0 (input.reduction.get c)) ∧
      (∀ c, (allocateRepayment input).routed.get c = routedCash (allocateRepayment input).routing c) ∧
      (∀ c, (allocateRepayment input).routed.get c ≤ max 0 (min (input.cash.get c) (input.applied.get c))) ∧
      ∀ it ∈ input.items, ∀ c, routedFor (allocateRepayment input).routing it.toKey c ≤ routingRoom it c :=
  ⟨fun _ member => coveredFor_le whole distinct member, totalCovered_le whole, (routed_drawer whole).routed,
    routed_le whole, fun _ member => routedFor_le whole distinct member⟩

def openTransfer : AllocationItem where
  kind := .member
  id := 1
  createdAt := "2026-10-10 18:44:47"
  rowId := 50
  owed := { usd := 101, lbp := 0 }
  routingCap := some { usd := 101, lbp := 0 }

def openSale : AllocationItem where
  kind := .sale
  id := 110
  createdAt := "2026-10-10 18:44:47"
  rowId := 110
  owed := { usd := 14, lbp := 0 }

/-- A repayment in both currencies. -/
def mixedRepayment : AllocateRepaymentInput where
  items := [openTransfer, openSale]
  targets := [{ kind := .member, id := 1 }]
  reduction := { usd := 112, lbp := 0 }
  applied := { usd := 100, lbp := 1068000 }
  cash := { usd := 60, lbp := 1068000 }
  rate := 89000

/-- More handed back than paid. -/
def handedBack : AllocateRepaymentInput :=
  { mixedRepayment with applied := { usd := -1, lbp := 0 } }

theorem repayment_bounded_mixed :
    (∀ it ∈ mixedRepayment.items, ∀ c,
        coveredFor (allocateRepayment mixedRepayment).coverage it.toKey c ≤ max 0 (it.owed.get c)) ∧
      (∀ c, totalCovered (allocateRepayment mixedRepayment).coverage c ≤ max 0 (mixedRepayment.reduction.get c)) ∧
      (∀ c, (allocateRepayment mixedRepayment).routed.get c = routedCash (allocateRepayment mixedRepayment).routing c) ∧
      (∀ c, (allocateRepayment mixedRepayment).routed.get c ≤
        max 0 (min (mixedRepayment.cash.get c) (mixedRepayment.applied.get c))) ∧
      ∀ it ∈ mixedRepayment.items, ∀ c,
        routedFor (allocateRepayment mixedRepayment).routing it.toKey c ≤ routingRoom it c :=
  repayment_bounded mixedRepayment (by decide +kernel) (by decide)

theorem handedBack_routes_more :
    WholeInput handedBack ∧ DistinctItems handedBack ∧
      ¬ (allocateRepayment handedBack).routed.usd ≤ min handedBack.cash.usd handedBack.applied.usd :=
  ⟨by decide +kernel, by decide, by decide +kernel⟩

end Liratek.Money.DebtRepayment
