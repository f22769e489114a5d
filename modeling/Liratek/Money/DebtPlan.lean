import Liratek.Lib.Sorting
import Liratek.Money.DebtCoverage
import Mathlib.Algebra.Order.BigOperators.Group.List
import Mathlib.Data.Prod.Lex

/-! The repayment plan shown to the cashier is what is booked. -/

namespace Liratek.Money.DebtRepayment
open Lib.Sorting

/-! The order of the ticked items. -/

def age (it : AllocationItem) : String ×ₗ Nat ×ₗ Nat :=
  toLex (it.createdAt, toLex (it.rowId, it.id))

theorem byAge_iff (a b : AllocationItem) : byAge a b = true ↔ age a ≤ age b := by
  unfold byAge age
  rw [Prod.Lex.toLex_le_toLex, Prod.Lex.toLex_le_toLex]
  dsimp only
  split_ifs with time row
  · simp only [decide_eq_true_iff, time, false_and, or_false]
  · simp only [decide_eq_true_iff, not_not.mp time, row, lt_irrefl, true_and, false_and, false_or, or_false]
  · simp only [decide_eq_true_iff, not_not.mp time, not_not.mp row, lt_irrefl, true_and, false_or]

/-- Cash drawer first, then oldest first. -/
def priority (it : AllocationItem) : Bool ×ₗ String ×ₗ Nat ×ₗ Nat :=
  toLex (!isCashDrawerItem it, age it)

theorem byTickedPriority_iff (a b : AllocationItem) : byTickedPriority a b = true ↔ priority a ≤ priority b := by
  unfold byTickedPriority priority
  rw [Prod.Lex.toLex_le_toLex]
  cases isCashDrawerItem a <;> cases isCashDrawerItem b <;> simp [byAge_iff]

instance : IsTrans AllocationItem fun a b => byTickedPriority a b = true where
  trans a b c first second := by
    rw [byTickedPriority_iff] at first second ⊢
    exact first.trans second

instance : Std.Total fun a b : AllocationItem => byTickedPriority a b = true where
  total a b := by
    rw [byTickedPriority_iff, byTickedPriority_iff]
    exact le_total _ _

theorem filter_sortBy (p : AllocationItem → Bool) (items : List AllocationItem) :
    (sortBy byTickedPriority items).filter p = sortBy byTickedPriority (items.filter p) :=
  filter_insertionSort p items

theorem mem_sortBy {le : AllocationItem → AllocationItem → Bool} {items : List AllocationItem} {it : AllocationItem} :
    it ∈ sortBy le items ↔ it ∈ items :=
  List.mem_insertionSort _

/-! A take is never lost. -/

/-- A later state of a walk: whole takes, none of them smaller. -/
structure Grows (w w' : Walk) : Prop where
  whole : WholeTakes w'.takes
  grows : ∀ k c, coveredFor w.takes k c ≤ coveredFor w'.takes k c

theorem Grows.refl {w : Walk} (kept : WholeTakes w.takes) : Grows w w :=
  ⟨kept, fun _ _ => le_rfl⟩

theorem Grows.trans {w w' w'' : Walk} (first : Grows w w') (second : Grows w' w'') : Grows w w'' :=
  ⟨second.whole, fun k c => (first.grows k c).trans (second.grows k c)⟩

theorem cover_grows {share : Currency → ℚ → ℚ → ℚ} (isShare : Share share) {w : Walk} (kept : WholeTakes w.takes)
    (key : Key) : Grows w (cover share w key) := by
  obtain ⟨whole, covered⟩ := cover_takes isShare kept key
  refine ⟨whole, ?_⟩
  intro k c
  rw [covered]
  split_ifs
  · exact le_add_of_nonneg_right (isShare.nonneg ..)
  · rw [add_zero]

theorem coverTicked_takes (w : Walk) (it : AllocationItem) :
    (coverTicked w it).takes = (cover tickedShare w it.toKey).takes := by
  unfold coverTicked
  dsimp only
  split_ifs with some
  · rfl
  · unfold cover
    rw [if_neg some]

theorem coverTicked_grows {w : Walk} (kept : WholeTakes w.takes) (it : AllocationItem) : Grows w (coverTicked w it) := by
  obtain ⟨whole, grows⟩ := cover_grows fair_tickedShare.toShare kept it.toKey
  rw [← coverTicked_takes] at whole
  simp only [← coverTicked_takes] at grows
  exact ⟨whole, grows⟩

theorem ticked_grow (items : List AllocationItem) {w : Walk} (kept : WholeTakes w.takes) :
    Grows w (items.foldl coverTicked w) := by
  induction items generalizing w with
  | nil => exact Grows.refl kept
  | cons it rest ih =>
    have first := coverTicked_grows kept it
    exact first.trans (ih first.whole)

theorem coverSales_grows (items : List AllocationItem) {w : Walk} (kept : WholeTakes w.takes) :
    Grows w (coverSales w items) := by
  induction items generalizing w with
  | nil => exact Grows.refl kept
  | cons it rest ih =>
    unfold coverSales
    split_ifs
    · exact Grows.refl kept
    · have first := cover_grows (fair_restShare epsSale_pos).toShare kept it.toKey
      exact first.trans (ih first.whole)

theorem coverOthers_grows (items : List AllocationItem) {w : Walk} (kept : WholeTakes w.takes) :
    Grows w (coverOthers w items) := by
  unfold coverOthers
  induction items generalizing w with
  | nil => exact Grows.refl kept
  | cons it rest ih =>
    have first := cover_grows (fair_restShare eps_pos).toShare kept it.toKey
    exact first.trans (ih first.whole)

theorem covered_grows (input : AllocateRepaymentInput) : Grows (tickedCovered input) (covered input) := by
  have ticked := (ticked_grow (w := opening input) (cashierTicked input ++ autoTicked input) wholeTakes_nil).whole
  have sales := coverSales_grows ((rest input).filter fun it => it.kind = .sale) ticked
  exact sales.trans (coverOthers_grows _ sales.whole)

/-! An item that ends without a take changes nothing in the first walk. -/

def Taken (w : Walk) (key : Key) : Prop :=
  ∃ c, 0 < coveredFor w.takes key c

theorem Grows.taken {w w' : Walk} (grows : Grows w w') {key : Key} (taken : Taken w key) : Taken w' key := by
  obtain ⟨c, pos⟩ := taken
  exact ⟨c, pos.trans_le (grows.grows key c)⟩

theorem taken_iff {takes : List CoverageTake} (kept : WholeTakes takes) (key : Key) :
    (∃ c, 0 < coveredFor takes key c) ↔ (takes.any fun t => sameRef t.toKey key && positive t.amounts) = true := by
  rw [List.any_eq_true]
  constructor
  · intro ⟨c, pos⟩
    unfold coveredFor at pos
    have above : (takes.map fun _ => (0 : ℚ)).sum < (takes.map fun t => if t.toKey = key then t.amounts.get c else 0).sum := by
      rwa [List.map_const', List.sum_replicate, nsmul_zero]
    obtain ⟨x, member, pos⟩ := List.exists_lt_of_sum_lt _ _ above
    obtain ⟨same, pos⟩ : x.toKey = key ∧ 0 < x.amounts.get c := by
      split_ifs at pos with same
      · exact ⟨same, pos⟩
      · exact absurd pos (lt_irrefl _)
    refine ⟨x, member, ?_⟩
    rw [Bool.and_eq_true]
    exact ⟨decide_eq_true same, positive_iff.mpr ⟨c, pos⟩⟩
  · intro ⟨t, member, both⟩
    rw [Bool.and_eq_true] at both
    have same : t.toKey = key := of_decide_eq_true both.1
    obtain ⟨c, pos⟩ := positive_iff.mp both.2
    refine ⟨c, ?_⟩
    have one : (if t.toKey = key then t.amounts.get c else 0) ≤ coveredFor takes key c := by
      apply List.single_le_sum
      · intro x member
        obtain ⟨t', member', rfl⟩ := List.mem_map.mp member
        split_ifs
        · exact kept.nonneg t' member' c
        · exact le_rfl
      · exact List.mem_map.mpr ⟨t, member, rfl⟩
    rw [if_pos same] at one
    exact pos.trans_le one

theorem coverTicked_cases {w : Walk} (kept : WholeTakes w.takes) (it : AllocationItem) :
    coverTicked w it = w ∨ Taken (coverTicked w it) it.toKey := by
  by_cases some : positive (.of (shareOf tickedShare w it.toKey)) = true
  · right
    obtain ⟨c, pos⟩ := positive_iff.mp some
    rw [Amounts.get_of] at pos
    have nonneg : 0 ≤ coveredFor w.takes it.toKey c := by
      apply List.sum_nonneg
      intro x member
      obtain ⟨t, member', rfl⟩ := List.mem_map.mp member
      split_ifs
      · exact kept.nonneg t member' c
      · exact le_rfl
    refine ⟨c, ?_⟩
    rw [coverTicked_takes, (cover_takes fair_tickedShare.toShare kept it.toKey).2, if_pos rfl]
    exact add_pos_of_nonneg_of_pos nonneg pos
  · left
    unfold coverTicked
    dsimp only
    unfold shareOf at some
    rw [if_neg some]

theorem ticked_filter (p : AllocationItem → Bool) (items : List AllocationItem) {w : Walk} (kept : WholeTakes w.takes)
    (untaken : ∀ it ∈ items, p it = false → ¬ Taken (items.foldl coverTicked w) it.toKey) :
    (items.filter p).foldl coverTicked w = items.foldl coverTicked w := by
  induction items generalizing w with
  | nil => rfl
  | cons it rest ih =>
    have first := coverTicked_grows kept it
    have later := ih first.whole fun it' member => untaken it' (List.mem_cons_of_mem it member)
    rw [List.filter_cons]
    split_ifs with here
    · exact later
    · rcases coverTicked_cases kept it with same | taken
      · rw [List.foldl_cons, ← later, same]
      · have here : p it = false := Bool.eq_false_of_not_eq_true here
        exact absurd ((ticked_grow rest first.whole).taken taken) (untaken it List.mem_cons_self here)

/-! The plan and the booking walk the same items. -/

section
variable (plan : PlanRepaymentTargetsInput)

/-- The booking the plan is sent to. -/
def booking (applied cash : Amounts) (rate : ℚ) : AllocateRepaymentInput where
  items := plan.items
  targets := (planRepaymentTargets plan).targets
  reduction := plan.reduction
  applied := applied
  cash := cash
  rate := rate

def isReached (it : AllocationItem) : Bool :=
  (planCoverage plan).any fun c => sameRef c.toKey it.toKey && positive c.amounts

theorem isReached_congr {a b : AllocationItem} (same : a.toKey = b.toKey) : isReached plan a = isReached plan b := by
  unfold isReached
  rw [same]

theorem tickedRefs_cashier {t : DebtItemRef} (member : t ∈ tickedRefs plan) : t.auto = false := by
  unfold tickedRefs at member
  rw [List.mem_insertionSort] at member
  obtain ⟨it, -, rfl⟩ := List.mem_map.mp member
  rfl

theorem any_cashier (autos : List AllocationItem) (it : AllocationItem) :
    ((tickedRefs plan ++ autos.map autoRef).any fun t => !t.auto && sameRef t.toKey it.toKey) =
      (tickedRefs plan).any fun t => sameRef t.toKey it.toKey := by
  have none : ((autos.map autoRef).any fun t => !t.auto && sameRef t.toKey it.toKey) = false := by
    rw [List.any_eq_false]
    intro t member
    obtain ⟨it', -, rfl⟩ := List.mem_map.mp member
    simp [autoRef]
  rw [List.any_append, none, Bool.or_false, Bool.eq_iff_iff, List.any_eq_true, List.any_eq_true]
  constructor
  · intro ⟨t, member, both⟩
    exact ⟨t, member, (Bool.and_eq_true_iff.mp both).2⟩
  · intro ⟨t, member, same⟩
    exact ⟨t, member, by rw [tickedRefs_cashier plan member, same]; rfl⟩

theorem any_auto (autos : List AllocationItem) (it : AllocationItem) :
    ((tickedRefs plan ++ autos.map autoRef).any fun t => t.auto && sameRef t.toKey it.toKey) =
      autos.any fun it' => sameRef it'.toKey it.toKey := by
  have none : ((tickedRefs plan).any fun t => t.auto && sameRef t.toKey it.toKey) = false := by
    rw [List.any_eq_false]
    intro t member
    rw [tickedRefs_cashier plan member, Bool.false_and]
    exact Bool.false_ne_true
  rw [List.any_append, none, Bool.false_or, List.any_map]
  rfl

theorem cashierTicked_booking (applied cash : Amounts) (rate : ℚ) :
    cashierTicked (booking plan applied cash rate) = cashierTicked (planInput plan) := by
  unfold cashierTicked booking planInput planRepaymentTargets reached
  dsimp only
  congr 2
  funext it
  rw [any_cashier, any_cashier]

/-- The booking is sent the reached items only. -/
theorem autoTicked_booking (applied cash : Amounts) (rate : ℚ) :
    autoTicked (booking plan applied cash rate) = (autoTicked (planInput plan)).filter (isReached plan) := by
  unfold autoTicked
  rw [cashierTicked_booking, filter_sortBy, List.filter_filter]
  unfold booking planInput planRepaymentTargets reached
  dsimp only
  congr 2
  funext it
  rw [any_auto, any_auto, Bool.and_left_comm]
  congr 1
  rw [Bool.eq_iff_iff, Bool.and_eq_true, List.any_eq_true, List.any_eq_true]
  constructor
  · intro ⟨it', member, same⟩
    obtain ⟨inside, isReached⟩ := List.mem_filter.mp (mem_sortBy.mp member)
    exact ⟨(isReached_congr plan (of_decide_eq_true same)).symm.trans isReached, it', inside, same⟩
  · intro ⟨isReached, it', inside, same⟩
    refine ⟨it', mem_sortBy.mpr (List.mem_filter.mpr ⟨inside, ?_⟩), same⟩
    exact (isReached_congr plan (of_decide_eq_true same)).trans isReached

theorem tickedCovered_booking (applied cash : Amounts) (rate : ℚ) :
    tickedCovered (booking plan applied cash rate) = tickedCovered (planInput plan) := by
  have cashier := ticked_grow (w := opening (planInput plan)) (cashierTicked (planInput plan)) wholeTakes_nil
  have opens : opening (booking plan applied cash rate) = opening (planInput plan) := rfl
  unfold tickedCovered
  rw [cashierTicked_booking, autoTicked_booking, opens, List.foldl_append, List.foldl_append]
  apply ticked_filter _ _ cashier.whole
  intro it _ missed taken
  rw [← List.foldl_append] at taken
  have inPlan := (covered_grows (planInput plan)).taken taken
  have whole := (covered_grows (planInput plan)).whole
  have isReached : isReached plan it = true := (taken_iff whole it.toKey).mp inPlan
  rw [missed] at isReached
  exact Bool.false_ne_true isReached

/-- What the plan shows is what is booked, whatever is applied and paid in cash, at whatever rate. -/
theorem plan_booked (applied cash : Amounts) (rate : ℚ) :
    (allocateRepayment (booking plan applied cash rate)).coverage = (planRepaymentTargets plan).coverage := by
  unfold planRepaymentTargets planCoverage allocateRepayment covered
  rw [tickedCovered_booking]
  rfl

end

end Liratek.Money.DebtRepayment
