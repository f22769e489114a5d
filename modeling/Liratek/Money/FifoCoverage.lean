import Liratek.Lib.Coverage
import Mathlib.Algebra.Order.Group.Int
import Mathlib.Algebra.Order.Group.MinMax
import Mathlib.Algebra.Order.Group.Unbundled.Basic

/-! Oldest-first coverage: the one allocator every first-in-first-out payment uses. -/

namespace Liratek.Money.FifoCoverage
open Lib.Coverage

/-- One row still open for coverage. -/
structure FifoOpenRow (ι α : Type*) where
  id : ι
  outstanding : α
  deriving DecidableEq, Repr

structure FifoTake (ι α : Type*) where
  id : ι
  take : α
  deriving DecidableEq, Repr

/-- `small x` is `x <= epsilon`. The caller orders the rows. -/
def allocateFifo {ι α : Type*} [Sub α] [Min α] (small : α → Bool) :
    List (FifoOpenRow ι α) → α → List (FifoTake ι α)
  | [], _ => []
  | row :: rest, remaining =>
    if small remaining then []
    else
      let take := min remaining row.outstanding
      if small take then allocateFifo small rest remaining
      else { id := row.id, take := take } :: allocateFifo small rest (remaining - take)

theorem allocateFifo_spent {ι α : Type*} [Sub α] [Min α] {small : α → Bool} {budget : α} (spent : small budget = true)
    (rows : List (FifoOpenRow ι α)) : allocateFifo small rows budget = [] := by
  cases rows with
  | nil => rfl
  | cons => rw [allocateFifo, if_pos spent]

/-- Rows that are not open do not matter. -/
theorem allocateFifo_filter {ι α : Type*} [Sub α] [Min α] {small : α → Bool}
    (low : ∀ x y, small y = true → small (min x y) = true) (rows : List (FifoOpenRow ι α)) (budget : α) :
    allocateFifo small (rows.filter fun row => !small row.outstanding) budget = allocateFifo small rows budget := by
  induction rows generalizing budget with
  | nil => rfl
  | cons row rest ih =>
    by_cases closed : small row.outstanding = true
    · rw [List.filter_cons_of_neg (by simp [closed]), ih, allocateFifo]
      split_ifs with spent
      · exact allocateFifo_spent spent rest
      · exact (if_pos (low _ _ closed)).symm
    · rw [List.filter_cons_of_pos (by simpa using closed), allocateFifo, allocateFifo]
      simp only [ih]

/-- Every take is from one of the rows, and more than small. -/
theorem allocateFifo_take {ι α : Type*} [Sub α] [LinearOrder α] {small : α → Bool} {rows : List (FifoOpenRow ι α)}
    {budget : α} {t : FifoTake ι α} (member : t ∈ allocateFifo small rows budget) :
    small t.take = false ∧ ∃ row ∈ rows, row.id = t.id ∧ t.take ≤ row.outstanding := by
  induction rows generalizing budget with
  | nil => exact absurd member List.not_mem_nil
  | cons row rest ih =>
    have later : (∃ budget, t ∈ allocateFifo small rest budget) →
        small t.take = false ∧ ∃ row' ∈ row :: rest, row'.id = t.id ∧ t.take ≤ row'.outstanding := by
      intro ⟨budget, inside⟩
      obtain ⟨large, row', inside, same⟩ := ih inside
      exact ⟨large, row', List.mem_cons_of_mem row inside, same⟩
    rw [allocateFifo] at member
    dsimp only at member
    split_ifs at member with spent dust
    · exact absurd member List.not_mem_nil
    · exact later ⟨_, member⟩
    · rcases List.mem_cons.mp member with rfl | inside
      · exact ⟨Bool.not_eq_true _ ▸ dust, row, List.mem_cons_self, rfl, min_le_right _ _⟩
      · exact later ⟨_, inside⟩

theorem allocateFifo_ids {ι α : Type*} [Sub α] [Min α] {small : α → Bool} (rows : List (FifoOpenRow ι α)) (budget : α) :
    ((allocateFifo small rows budget).map (·.id)).Sublist (rows.map (·.id)) := by
  induction rows generalizing budget with
  | nil => exact List.Sublist.slnil
  | cons row rest ih =>
    rw [allocateFifo]
    dsimp only
    split_ifs
    · exact List.nil_sublist _
    · exact (ih _).cons _
    · exact (ih _).cons_cons _

section
variable {ι α : Type*} [AddCommMonoid α]

def entry (t : FifoTake ι α) : ι × α :=
  (t.id, t.take)

def totalTake (takes : List (FifoTake ι α)) : α :=
  (takes.map (·.take)).sum

variable [LinearOrder ι]

def takeOf (takes : List (FifoTake ι α)) (i : ι) : α :=
  amountAt (takes.map entry) i

theorem takeOf_cons (t : FifoTake ι α) (rest : List (FifoTake ι α)) (i : ι) :
    takeOf (t :: rest) i = (if t.id = i then t.take else 0) + takeOf rest i :=
  amountAt_cons _ _ i

theorem takeOf_eq_zero {takes : List (FifoTake ι α)} {i : ι} (none : i ∉ takes.map (·.id)) : takeOf takes i = 0 := by
  apply amountAt_eq_zero
  intro e member same
  obtain ⟨t, inside, rfl⟩ := List.mem_map.mp member
  exact none (List.mem_map.mpr ⟨t, inside, same⟩)

theorem sum_takeOf {places : List ι} (distinct : places.Nodup) {takes : List (FifoTake ι α)}
    (inside : ∀ t ∈ takes, t.id ∈ places) : (places.map (takeOf takes)).sum = totalTake takes := by
  have entries : (takes.map entry).map Prod.snd = takes.map (·.take) := by
    rw [List.map_map]
    rfl
  rw [totalTake, ← entries]
  apply sum_amountAt distinct
  intro e member
  obtain ⟨t, isThere, rfl⟩ := List.mem_map.mp member
  exact inside t isThere

end

/-! An allocation that leaves no dust: the budget runs down the queue. -/

section
variable {ι α : Type*} [AddCommGroup α] [LinearOrder α]

/-- What the rows of the queue are open for together. -/
def openTotal (queue : List ι) (outstanding : ι → α) : α :=
  (queue.map fun i => max 0 (outstanding i)).sum

variable [LinearOrder ι]

/-- The takes of a budget over a queue of distinct places. -/
structure Covers (queue : List ι) (outstanding : ι → α) (budget : α) (takes : List (FifoTake ι α)) : Prop where
  positive : ∀ t ∈ takes, 0 < t.take
  ids : (takes.map (·.id)).Sublist queue
  total : totalTake takes = min budget (openTotal queue outstanding)
  bounded : ∀ i ∈ queue, takeOf takes i ≤ max 0 (outstanding i)
  /-- a covered row finds every earlier row full -/
  oldest : queue.Pairwise fun i j => takeOf takes j ≠ 0 → takeOf takes i = max 0 (outstanding i)

theorem covers_nil {queue : List ι} {outstanding : ι → α} {budget : α}
    (idle : min budget (openTotal queue outstanding) = 0) : Covers queue outstanding budget [] where
  positive _ member := absurd member List.not_mem_nil
  ids := List.nil_sublist _
  total := idle.symm
  bounded i _ := le_max_left 0 (outstanding i)
  oldest := List.pairwise_of_forall fun _ _ covered => absurd rfl covered

/-- A row that is not open is passed over. -/
theorem Covers.skip {i : ι} {rest : List ι} {outstanding : ι → α} {budget : α} {takes : List (FifoTake ι α)}
    (covers : Covers rest outstanding budget takes) (fresh : i ∉ rest) (closed : outstanding i ≤ 0) :
    Covers (i :: rest) outstanding budget takes := by
  have none : takeOf takes i = 0 := takeOf_eq_zero fun member => fresh (covers.ids.subset member)
  have zero : max 0 (outstanding i) = 0 := max_eq_left closed
  refine ⟨covers.positive, covers.ids.cons i, ?_, ?_, ?_⟩
  · rw [covers.total, openTotal, openTotal, List.map_cons, List.sum_cons, zero, zero_add]
  · intro j member
    rcases List.mem_cons.mp member with rfl | later
    · rw [none]
      exact le_max_left _ _
    · exact covers.bounded j later
  · refine List.pairwise_cons.mpr ⟨fun j _ _ => ?_, covers.oldest⟩
    rw [none, zero]

theorem Covers.full_of_lt {queue : List ι} {outstanding : ι → α} {budget : α} {takes : List (FifoTake ι α)}
    (covers : Covers queue outstanding budget takes) (increasing : queue.Pairwise (· < ·)) {i j : ι}
    (hasI : i ∈ queue) (hasJ : j ∈ queue) (earlier : i < j) (covered : takeOf takes j ≠ 0) :
    takeOf takes i = max 0 (outstanding i) := by
  have forward : queue.Pairwise fun a b => a < b → takeOf takes b ≠ 0 → takeOf takes a = max 0 (outstanding a) :=
    covers.oldest.imp fun {a b} full (_ : a < b) => full
  have backward : queue.Pairwise fun a b => b < a → takeOf takes a ≠ 0 → takeOf takes b = max 0 (outstanding b) :=
    increasing.imp fun less later => absurd (less.trans later) (lt_irrefl _)
  exact forward.forall_of_forall_of_flip (fun a _ loop => absurd loop (lt_irrefl a)) backward hasI hasJ earlier covered

omit [LinearOrder ι] in
theorem openTotal_congr {queue : List ι} {outstanding outstanding' : ι → α}
    (same : ∀ i ∈ queue, max 0 (outstanding i) = max 0 (outstanding' i)) :
    openTotal queue outstanding = openTotal queue outstanding' := by
  rw [openTotal, openTotal, List.map_congr_left same]

/-- Only what is open counts. -/
theorem Covers.congr {queue : List ι} {outstanding outstanding' : ι → α} {budget : α} {takes : List (FifoTake ι α)}
    (covers : Covers queue outstanding budget takes)
    (same : ∀ i ∈ queue, max 0 (outstanding i) = max 0 (outstanding' i)) :
    Covers queue outstanding' budget takes where
  positive := covers.positive
  ids := covers.ids
  total := by rw [covers.total, openTotal_congr same]
  bounded i member := by
    rw [← same i member]
    exact covers.bounded i member
  oldest := covers.oldest.imp_of_mem fun memberA _ full covered => (full covered).trans (same _ memberA)

variable [IsOrderedAddMonoid α]

theorem Covers.takeOf_nonneg {queue : List ι} {outstanding : ι → α} {budget : α} {takes : List (FifoTake ι α)}
    (covers : Covers queue outstanding budget takes) (i : ι) : 0 ≤ takeOf takes i := by
  apply List.sum_nonneg
  intro x member
  obtain ⟨e, inside, rfl⟩ := List.mem_map.mp member
  obtain ⟨t, isThere, rfl⟩ := List.mem_map.mp (List.mem_filter.mp inside).1
  exact (covers.positive t isThere).le

omit [IsOrderedAddMonoid α] in
theorem Covers.sum {queue : List ι} {outstanding : ι → α} {budget : α} {takes : List (FifoTake ι α)}
    (covers : Covers queue outstanding budget takes) (distinct : queue.Nodup) :
    (queue.map (takeOf takes)).sum = totalTake takes :=
  sum_takeOf distinct fun _ member => covers.ids.subset (List.mem_map_of_mem member)

/-- A budget for the whole queue fills every row. -/
theorem Covers.full {queue : List ι} {outstanding : ι → α} {budget : α} {takes : List (FifoTake ι α)}
    (covers : Covers queue outstanding budget takes) (distinct : queue.Nodup)
    (enough : openTotal queue outstanding ≤ budget) : ∀ i ∈ queue, takeOf takes i = max 0 (outstanding i) := by
  by_contra short
  push Not at short
  obtain ⟨i, member, differs⟩ := short
  have less : (queue.map (takeOf takes)).sum < openTotal queue outstanding :=
    List.sum_lt_sum _ _ covers.bounded ⟨i, member, lt_of_le_of_ne (covers.bounded i member) differs⟩
  rw [covers.sum distinct, covers.total, min_eq_right enough] at less
  exact lt_irrefl _ less

omit [LinearOrder ι] in
theorem openTotal_nonneg (queue : List ι) (outstanding : ι → α) : 0 ≤ openTotal queue outstanding := by
  apply List.sum_nonneg
  intro x member
  obtain ⟨i, -, rfl⟩ := List.mem_map.mp member
  exact le_max_left _ _

/-- An open row takes what the budget allows; if it is not filled, nothing is left for the rest. -/
theorem Covers.cons {i : ι} {rest : List ι} {outstanding : ι → α} {budget : α} {takes : List (FifoTake ι α)}
    (covers : Covers rest outstanding (budget - min budget (outstanding i)) takes) (fresh : i ∉ rest)
    (isOpen : 0 < min budget (outstanding i)) :
    Covers (i :: rest) outstanding budget ({ id := i, take := min budget (outstanding i) } :: takes) := by
  have none : takeOf takes i = 0 := takeOf_eq_zero fun member => fresh (covers.ids.subset member)
  have owed : max 0 (outstanding i) = outstanding i := max_eq_right (isOpen.le.trans (min_le_right _ _))
  have here : takeOf ({ id := i, take := min budget (outstanding i) } :: takes) i = min budget (outstanding i) := by
    rw [takeOf_cons, if_pos rfl, none, add_zero]
  have there : ∀ j ∈ rest, takeOf ({ id := i, take := min budget (outstanding i) } :: takes) j = takeOf takes j := by
    intro j member
    rw [takeOf_cons, if_neg fun same : i = j => fresh (same ▸ member), zero_add]
  have room := openTotal_nonneg rest outstanding
  have spent : budget ≤ outstanding i → totalTake takes = 0 := by
    intro short
    rw [covers.total, min_eq_left short, sub_self, min_eq_left room]
  refine ⟨?_, ?_, ?_, ?_, ?_⟩
  · intro t member
    rcases List.mem_cons.mp member with rfl | later
    · exact isOpen
    · exact covers.positive t later
  · rw [List.map_cons]
    exact covers.ids.cons_cons i
  · have split : totalTake ({ id := i, take := min budget (outstanding i) } :: takes) =
        min budget (outstanding i) + totalTake takes := rfl
    have whole : openTotal (i :: rest) outstanding = outstanding i + openTotal rest outstanding := by
      rw [openTotal, List.map_cons, List.sum_cons, owed, openTotal]
    rw [split, whole]
    rcases le_total budget (outstanding i) with short | long
    · rw [spent short, add_zero, min_eq_left short, min_eq_left (short.trans (le_add_of_nonneg_right room))]
    · rw [covers.total, min_eq_right long, ← min_add_add_left, add_sub_cancel]
  · intro j member
    rcases List.mem_cons.mp member with rfl | later
    · rw [here, owed]
      exact min_le_right _ _
    · rw [there j later]
      exact covers.bounded j later
  · refine List.pairwise_cons.mpr ⟨fun j member covered => ?_, ?_⟩
    · rw [there j member] at covered
      rw [here, owed]
      rcases le_total budget (outstanding i) with short | long
      · exfalso
        have nothing : takes = [] := by
          by_contra some
          obtain ⟨t, others, rfl⟩ := List.exists_cons_of_ne_nil some
          have total := spent short
          have positive := covers.positive t List.mem_cons_self
          have others_nonneg : 0 ≤ (others.map (·.take)).sum := by
            apply List.sum_nonneg
            intro x inside
            obtain ⟨t', isThere, rfl⟩ := List.mem_map.mp inside
            exact (covers.positive t' (List.mem_cons_of_mem t isThere)).le
          rw [totalTake, List.map_cons, List.sum_cons] at total
          exact absurd total (add_pos_of_pos_of_nonneg positive others_nonneg).ne'
        rw [nothing] at covered
        exact covered rfl
      · exact min_eq_right long
    · refine covers.oldest.imp_of_mem fun {a b} memberA memberB full covered => ?_
      rw [there b memberB] at covered
      rw [there a memberA]
      exact full covered

theorem allocateFifo_covers {small : α → Bool} (noDust : ∀ x, small x = true ↔ x ≤ 0) {queue : List ι}
    (distinct : queue.Nodup) (outstanding : ι → α) {budget : α} (nonneg : 0 ≤ budget) :
    Covers queue outstanding budget
      (allocateFifo small (queue.map fun i => { id := i, outstanding := outstanding i }) budget) := by
  induction queue generalizing budget with
  | nil => exact covers_nil (min_eq_right nonneg)
  | cons i rest ih =>
    obtain ⟨fresh, restDistinct⟩ := List.nodup_cons.mp distinct
    simp only [List.map_cons, allocateFifo]
    split_ifs with spent dust
    · have zero : budget = 0 := le_antisymm ((noDust budget).mp spent) nonneg
      rw [zero]
      exact covers_nil (min_eq_left (openTotal_nonneg _ outstanding))
    · refine (ih restDistinct nonneg).skip fresh ?_
      have positive : 0 < budget := lt_of_not_ge fun low => spent ((noDust budget).mpr low)
      exact (min_le_iff.mp ((noDust _).mp dust)).resolve_left (not_le_of_gt positive)
    · have isOpen : 0 < min budget (outstanding i) := lt_of_not_ge fun low => dust ((noDust _).mpr low)
      exact (ih restDistinct (sub_nonneg.mpr (min_le_left _ _))).cons fresh isOpen

/-! What each row takes under a tolerance. -/

omit [LinearOrder ι] in
/-- A walk over the rows: what each of them takes, if anything. -/
structure Walks (epsilon budget : α) (rows : List (FifoOpenRow ι α)) (takes : List (FifoTake ι α))
    (marked : List (FifoOpenRow ι α × Option α)) : Prop where
  perRow : marked.map Prod.fst = rows
  taken : takes = marked.filterMap fun m => m.2.map fun take => { id := m.1.id, take := take }
  bounded : ∀ m ∈ marked, ∀ take, m.2 = some take → epsilon < take ∧ take ≤ m.1.outstanding
  total : totalTake takes ≤ max 0 budget
  /-- before a row that takes something, every open row is full -/
  full : marked.Pairwise fun earlier m => m.2.isSome → epsilon < earlier.1.outstanding → earlier.2 = some earlier.1.outstanding
  unspent : epsilon < budget - totalTake takes → ∀ m ∈ marked, epsilon < m.1.outstanding → m.2 = some m.1.outstanding

omit [LinearOrder ι] in
theorem allocateFifo_walks {epsilon : α} (nonneg : 0 ≤ epsilon) (rows : List (FifoOpenRow ι α)) (budget : α) :
    ∃ marked, Walks epsilon budget rows (allocateFifo (fun x => decide (x ≤ epsilon)) rows budget) marked := by
  induction rows generalizing budget with
  | nil => exact ⟨[], rfl, rfl, by simp, le_max_left _ _, .nil, by simp⟩
  | cons row rest ih =>
    simp only [allocateFifo]
    by_cases spent : budget ≤ epsilon
    · have idle : ∀ m ∈ (row :: rest).map fun row => (row, (none : Option α)), m.2 = none := by
        intro m member
        obtain ⟨_, -, rfl⟩ := List.mem_map.mp member
        rfl
      rw [if_pos (decide_eq_true spent)]
      refine ⟨(row :: rest).map fun row => (row, none), ?_, ?_, fun m member take takes => ?_, le_max_left _ _, ?_, fun left => ?_⟩
      · rw [List.map_map]
        exact List.map_id _
      · exact (List.filterMap_eq_nil_iff.mpr fun m member => by rw [idle m member, Option.map_none]).symm
      · rw [idle m member] at takes
        cases takes
      · exact List.pairwise_of_forall_mem_list fun a _ b member takes => by
          rw [idle b member] at takes
          cases takes
      · rw [totalTake, List.map_nil, List.sum_nil, sub_zero] at left
        exact absurd left (not_lt.mpr spent)
    · rw [if_neg (by simpa using spent)]
      by_cases dust : min budget row.outstanding ≤ epsilon
      · -- the row itself is closed
        have closed : row.outstanding ≤ epsilon := (min_le_iff.mp dust).resolve_left spent
        rw [if_pos (decide_eq_true dust)]
        obtain ⟨marked, walks⟩ := ih budget
        refine ⟨(row, none) :: marked, congrArg (row :: ·) walks.perRow, walks.taken, ?_, walks.total, ?_, ?_⟩
        · exact List.forall_mem_cons.mpr ⟨nofun, walks.bounded⟩
        · exact List.pairwise_cons.mpr ⟨fun _ _ _ isOpen => absurd isOpen (not_lt.mpr closed), walks.full⟩
        · exact fun left => List.forall_mem_cons.mpr ⟨fun isOpen => absurd isOpen (not_lt.mpr closed), walks.unspent left⟩
      · rw [if_neg (by simpa using dust)]
        obtain ⟨marked, walks⟩ := ih (budget - min budget row.outstanding)
        -- a row that is not filled leaves nothing for the rest
        have filled (more : 0 < budget - min budget row.outstanding) : min budget row.outstanding = row.outstanding := by
          refine min_eq_right (le_of_not_gt fun short => ?_)
          rw [min_eq_left short.le, sub_self] at more
          exact absurd more (lt_irrefl _)
        have idle (gone : budget - min budget row.outstanding ≤ 0) :
            allocateFifo (fun x => decide (x ≤ epsilon)) rest (budget - min budget row.outstanding) = [] := by
          apply allocateFifo_spent
          exact decide_eq_true (gone.trans nonneg)
        have left : 0 ≤ budget - min budget row.outstanding := sub_nonneg.mpr (min_le_left _ _)
        have total := walks.total
        rw [max_eq_right left] at total
        have split : totalTake ({ id := row.id, take := min budget row.outstanding } ::
            allocateFifo (fun x => decide (x ≤ epsilon)) rest (budget - min budget row.outstanding)) =
              min budget row.outstanding +
                totalTake (allocateFifo (fun x => decide (x ≤ epsilon)) rest (budget - min budget row.outstanding)) := rfl
        refine ⟨(row, some (min budget row.outstanding)) :: marked, congrArg (row :: ·) walks.perRow, congrArg (_ :: ·) walks.taken,
          ?_, ?_, ?_, ?_⟩
        · refine List.forall_mem_cons.mpr ⟨fun take takes => ?_, walks.bounded⟩
          obtain rfl := Option.some.inj takes
          exact ⟨not_le.mp dust, min_le_right _ _⟩
        · rw [split]
          exact (le_sub_iff_add_le'.mp total).trans (le_max_right _ _)
        · refine List.pairwise_cons.mpr ⟨fun m member takes _ => ?_, walks.full⟩
          refine congrArg some (filled (lt_of_not_ge fun none => ?_))
          have nothing := idle none
          rw [walks.taken, List.filterMap_eq_nil_iff] at nothing
          obtain ⟨take, isTake⟩ := Option.isSome_iff_exists.mp takes
          have idle := nothing m member
          rw [isTake] at idle
          cases idle
        · intro more
          rw [split, ← sub_sub] at more
          refine List.forall_mem_cons.mpr ⟨fun _ => congrArg some (filled (lt_of_not_ge fun none => ?_)), walks.unspent more⟩
          have nothing := idle none
          rw [nothing] at more
          have zero : totalTake ([] : List (FifoTake ι α)) = 0 := rfl
          rw [zero, sub_zero] at more
          exact absurd more (not_lt.mpr (none.trans nonneg))

/-- The second row is within the tolerance, the third one gets what is left. -/
theorem allocateFifo_walks_threeRows : ∃ marked, Walks (1 : ℤ) 6
    [{ id := 1, outstanding := 3 }, { id := 2, outstanding := 1 }, { id := 3, outstanding := 5 }]
    [({ id := 1, take := 3 } : FifoTake ℕ ℤ), { id := 3, take := 3 }] marked :=
  allocateFifo_walks (by decide) _ _

end

end Liratek.Money.FifoCoverage
