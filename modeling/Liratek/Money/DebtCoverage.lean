import Liratek.Money.DebtRepayment
import Mathlib.Data.List.Induction

/-! What a repayment covers: whole cents and whole lira, within the reduction and within what each item has open. -/

namespace Liratek.Money.DebtRepayment
open LargestRemainder

/-! Whole cents, whole lira. -/

def Whole (c : Currency) (x : ℚ) : Prop :=
  ∃ z : ℤ, x = z / factor c

theorem factor_pos (c : Currency) : 0 < factor c := by
  cases c <;> norm_num [factor]

theorem eps_pos (c : Currency) : 0 < eps c := by
  cases c <;> norm_num [eps]

theorem epsSale_pos (c : Currency) : 0 < epsSale c := by
  cases c <;> norm_num [epsSale]

theorem whole_zero (c : Currency) : Whole c 0 :=
  ⟨0, by rw [Int.cast_zero, zero_div]⟩

theorem roundIn_whole (c : Currency) (x : ℚ) : Whole c (roundIn c x) :=
  ⟨_, rfl⟩

section
variable {c : Currency} {x y : ℚ}

theorem Whole.roundIn (whole : Whole c x) : roundIn c x = x := by
  obtain ⟨z, rfl⟩ := whole
  have floor : ⌊(z : ℚ) + 1 / 2⌋ = z := by
    rw [Int.floor_intCast_add]
    norm_num
  unfold DebtRepayment.roundIn mathRound
  rw [div_mul_cancel₀ _ (factor_pos c).ne', floor]

theorem Whole.add (first : Whole c x) (second : Whole c y) : Whole c (x + y) := by
  obtain ⟨z, rfl⟩ := first
  obtain ⟨z', rfl⟩ := second
  exact ⟨z + z', by rw [Int.cast_add, add_div]⟩

theorem Whole.sub (first : Whole c x) (second : Whole c y) : Whole c (x - y) := by
  obtain ⟨z, rfl⟩ := first
  obtain ⟨z', rfl⟩ := second
  exact ⟨z - z', by rw [Int.cast_sub, sub_div]⟩

theorem Whole.min (first : Whole c x) (second : Whole c y) : Whole c (min x y) := by
  rcases min_choice x y with same | same
  · rwa [same]
  · rwa [same]

theorem Whole.max_zero (whole : Whole c x) : Whole c (max 0 x) := by
  rcases max_choice 0 x with same | same
  · rw [same]
    exact whole_zero c
  · rwa [same]

theorem roundIn_mono (le : x ≤ y) : roundIn c x ≤ roundIn c y := by
  have scaled : x * factor c + 1 / 2 ≤ y * factor c + 1 / 2 := by
    have := mul_le_mul_of_nonneg_right le (factor_pos c).le
    linarith
  unfold roundIn mathRound
  exact div_le_div_of_nonneg_right (Int.cast_le.mpr (Int.floor_le_floor scaled)) (factor_pos c).le

theorem roundIn_le (whole : Whole c y) (le : x ≤ y) : roundIn c x ≤ y :=
  (roundIn_mono le).trans_eq whole.roundIn

theorem roundIn_nonneg (nonneg : 0 ≤ x) : 0 ≤ roundIn c x :=
  (whole_zero c).roundIn ▸ roundIn_mono nonneg

end

/-! What an item takes. -/

/-- A share is a whole amount, whatever it is taken from. -/
structure Share (share : Currency → ℚ → ℚ → ℚ) : Prop where
  whole : ∀ c b o, Whole c (share c b o)
  nonneg : ∀ c b o, 0 ≤ share c b o

/-- From whole amounts it never takes more than there is. -/
structure Fair (share : Currency → ℚ → ℚ → ℚ) : Prop extends Share share where
  le_budget : ∀ {c b o}, Whole c b → 0 ≤ b → share c b o ≤ b
  le_owed : ∀ {c b o}, Whole c o → 0 ≤ o → share c b o ≤ o

theorem tickedShare_eq (c : Currency) (b o : ℚ) :
    tickedShare c b o = 0 ∨ 0 < min b o ∧ tickedShare c b o = roundIn c (min b o) := by
  have pos := eps_pos c
  unfold tickedShare
  dsimp only
  split_ifs with inBudget offered offered
  · exact Or.inr ⟨pos.trans offered, rfl⟩
  · exact Or.inl rfl
  · exact absurd offered (not_lt.mpr pos.le)
  · exact Or.inl rfl

theorem restShare_eq {tolerance : Currency → ℚ} (pos : ∀ c, 0 < tolerance c) (c : Currency) (b o : ℚ) :
    restShare tolerance c b o = 0 ∨
      0 < restShare tolerance c b o ∧ restShare tolerance c b o = roundIn c (min b o) := by
  have pos := pos c
  unfold restShare
  dsimp only
  split_ifs with inBudget offered offered
  · exact Or.inr ⟨pos.trans offered, rfl⟩
  · exact Or.inl rfl
  · exact absurd offered (not_lt.mpr pos.le)
  · exact Or.inl rfl

theorem fair_of_rounded {share : Currency → ℚ → ℚ → ℚ}
    (rounded : ∀ c b o, share c b o = 0 ∨ 0 ≤ share c b o ∧ share c b o = roundIn c (min b o)) : Fair share where
  whole c b o := by
    rcases rounded c b o with none | ⟨-, same⟩
    · rw [none]
      exact whole_zero c
    · rw [same]
      exact roundIn_whole c _
  nonneg c b o := by
    rcases rounded c b o with none | ⟨nonneg, -⟩
    · exact none.ge
    · exact nonneg
  le_budget {c b o} whole nonneg := by
    rcases rounded c b o with none | ⟨-, same⟩
    · rwa [none]
    · rw [same]
      exact roundIn_le whole (min_le_left b o)
  le_owed {c b o} whole nonneg := by
    rcases rounded c b o with none | ⟨-, same⟩
    · rwa [none]
    · rw [same]
      exact roundIn_le whole (min_le_right b o)

theorem fair_tickedShare : Fair tickedShare := by
  apply fair_of_rounded
  intro c b o
  rcases tickedShare_eq c b o with none | ⟨pos, same⟩
  · exact Or.inl none
  · exact Or.inr ⟨same ▸ roundIn_nonneg pos.le, same⟩

theorem fair_restShare {tolerance : Currency → ℚ} (pos : ∀ c, 0 < tolerance c) : Fair (restShare tolerance) := by
  apply fair_of_rounded
  intro c b o
  rcases restShare_eq pos c b o with none | ⟨positive, same⟩
  · exact Or.inl none
  · exact Or.inr ⟨positive.le, same⟩

theorem positive_iff {a : Amounts} : positive a = true ↔ ∃ c, 0 < a.get c := by
  unfold positive
  rw [Bool.or_eq_true, decide_eq_true_iff, decide_eq_true_iff]
  constructor
  · intro either
    rcases either with usd | lbp
    · exact ⟨.usd, usd⟩
    · exact ⟨.lbp, lbp⟩
  · intro ⟨c, pos⟩
    cases c
    · exact Or.inl pos
    · exact Or.inr pos

/-! The takes of one item, and of one currency. -/

/-- How much an item is covered for. -/
def coveredFor (takes : List CoverageTake) (key : Key) (c : Currency) : ℚ :=
  (takes.map fun t => if t.toKey = key then t.amounts.get c else 0).sum

def totalCovered (takes : List CoverageTake) (c : Currency) : ℚ :=
  (takes.map fun t => t.amounts.get c).sum

/-- The takes name an item once, and are whole amounts. -/
structure WholeTakes (takes : List CoverageTake) : Prop where
  once : (takes.map (·.toKey)).Nodup
  whole : ∀ t ∈ takes, ∀ c, Whole c (t.amounts.get c)
  nonneg : ∀ t ∈ takes, ∀ c, 0 ≤ t.amounts.get c

theorem wholeTakes_nil : WholeTakes [] :=
  ⟨List.nodup_nil, fun _ member => absurd member List.not_mem_nil, fun _ member => absurd member List.not_mem_nil⟩

/-- A take goes at the end, or grows the take of its item. -/
theorem putTake_cases {takes : List CoverageTake} (kept : WholeTakes takes) (key : Key) {amounts : Amounts}
    (whole : ∀ c, Whole c (amounts.get c)) :
    (putTake takes key amounts = takes ++ [{ toKey := key, amounts := .of amounts.get }] ∧
        ∀ t ∈ takes, t.toKey ≠ key) ∨
      ∃ before t after, takes = before ++ t :: after ∧ t.toKey = key ∧
        putTake takes key amounts =
          before ++ { t with amounts := .of fun c => t.amounts.get c + amounts.get c } :: after := by
  unfold putTake
  split_ifs with known
  · right
    rw [List.any_eq_true] at known
    obtain ⟨t, member, same⟩ := known
    have same : t.toKey = key := of_decide_eq_true same
    obtain ⟨before, after, rfl⟩ := List.append_of_mem member
    have once := kept.once
    rw [List.map_append, List.map_cons, List.nodup_middle, List.nodup_cons, ← List.map_append, same] at once
    have others : ∀ t' ∈ before ++ after, t'.toKey ≠ key := by
      intro t' member' same'
      exact once.1 (List.mem_map.mpr ⟨t', member', same'⟩)
    have kept' : ∀ l : List CoverageTake, (∀ t' ∈ l, t' ∈ before ++ after) →
        (l.map fun t => if t.toKey = key then
          { t with amounts := .of fun c => roundIn c (t.amounts.get c + amounts.get c) } else t) = l := by
      intro l inside
      rw [List.map_congr_left, List.map_id]
      intro t' member'
      rw [if_neg (others t' (inside t' member'))]
      rfl
    refine ⟨before, t, after, rfl, same, ?_⟩
    rw [List.map_append, List.map_cons, if_pos same, kept' before fun _ => List.mem_append_left _,
      kept' after fun _ => List.mem_append_right _]
    congr 3
    congr 1
    funext c
    exact ((kept.whole t member c).add (whole c)).roundIn
  · left
    constructor
    · congr 3
      congr 1
      funext c
      rw [zero_add]
      exact (whole c).roundIn
    · intro t member same
      exact known (List.any_eq_true.mpr ⟨t, member, decide_eq_true same⟩)

section
variable {takes : List CoverageTake} (kept : WholeTakes takes) {key : Key} {amounts : Amounts}
  (whole : ∀ c, Whole c (amounts.get c))
include kept whole

theorem coveredFor_putTake (k : Key) (c : Currency) :
    coveredFor (putTake takes key amounts) k c = coveredFor takes k c + if k = key then amounts.get c else 0 := by
  unfold coveredFor
  rcases putTake_cases kept key whole with ⟨put, -⟩ | ⟨before, t, after, rfl, same, put⟩
  · rw [put, List.map_append, List.sum_append]
    simp [eq_comm]
  · rw [put]
    simp only [List.map_append, List.sum_append, List.map_cons, List.sum_cons, same, Amounts.get_of, eq_comm (a := k)]
    split_ifs
    · ring
    · ring

theorem totalCovered_putTake (c : Currency) :
    totalCovered (putTake takes key amounts) c = totalCovered takes c + amounts.get c := by
  unfold totalCovered
  rcases putTake_cases kept key whole with ⟨put, -⟩ | ⟨before, t, after, rfl, same, put⟩
  · rw [put, List.map_append, List.sum_append]
    simp
  · rw [put]
    simp only [List.map_append, List.sum_append, List.map_cons, List.sum_cons, Amounts.get_of]
    ring

theorem wholeTakes_putTake (nonneg : ∀ c, 0 ≤ amounts.get c) : WholeTakes (putTake takes key amounts) := by
  rcases putTake_cases kept key whole with ⟨put, fresh⟩ | ⟨before, t, after, rfl, same, put⟩
  · rw [put]
    refine ⟨?_, ?_, ?_⟩
    · rw [List.map_append]
      refine kept.once.append (List.nodup_singleton _) ?_
      intro k first second
      obtain ⟨t, member, rfl⟩ := List.mem_map.mp first
      exact fresh t member (List.mem_singleton.mp second)
    · intro t member c
      rcases List.mem_append.mp member with old | last
      · exact kept.whole t old c
      · rw [List.mem_singleton.mp last, Amounts.get_of]
        exact whole c
    · intro t member c
      rcases List.mem_append.mp member with old | last
      · exact kept.nonneg t old c
      · rw [List.mem_singleton.mp last, Amounts.get_of]
        exact nonneg c
  · have inside : t ∈ before ++ t :: after := List.mem_append_right _ List.mem_cons_self
    have others : ∀ {t'}, t' ∈ before ∨ t' ∈ after → t' ∈ before ++ t :: after := by
      intro t' member
      rcases member with first | second
      · exact List.mem_append_left _ first
      · exact List.mem_append_right _ (List.mem_cons_of_mem _ second)
    rw [put]
    refine ⟨?_, ?_, ?_⟩
    · have once := kept.once
      rw [List.map_append, List.map_cons] at once ⊢
      exact once
    · intro t' member c
      rw [List.mem_append, List.mem_cons] at member
      rcases member with old | rfl | old
      · exact kept.whole t' (others (Or.inl old)) c
      · rw [Amounts.get_of]
        exact (kept.whole t inside c).add (whole c)
      · exact kept.whole t' (others (Or.inr old)) c
    · intro t' member c
      rw [List.mem_append, List.mem_cons] at member
      rcases member with old | rfl | old
      · exact kept.nonneg t' (others (Or.inl old)) c
      · rw [Amounts.get_of]
        exact add_nonneg (kept.nonneg t inside c) (nonneg c)
      · exact kept.nonneg t' (others (Or.inr old)) c

end

/-! One item of a walk. -/

section
variable {share : Currency → ℚ → ℚ → ℚ} (isShare : Share share)

def shareOf (share : Currency → ℚ → ℚ → ℚ) (w : Walk) (key : Key) (c : Currency) : ℚ :=
  share c (w.budget.get c) ((w.left key).get c)

include isShare

/-- What one item takes is added to its take. -/
theorem cover_takes {w : Walk} (kept : WholeTakes w.takes) (key : Key) :
    WholeTakes (cover share w key).takes ∧
      ∀ k c, coveredFor (cover share w key).takes k c =
        coveredFor w.takes k c + if k = key then shareOf share w key c else 0 := by
  have whole : ∀ c, Whole c ((Amounts.of (shareOf share w key)).get c) := by
    intro c
    rw [Amounts.get_of]
    exact isShare.whole ..
  have nonneg : ∀ c, 0 ≤ (Amounts.of (shareOf share w key)).get c := by
    intro c
    rw [Amounts.get_of]
    exact isShare.nonneg ..
  by_cases some : positive (Amounts.of (shareOf share w key)) = true
  · have takes : (cover share w key).takes = putTake w.takes key (.of (shareOf share w key)) := by
      unfold cover
      dsimp only
      unfold shareOf at some ⊢
      rw [if_pos some]
      unfold addTake
      rw [some]
      rfl
    rw [takes]
    refine ⟨wholeTakes_putTake kept whole nonneg, ?_⟩
    intro k c
    rw [coveredFor_putTake kept whole, Amounts.get_of]
  · have same : cover share w key = w := by
      unfold cover
      dsimp only
      unfold shareOf at some
      rw [if_neg some]
    rw [same]
    refine ⟨kept, ?_⟩
    intro k c
    have none : shareOf share w key c = 0 := by
      apply le_antisymm _ (isShare.nonneg ..)
      rw [positive_iff, not_exists] at some
      have := some c
      rwa [Amounts.get_of, not_lt] at this
    rw [none, ite_self, add_zero]

end


/-! The books of a walk. -/

/-- Since `o`, what was taken from the items and from the budget is what the takes say. -/
structure Accounts (o w : Walk) : Prop where
  takes : WholeTakes w.takes
  leftWhole : ∀ k c, Whole c ((w.left k).get c)
  leftNonneg : ∀ k c, 0 ≤ (w.left k).get c
  budgetWhole : ∀ c, Whole c (w.budget.get c)
  budgetNonneg : ∀ c, 0 ≤ w.budget.get c
  item : ∀ k c, coveredFor w.takes k c + (w.left k).get c = (o.left k).get c
  total : ∀ c, totalCovered w.takes c + w.budget.get c = o.budget.get c

theorem cover_cases (share : Currency → ℚ → ℚ → ℚ) (w : Walk) (key : Key) :
    cover share w key = w ∨
      cover share w key =
        { w with
          takes := putTake w.takes key (.of (shareOf share w key))
          left := Function.update w.left key (.of fun c => max 0 ((w.left key).get c - shareOf share w key c))
          budget := .of fun c => w.budget.get c - shareOf share w key c } := by
  unfold cover
  dsimp only
  split_ifs with some
  · right
    unfold addTake
    rw [some]
    simp only [Bool.not_true, Bool.false_eq_true, if_false, Amounts.get_of]
    rfl
  · exact Or.inl rfl

theorem Accounts.cover {o w : Walk} (accounts : Accounts o w) {share : Currency → ℚ → ℚ → ℚ} (fair : Fair share)
    (key : Key) : Accounts o (cover share w key) := by
  have whole : ∀ c, Whole c (shareOf share w key c) := fun c => fair.whole ..
  have leBudget : ∀ c, shareOf share w key c ≤ w.budget.get c :=
    fun c => fair.le_budget (accounts.budgetWhole c) (accounts.budgetNonneg c)
  have leLeft : ∀ c, shareOf share w key c ≤ (w.left key).get c :=
    fun c => fair.le_owed (accounts.leftWhole key c) (accounts.leftNonneg key c)
  have whole' : ∀ c, Whole c ((Amounts.of (shareOf share w key)).get c) := by
    intro c
    rw [Amounts.get_of]
    exact whole c
  rcases cover_cases share w key with same | same
  · rw [same]
    exact accounts
  · rw [same]
    refine ⟨?_, ?_, ?_, ?_, ?_, ?_, ?_⟩
    · apply wholeTakes_putTake accounts.takes whole'
      intro c
      rw [Amounts.get_of]
      exact fair.nonneg ..
    · intro k c
      dsimp only
      by_cases here : k = key
      · rw [here, Function.update_self, Amounts.get_of]
        exact ((accounts.leftWhole key c).sub (whole c)).max_zero
      · rw [Function.update_of_ne here]
        exact accounts.leftWhole k c
    · intro k c
      dsimp only
      by_cases here : k = key
      · rw [here, Function.update_self, Amounts.get_of]
        exact le_max_left _ _
      · rw [Function.update_of_ne here]
        exact accounts.leftNonneg k c
    · intro c
      rw [Amounts.get_of]
      exact (accounts.budgetWhole c).sub (whole c)
    · intro c
      rw [Amounts.get_of]
      exact sub_nonneg.mpr (leBudget c)
    · intro k c
      have before := accounts.item k c
      dsimp only
      rw [coveredFor_putTake accounts.takes whole', Amounts.get_of]
      by_cases here : k = key
      · subst here
        rw [if_pos rfl, Function.update_self, Amounts.get_of, max_eq_right (sub_nonneg.mpr (leLeft c))]
        linarith
      · rw [if_neg here, Function.update_of_ne here, add_zero, before]
    · intro c
      have before := accounts.total c
      dsimp only
      rw [totalCovered_putTake accounts.takes whole', Amounts.get_of, Amounts.get_of]
      linarith

theorem Accounts.coverTicked {o w : Walk} (accounts : Accounts o w) (it : AllocationItem) :
    Accounts o (coverTicked w it) := by
  unfold DebtRepayment.coverTicked
  dsimp only
  split_ifs
  · obtain ⟨takes, leftWhole, leftNonneg, budgetWhole, budgetNonneg, item, total⟩ :=
      accounts.cover fair_tickedShare it.toKey
    exact ⟨takes, leftWhole, leftNonneg, budgetWhole, budgetNonneg, item, total⟩
  · exact accounts

theorem Accounts.ticked {o w : Walk} (accounts : Accounts o w) (items : List AllocationItem) :
    Accounts o (items.foldl DebtRepayment.coverTicked w) := by
  induction items generalizing w with
  | nil => exact accounts
  | cons it rest ih => exact ih (accounts.coverTicked it)

theorem Accounts.coverSales {o w : Walk} (accounts : Accounts o w) (items : List AllocationItem) :
    Accounts o (coverSales w items) := by
  induction items generalizing w with
  | nil => exact accounts
  | cons it rest ih =>
    unfold DebtRepayment.coverSales
    split_ifs
    · exact accounts
    · exact ih (accounts.cover (fair_restShare epsSale_pos) it.toKey)

theorem Accounts.coverOthers {o w : Walk} (accounts : Accounts o w) (items : List AllocationItem) :
    Accounts o (coverOthers w items) := by
  unfold DebtRepayment.coverOthers
  induction items generalizing w with
  | nil => exact accounts
  | cons it rest ih => exact ih (accounts.cover (fair_restShare eps_pos) it.toKey)

/-! The whole amounts of an input. -/

/-- USD amounts are whole cents, LBP amounts whole lira. -/
structure WholeInput (input : AllocateRepaymentInput) : Prop where
  owed : ∀ it ∈ input.items, ∀ c, Whole c (it.owed.get c)
  caps : ∀ it ∈ input.items, ∀ cap ∈ it.routingCap, ∀ c, Whole c (cap.get c)
  reduction : ∀ c, Whole c (input.reduction.get c)
  applied : ∀ c, Whole c (input.applied.get c)
  cash : ∀ c, Whole c (input.cash.get c)

instance (c : Currency) (x : ℚ) : Decidable (Whole c x) :=
  decidable_of_iff (roundIn c x = x) ⟨fun same => same ▸ roundIn_whole c x, Whole.roundIn⟩

instance decidableForallCurrency (p : Currency → Prop) [∀ c, Decidable (p c)] : Decidable (∀ c, p c) :=
  decidable_of_iff (p .usd ∧ p .lbp)
    ⟨fun both c => by cases c; exacts [both.1, both.2], fun all => ⟨all .usd, all .lbp⟩⟩

instance (input : AllocateRepaymentInput) : Decidable (WholeInput input) :=
  decidable_of_iff
    ((∀ it ∈ input.items, ∀ c, Whole c (it.owed.get c)) ∧
      (∀ it ∈ input.items, ∀ cap ∈ it.routingCap, ∀ c, Whole c (cap.get c)) ∧
      (∀ c, Whole c (input.reduction.get c)) ∧ (∀ c, Whole c (input.applied.get c)) ∧
      ∀ c, Whole c (input.cash.get c))
    ⟨fun ⟨owed, caps, reduction, applied, cash⟩ => ⟨owed, caps, reduction, applied, cash⟩,
      fun whole => ⟨whole.owed, whole.caps, whole.reduction, whole.applied, whole.cash⟩⟩

def DistinctItems (input : AllocateRepaymentInput) : Prop :=
  (input.items.map (·.toKey)).Nodup

instance (input : AllocateRepaymentInput) : Decidable (DistinctItems input) :=
  inferInstanceAs (Decidable (List.Nodup _))

section
variable {input : AllocateRepaymentInput}

/-- What is open on a key is what some item has open, or nothing. -/
theorem opening_left (key : Key) :
    (opening input).left key = .zero ∨
      ∃ it ∈ input.items, (opening input).left key = .of fun c => max 0 (it.owed.get c) := by
  unfold opening
  dsimp only
  induction input.items using List.reverseRecOn with
  | nil => exact Or.inl rfl
  | append_singleton rest last ih =>
    rw [List.foldl_append, List.foldl_cons, List.foldl_nil]
    by_cases here : key = last.toKey
    · rw [here, Function.update_self]
      exact Or.inr ⟨last, List.mem_append_right _ List.mem_cons_self, rfl⟩
    · rw [Function.update_of_ne here]
      rcases ih with none | ⟨it, member, same⟩
      · exact Or.inl none
      · exact Or.inr ⟨it, List.mem_append_left _ member, same⟩

theorem opening_left_of_mem (distinct : DistinctItems input) {it : AllocationItem} (member : it ∈ input.items) :
    (opening input).left it.toKey = .of fun c => max 0 (it.owed.get c) := by
  unfold DistinctItems at distinct
  unfold opening
  dsimp only
  generalize input.items = items at distinct member
  induction items using List.reverseRecOn with
  | nil => exact absurd member List.not_mem_nil
  | append_singleton rest last ih =>
    rw [List.map_append, List.nodup_append] at distinct
    rw [List.foldl_append, List.foldl_cons, List.foldl_nil]
    rcases List.mem_append.mp member with before | here
    · have differs : it.toKey ≠ last.toKey :=
        distinct.2.2 _ (List.mem_map.mpr ⟨it, before, rfl⟩) _ List.mem_cons_self
      rw [Function.update_of_ne differs]
      exact ih distinct.1 before
    · rw [List.mem_singleton.mp here, Function.update_self]

theorem opening_accounts (whole : WholeInput input) : Accounts (opening input) (opening input) where
  takes := wholeTakes_nil
  leftWhole k c := by
    rcases opening_left k with none | ⟨it, member, same⟩
    · rw [none, Amounts.get_zero]
      exact whole_zero c
    · rw [same, Amounts.get_of]
      exact (whole.owed it member c).max_zero
  leftNonneg k c := by
    rcases opening_left k with none | ⟨it, member, same⟩
    · rw [none, Amounts.get_zero]
    · rw [same, Amounts.get_of]
      exact le_max_left _ _
  budgetWhole c := by
    unfold opening
    rw [Amounts.get_of]
    exact (whole.reduction c).max_zero
  budgetNonneg c := by
    unfold opening
    rw [Amounts.get_of]
    exact le_max_left _ _
  item k c := zero_add _
  total c := zero_add _

theorem tickedCovered_accounts (whole : WholeInput input) : Accounts (opening input) (tickedCovered input) :=
  (opening_accounts whole).ticked _

theorem covered_accounts (whole : WholeInput input) : Accounts (opening input) (covered input) :=
  ((tickedCovered_accounts whole).coverSales _).coverOthers _

theorem coveredFor_le (whole : WholeInput input) (distinct : DistinctItems input) {it : AllocationItem}
    (member : it ∈ input.items) (c : Currency) :
    coveredFor (covered input).takes it.toKey c ≤ max 0 (it.owed.get c) := by
  have accounts := covered_accounts whole
  have books := accounts.item it.toKey c
  rw [opening_left_of_mem distinct member, Amounts.get_of] at books
  have := accounts.leftNonneg it.toKey c
  linarith

theorem totalCovered_le (whole : WholeInput input) (c : Currency) :
    totalCovered (covered input).takes c ≤ max 0 (input.reduction.get c) := by
  have accounts := covered_accounts whole
  have books := accounts.total c
  have opens : (opening input).budget.get c = max 0 (input.reduction.get c) := Amounts.get_of _ c
  have := accounts.budgetNonneg c
  linarith

end

end Liratek.Money.DebtRepayment
