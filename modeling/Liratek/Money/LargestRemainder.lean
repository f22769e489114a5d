import Liratek.Lib.Sorting
import Mathlib.Algebra.BigOperators.Group.List.Basic
import Mathlib.Algebra.BigOperators.Ring.List
import Mathlib.Algebra.Order.BigOperators.Group.List
import Mathlib.Algebra.Order.Round
import Mathlib.Data.List.Sort
import Mathlib.Data.Rat.Floor
import Mathlib.Tactic.Linarith

/-! The proportional allocator: shares rounded to whole units that sum to the total. -/

namespace Liratek.Money.LargestRemainder

/-- `Math.round`: to the nearest whole number, halves up. -/
def mathRound (x : ℚ) : ℤ :=
  ⌊x + 1 / 2⌋

structure WeightedAllocationRow (ι : Type*) where
  id : ι
  /-- `none`: missing -/
  weight : Option ℚ
  deriving DecidableEq, Repr

structure AllocationShare (ι : Type*) where
  id : ι
  amount : ℚ
  deriving DecidableEq, Repr

section
variable {ι : Type*}

def clampedWeights (rows : List (WeightedAllocationRow ι)) : List ℚ :=
  rows.map fun r => max 0 (r.weight.getD 0)

/-- The exact shares in units. Rows without any weight share equally. -/
def rawShareUnits (rows : List (WeightedAllocationRow ι)) (totalUnits : ℤ) : List ℚ :=
  let weightSum := (clampedWeights rows).sum
  let effectiveWeights := if 0 < weightSum then clampedWeights rows else rows.map fun _ => 1
  let effectiveSum := if 0 < weightSum then weightSum else rows.length
  effectiveWeights.map fun w => w / effectiveSum * totalUnits

/-- Largest fractional remainder first, then the original place. -/
def remainderFirst (a b : Nat × ℚ) : Bool :=
  b.2 < a.2 || (a.2 = b.2 && a.1 ≤ b.1)

def byRemainder (raw : List ℚ) : List (Nat × ℚ) :=
  (raw.zipIdx.map fun v => (v.2, Int.fract v.1)).insertionSort fun a b => remainderFirst a b = true

/-- Every share rounded down, and the units left over given to the first places of `byRemainder`. -/
def shareUnits (raw : List ℚ) (totalUnits : ℤ) : List ℤ :=
  let flooredUnits := raw.map fun v => ⌊v⌋
  let remainderUnits := totalUnits - flooredUnits.sum
  let bumped := ((byRemainder raw).take remainderUnits.toNat).map (·.1)
  flooredUnits.zipIdx.map fun v => if bumped.contains v.2 then v.1 + 1 else v.1

def allocateProportional (rows : List (WeightedAllocationRow ι)) (total unit : ℚ) : List (AllocationShare ι) :=
  let none := rows.map fun r => { id := r.id, amount := 0 }
  if |total| < unit / 2 then none
  else
    let sign : ℚ := if total < 0 then -1 else 1
    let totalUnits := mathRound (|total| / unit)
    if totalUnits = 0 then none
    else (rows.zip (shareUnits (rawShareUnits rows totalUnits) totalUnits)).map fun r =>
      { id := r.1.id, amount := sign * r.2 * unit }

end

/-! The units left over. -/

theorem byRemainder_descending (raw : List ℚ) : (byRemainder raw).Pairwise fun a b => b.2 ≤ a.2 :=
  (List.pairwise_insertionSort (fun a b : Nat × ℚ => Lib.Sorting.largestFirst a b = true) _).imp Lib.Sorting.largestFirst_le

theorem byRemainder_places (raw : List ℚ) : ((byRemainder raw).map (·.1)).Perm (List.range raw.length) := by
  refine ((List.perm_insertionSort _ _).map _).trans (List.Perm.of_eq ?_)
  rw [List.map_map, List.range_eq_range']
  exact List.zipIdx_map_snd 0 raw

theorem length_byRemainder (raw : List ℚ) : (byRemainder raw).length = raw.length := by
  have same := (byRemainder_places raw).length_eq
  rwa [List.length_map, List.length_range] at same

theorem mem_byRemainder {raw : List ℚ} {e : Nat × ℚ} (member : e ∈ byRemainder raw) :
    ∃ v, raw[e.1]? = some v ∧ e.2 = Int.fract v := by
  obtain ⟨⟨v, i⟩, inside, rfl⟩ := List.mem_map.mp ((List.mem_insertionSort _).mp member)
  exact ⟨v, List.mem_zipIdx_iff_getElem?.mp inside, rfl⟩

theorem sum_fract (raw : List ℚ) : (raw.map Int.fract).sum = raw.sum - ((raw.map fun v => ⌊v⌋).sum : ℤ) := by
  induction raw with
  | nil => simp
  | cons v rest ih =>
    simp only [List.map_cons, List.sum_cons, Int.cast_add, ih, Int.fract]
    ring

theorem sum_byRemainder (raw : List ℚ) : ((byRemainder raw).map (·.2)).sum = (raw.map Int.fract).sum := by
  unfold byRemainder
  rw [((List.perm_insertionSort _ _).map _).sum_eq, List.map_map]
  congr 1
  exact (List.map_map (f := Prod.fst) (g := Int.fract) (l := raw.zipIdx)).symm.trans
    (congrArg (List.map Int.fract) (List.zipIdx_map_fst 0 raw))

/-- Adding a unit at each of some distinct places. -/
theorem sum_bump {places : List Nat} (distinct : places.Nodup) {units : List ℤ}
    (inside : ∀ i ∈ places, i < units.length) :
    (units.zipIdx.map fun v => if places.contains v.2 then v.1 + 1 else v.1).sum = units.sum + places.length := by
  have each : (fun v : ℤ × Nat => if places.contains v.2 then v.1 + 1 else v.1) =
      fun v => v.1 + if places.contains v.2 then 1 else 0 := by
    funext v
    split_ifs <;> simp
  have here : units.zipIdx.map (fun v => if places.contains v.2 then (1 : ℤ) else 0) =
      (List.range units.length).map fun i => if places.contains i then 1 else 0 := by
    rw [List.range_eq_range', ← List.zipIdx_map_snd 0 units, List.map_map]
    rfl
  have same : ((List.range units.length).filter places.contains).Perm places := by
    rw [List.perm_ext_iff_of_nodup (List.nodup_range.filter _) distinct]
    intro i
    rw [List.mem_filter, List.mem_range, List.contains_iff_mem]
    exact ⟨And.right, fun member => ⟨inside i member, member⟩⟩
  have count : ((List.range units.length).map fun i => if places.contains i then (1 : ℤ) else 0).sum = places.length := by
    rw [← same.length_eq]
    generalize List.range units.length = all
    induction all with
    | nil => rfl
    | cons i rest ih =>
      rw [List.map_cons, List.sum_cons, ih, List.filter_cons]
      split_ifs
      · rw [List.length_cons, Nat.cast_succ, add_comm]
      · rw [zero_add]
  rw [each, List.sum_map_add, List.zipIdx_map_fst, here, count]

section
variable {raw : List ℚ} {total : ℤ}

theorem leftover (whole : raw.sum = total) : (raw.map Int.fract).sum = ((total - (raw.map fun v => ⌊v⌋).sum : ℤ) : ℚ) := by
  rw [sum_fract, whole, Int.cast_sub]

theorem leftover_nonneg (whole : raw.sum = total) : 0 ≤ total - (raw.map fun v => ⌊v⌋).sum := by
  have nonneg : 0 ≤ (raw.map Int.fract).sum := by
    apply List.sum_nonneg
    intro f member
    obtain ⟨v, -, rfl⟩ := List.mem_map.mp member
    exact Int.fract_nonneg v
  rw [leftover whole] at nonneg
  exact_mod_cast nonneg

/-- Fewer units are left over than there are shares. -/
theorem leftover_le (whole : raw.sum = total) : total - (raw.map fun v => ⌊v⌋).sum ≤ raw.length := by
  have bound : (raw.map Int.fract).sum ≤ raw.length := by
    clear whole
    induction raw with
    | nil => simp
    | cons v rest ih =>
      rw [List.map_cons, List.sum_cons, List.length_cons, Nat.cast_succ]
      linarith [(Int.fract_lt_one v).le]
  rw [leftover whole] at bound
  exact_mod_cast bound

/-- The places that get one of the units left over. -/
def bumped (raw : List ℚ) (totalUnits : ℤ) : List Nat :=
  ((byRemainder raw).take (totalUnits - (raw.map fun v => ⌊v⌋).sum).toNat).map (·.1)

theorem bumped_distinct (raw : List ℚ) (total : ℤ) : (bumped raw total).Nodup := by
  unfold bumped
  rw [List.map_take]
  exact ((byRemainder_places raw).nodup_iff.mpr List.nodup_range).sublist (List.take_sublist _ _)

theorem bumped_inside {i : Nat} (member : i ∈ bumped raw total) : i < raw.length := by
  unfold bumped at member
  rw [List.map_take] at member
  exact List.mem_range.mp ((byRemainder_places raw).subset (List.mem_of_mem_take member))

theorem length_bumped (whole : raw.sum = total) : ((bumped raw total).length : ℤ) = total - (raw.map fun v => ⌊v⌋).sum := by
  have nonneg := leftover_nonneg whole
  have bound := leftover_le whole
  unfold bumped
  rw [List.length_map, List.length_take, length_byRemainder]
  omega

theorem sum_shareUnits (whole : raw.sum = total) : (shareUnits raw total).sum = total := by
  have inside : ∀ i ∈ bumped raw total, i < (raw.map fun v => ⌊v⌋).length := fun i member => by
    rw [List.length_map]
    exact bumped_inside member
  refine (sum_bump (bumped_distinct raw total) inside).trans ?_
  rw [length_bumped whole]
  ring

/-- In a falling list of fractions that add up to `count`, the first `count` are positive. -/
theorem positive_of_take {fractions : List ℚ} (falling : fractions.Pairwise fun a b => b ≤ a)
    (bounds : ∀ f ∈ fractions, 0 ≤ f ∧ f < 1) {count : Nat} (enough : (count : ℚ) ≤ fractions.sum) :
    ∀ f ∈ fractions.take count, 0 < f := by
  intro f member
  by_contra notPositive
  obtain ⟨before, after, split⟩ := List.append_of_mem member
  have whole : fractions = before ++ f :: (after ++ fractions.drop count) := by
    calc fractions = fractions.take count ++ fractions.drop count := (List.take_append_drop _ _).symm
      _ = before ++ f :: (after ++ fractions.drop count) := by rw [split, List.append_assoc, List.cons_append]
  have short : before.length < count := by
    have length : (before ++ f :: after).length ≤ count := split ▸ List.length_take_le _ _
    rw [List.length_append, List.length_cons] at length
    omega
  -- nothing after a zero is positive, and what stands before it is worth less than its number
  have tail : (f :: (after ++ fractions.drop count)).sum ≤ 0 := by
    have each : ∀ g ∈ f :: (after ++ fractions.drop count), g ≤ 0 := by
      intro g inside
      rcases List.mem_cons.mp inside with rfl | later
      · exact not_lt.mp notPositive
      · rw [whole] at falling
        exact (List.rel_of_pairwise_cons (List.pairwise_append.mp falling).2.1 later).trans (not_lt.mp notPositive)
    simpa using List.sum_le_card_nsmul _ 0 each
  have head : before.sum ≤ before.length := by
    have each : ∀ g ∈ before, g ≤ 1 := fun g inside => (bounds g (whole ▸ List.mem_append_left _ inside)).2.le
    simpa using List.sum_le_card_nsmul before 1 each
  have total : (count : ℚ) ≤ before.length := by
    rw [whole, List.sum_append] at enough
    linarith
  have back : count ≤ before.length := by exact_mod_cast total
  omega

theorem bumped_fract (whole : raw.sum = total) {i : Nat} (member : i ∈ bumped raw total) {v : ℚ} (here : raw[i]? = some v) :
    0 < Int.fract v := by
  obtain ⟨e, inside, rfl⟩ := List.mem_map.mp member
  obtain ⟨v', here', fract⟩ := mem_byRemainder (List.mem_of_mem_take inside)
  obtain rfl : v' = v := Option.some.inj (here'.symm.trans here)
  have falling : ((byRemainder raw).map (·.2)).Pairwise fun a b => b ≤ a := List.pairwise_map.mpr (byRemainder_descending raw)
  have bounds : ∀ f ∈ (byRemainder raw).map (·.2), 0 ≤ f ∧ f < 1 := by
    intro f inside
    obtain ⟨e, member, rfl⟩ := List.mem_map.mp inside
    obtain ⟨w, -, isFract⟩ := mem_byRemainder member
    rw [isFract]
    exact ⟨Int.fract_nonneg w, Int.fract_lt_one w⟩
  have enough : (((total - (raw.map fun v => ⌊v⌋).sum).toNat : Nat) : ℚ) ≤ ((byRemainder raw).map (·.2)).sum := by
    rw [sum_byRemainder, leftover whole]
    exact_mod_cast (Int.toNat_of_nonneg (leftover_nonneg whole)).le
  rw [← fract]
  apply positive_of_take falling bounds enough
  rw [← List.map_take]
  exact List.mem_map_of_mem inside

/-- Every share is its exact share, rounded down or up. -/
theorem shareUnits_near (whole : raw.sum = total) {i : Nat} {v : ℚ} (here : raw[i]? = some v) :
    ∃ s, (shareUnits raw total)[i]? = some s ∧ ⌊v⌋ ≤ s ∧ s ≤ ⌈v⌉ := by
  have floored : (raw.map fun v => ⌊v⌋)[i]? = some ⌊v⌋ := by rw [List.getElem?_map, here, Option.map_some]
  refine ⟨if (bumped raw total).contains i then ⌊v⌋ + 1 else ⌊v⌋, ?_, ?_⟩
  · change ((raw.map fun v => ⌊v⌋).zipIdx.map fun v => if (bumped raw total).contains v.2 then v.1 + 1 else v.1)[i]? = _
    rw [List.getElem?_map, List.getElem?_zipIdx, floored, Option.map_some, Option.map_some, zero_add]
  · split_ifs with bump
    · have fraction := bumped_fract whole (List.contains_iff_mem.mp bump) here
      have up : ⌊v⌋ < ⌈v⌉ := by
        rw [Int.lt_ceil]
        linarith [Int.floor_add_fract v]
      omega
    · exact ⟨le_rfl, Int.floor_le_ceil v⟩

theorem length_shareUnits (raw : List ℚ) (total : ℤ) : (shareUnits raw total).length = raw.length := by
  unfold shareUnits
  rw [List.length_map, List.length_zipIdx, List.length_map]

end

/-! The shares of rows. -/

variable {ι : Type*} {rows : List (WeightedAllocationRow ι)} {total : ℤ}

/-- What the exact shares are taken by: the weights, or one each when there is no weight. -/
structure Effective (rows : List (WeightedAllocationRow ι)) (weights : List ℚ) : Prop where
  nonneg : ∀ w ∈ weights, 0 ≤ w
  positive : 0 < weights.sum
  length : weights.length = rows.length
  raw : ∀ total, rawShareUnits rows total = weights.map fun w => w / weights.sum * total

theorem clampedWeights_nonneg (rows : List (WeightedAllocationRow ι)) : ∀ w ∈ clampedWeights rows, 0 ≤ w := by
  intro w member
  obtain ⟨row, -, rfl⟩ := List.mem_map.mp member
  exact le_max_left _ _

theorem effective_of_weight (weight : 0 < (clampedWeights rows).sum) : Effective rows (clampedWeights rows) where
  nonneg := clampedWeights_nonneg rows
  positive := weight
  length := List.length_map _
  raw total := by
    unfold rawShareUnits
    dsimp only
    rw [if_pos weight, if_pos weight]

theorem effective_of_none (some' : rows ≠ []) (none : ¬0 < (clampedWeights rows).sum) :
    Effective rows (rows.map fun _ => 1) := by
  have sum : (rows.map fun _ => (1 : ℚ)).sum = rows.length := by simp
  have positive : (0 : ℚ) < rows.length := Nat.cast_pos.mpr (List.length_pos_iff.mpr some')
  refine ⟨?_, sum ▸ positive, List.length_map _, fun total => ?_⟩
  · intro w member
    obtain ⟨-, -, rfl⟩ := List.mem_map.mp member
    exact zero_le_one
  · unfold rawShareUnits
    dsimp only
    rw [if_neg none, if_neg none, sum]

theorem exists_effective (some' : rows ≠ []) : ∃ weights, Effective rows weights := by
  by_cases weight : 0 < (clampedWeights rows).sum
  · exact ⟨_, effective_of_weight weight⟩
  · exact ⟨_, effective_of_none some' weight⟩

theorem Effective.sum {weights : List ℚ} (effective : Effective rows weights) :
    (rawShareUnits rows total).sum = total := by
  rw [effective.raw, List.sum_map_mul_right]
  have divided : (weights.map fun w => w / weights.sum).sum = 1 := by
    simp only [div_eq_mul_inv, List.sum_map_mul_right, List.map_id']
    exact mul_inv_cancel₀ effective.positive.ne'
  rw [divided, one_mul]

theorem Effective.nonneg_raw {weights : List ℚ} (effective : Effective rows weights) (nonneg : 0 ≤ total) :
    ∀ v ∈ rawShareUnits rows total, 0 ≤ v := by
  rw [effective.raw]
  intro v member
  obtain ⟨w, inside, rfl⟩ := List.mem_map.mp member
  exact mul_nonneg (div_nonneg (effective.nonneg w inside) effective.positive.le) (Int.cast_nonneg nonneg)

theorem sum_shares (some' : rows ≠ []) : (shareUnits (rawShareUnits rows total) total).sum = total := by
  obtain ⟨weights, effective⟩ := exists_effective some'
  exact sum_shareUnits effective.sum

theorem length_shares (some' : rows ≠ []) : (shareUnits (rawShareUnits rows total) total).length = rows.length := by
  obtain ⟨weights, effective⟩ := exists_effective some'
  rw [length_shareUnits, effective.raw, List.length_map, effective.length]

theorem shares_nonneg (some' : rows ≠ []) (nonneg : 0 ≤ total) : ∀ s ∈ shareUnits (rawShareUnits rows total) total, 0 ≤ s := by
  obtain ⟨weights, effective⟩ := exists_effective some'
  intro s member
  obtain ⟨i, bound, rfl⟩ := List.getElem_of_mem member
  rw [length_shareUnits] at bound
  obtain ⟨s, here, low, -⟩ := shareUnits_near effective.sum (List.getElem?_eq_getElem bound)
  rw [List.getElem_of_getElem? here |>.2]
  exact (Int.floor_nonneg.mpr (effective.nonneg_raw nonneg _ (List.getElem_mem bound))).trans low

/-- A total up to the weights gives no row more than its own weight. -/
theorem share_le_weight (positive : 0 < total) (upTo : (total : ℚ) ≤ (clampedWeights rows).sum) {i : Nat} {w : ℤ}
    (here : (clampedWeights rows)[i]? = some (w : ℚ)) {s : ℤ}
    (share : (shareUnits (rawShareUnits rows total) total)[i]? = some s) : s ≤ w := by
  have weight : 0 < (clampedWeights rows).sum := (Int.cast_pos.mpr positive).trans_le upTo
  have effective := effective_of_weight weight
  have raw : (rawShareUnits rows total)[i]? = some (w / (clampedWeights rows).sum * total) := by
    rw [effective.raw, List.getElem?_map, here, Option.map_some]
  obtain ⟨s', share', -, high⟩ := shareUnits_near effective.sum raw
  obtain rfl : s' = s := Option.some.inj (share'.symm.trans share)
  refine high.trans (Int.ceil_le.mpr ?_)
  have own : (0 : ℚ) ≤ w := clampedWeights_nonneg rows _ (List.mem_of_getElem? here)
  calc (w : ℚ) / (clampedWeights rows).sum * total
      ≤ w / (clampedWeights rows).sum * (clampedWeights rows).sum := mul_le_mul_of_nonneg_left upTo (div_nonneg own weight.le)
    _ = w := div_mul_cancel₀ _ weight.ne'

theorem allocateProportional_units (positive : 0 < total) :
    allocateProportional rows total 1 =
      (rows.zip (shareUnits (rawShareUnits rows total) total)).map fun r => { id := r.1.id, amount := (r.2 : ℚ) } := by
  have some' : (0 : ℚ) < total := Int.cast_pos.mpr positive
  have one : (1 : ℚ) ≤ total := by exact_mod_cast positive
  have units : mathRound (|(total : ℚ)| / 1) = total := by
    rw [abs_of_pos some', div_one, mathRound, Int.floor_intCast_add]
    norm_num
  unfold allocateProportional
  rw [if_neg (by rw [abs_of_pos some']; linarith), units]
  dsimp only
  rw [if_neg positive.ne', if_neg (not_lt.mpr some'.le)]
  simp only [one_mul, mul_one]

theorem clampedWeights_whole {pool : List ι} {weight : ι → ℤ} (nonneg : ∀ j ∈ pool, 0 ≤ weight j) :
    clampedWeights (pool.map fun j => { id := j, weight := some (weight j : ℚ) }) = (pool.map weight).map fun w : ℤ => (w : ℚ) := by
  unfold clampedWeights
  rw [List.map_map, List.map_map]
  apply List.map_congr_left
  intro j inside
  exact max_eq_right (Int.cast_nonneg (nonneg j inside))

end Liratek.Money.LargestRemainder
