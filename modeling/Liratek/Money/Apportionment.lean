import Liratek.Money.LargestRemainder

/-! What the proportional allocator gives to each row: its exact share rounded down or up, nothing without a weight, and never
less than a row of a smaller weight. -/

namespace Liratek.Money.LargestRemainder

section
variable {raw : List ℚ} {total : ℤ}

theorem mem_byRemainder_of_get {i : Nat} {v : ℚ} (here : raw[i]? = some v) : (i, Int.fract v) ∈ byRemainder raw :=
  (List.mem_insertionSort _).mpr (List.mem_map.mpr ⟨(v, i), List.mem_zipIdx_iff_getElem?.mpr here, rfl⟩)

/-- Of two places the one with the larger fraction gets a unit first. -/
theorem bumped_of_fract_lt {i j : Nat} {v w : ℚ} (hereI : raw[i]? = some v) (hereJ : raw[j]? = some w)
    (less : Int.fract w < Int.fract v) (member : j ∈ bumped raw total) : i ∈ bumped raw total := by
  obtain ⟨e, taken, rfl⟩ := List.mem_map.mp member
  obtain ⟨w', there, isFract⟩ := mem_byRemainder (List.mem_of_mem_take taken)
  obtain rfl : w' = w := Option.some.inj (there.symm.trans hereJ)
  have place := mem_byRemainder_of_get hereI
  have falling := byRemainder_descending raw
  rw [← List.take_append_drop (total - (raw.map fun v => ⌊v⌋).sum).toNat (byRemainder raw)] at place falling
  rcases List.mem_append.mp place with first | later
  · exact List.mem_map_of_mem first
  · have order := (List.pairwise_append.mp falling).2.2 e taken _ later
    rw [isFract] at order
    exact absurd order (not_le.mpr less)

/-- What the share of a place is. -/
theorem shareUnits_get {i : Nat} {v : ℚ} (here : raw[i]? = some v) :
    (shareUnits raw total)[i]? = some (if (bumped raw total).contains i then ⌊v⌋ + 1 else ⌊v⌋) := by
  have floored : (raw.map fun v => ⌊v⌋)[i]? = some ⌊v⌋ := by rw [List.getElem?_map, here, Option.map_some]
  change ((raw.map fun v => ⌊v⌋).zipIdx.map fun v => if (bumped raw total).contains v.2 then v.1 + 1 else v.1)[i]? = _
  rw [List.getElem?_map, List.getElem?_zipIdx, floored, Option.map_some, Option.map_some, zero_add]

theorem shareUnits_mono (whole : raw.sum = total) {i j : Nat} {v w : ℚ} (hereI : raw[i]? = some v) (hereJ : raw[j]? = some w)
    (less : w < v) {si sj : ℤ} (shareI : (shareUnits raw total)[i]? = some si) (shareJ : (shareUnits raw total)[j]? = some sj) :
    sj ≤ si := by
  rcases (Int.floor_le_floor less.le).lt_or_eq with apart | same
  · -- a whole unit apart already when rounded down
    obtain ⟨s, isI, low, -⟩ := shareUnits_near whole hereI
    obtain rfl := Option.some.inj (isI.symm.trans shareI)
    obtain ⟨t, isJ, -, high⟩ := shareUnits_near whole hereJ
    obtain rfl := Option.some.inj (isJ.symm.trans shareJ)
    have up := Int.ceil_le_floor_add_one w
    omega
  · have fraction : Int.fract w < Int.fract v := by
      rw [Int.fract, Int.fract, same]
      linarith
    obtain rfl := Option.some.inj ((shareUnits_get hereI).symm.trans shareI)
    obtain rfl := Option.some.inj ((shareUnits_get hereJ).symm.trans shareJ)
    rw [same]
    split_ifs with bumpJ bumpI
    · exact le_rfl
    · exact absurd (List.contains_iff_mem.mpr (bumped_of_fract_lt hereI hereJ fraction (List.contains_iff_mem.mp bumpJ))) bumpI
    · exact (lt_add_one _).le
    · exact le_rfl

end

section
variable {ι : Type*} {rows : List (WeightedAllocationRow ι)} {total unit : ℚ}

/-- A row's part of the units by its weight, or an equal part where no row has a weight. -/
def quota (rows : List (WeightedAllocationRow ι)) (totalUnits : ℤ) (w : ℚ) : ℚ :=
  if 0 < (clampedWeights rows).sum then w / (clampedWeights rows).sum * totalUnits else totalUnits / rows.length

/-- One share in units for each row. -/
structure Apportions (rows : List (WeightedAllocationRow ι)) (totalUnits : ℤ) (shares : List ℤ) : Prop where
  length : shares.length = rows.length
  sum : shares.sum = totalUnits
  near : ∀ (i : Nat) (w : ℚ) (s : ℤ), (clampedWeights rows)[i]? = some w → shares[i]? = some s →
    s = ⌊quota rows totalUnits w⌋ ∨ s = ⌈quota rows totalUnits w⌉
  weightless : ∀ (i : Nat) (s : ℤ), (∃ w ∈ clampedWeights rows, 0 < w) → (clampedWeights rows)[i]? = some 0 →
    shares[i]? = some s → s = 0
  larger : ∀ (i j : Nat) (w v : ℚ) (s t : ℤ), (clampedWeights rows)[i]? = some w → (clampedWeights rows)[j]? = some v → v < w →
    shares[i]? = some s → shares[j]? = some t → t ≤ s

theorem weightSum_pos {w : ℚ} (member : w ∈ clampedWeights rows) (positive : 0 < w) : 0 < (clampedWeights rows).sum :=
  positive.trans_le (List.single_le_sum (clampedWeights_nonneg rows) w member)

theorem rawShare_of_weight (weight : 0 < (clampedWeights rows).sum) (totalUnits : ℤ) {i : Nat} {w : ℚ}
    (here : (clampedWeights rows)[i]? = some w) :
    (rawShareUnits rows totalUnits)[i]? = some (w / (clampedWeights rows).sum * totalUnits) := by
  rw [(effective_of_weight weight).raw, List.getElem?_map, here, Option.map_some]

theorem rawShare_quota (totalUnits : ℤ) {i : Nat} {w : ℚ} (here : (clampedWeights rows)[i]? = some w) :
    (rawShareUnits rows totalUnits)[i]? = some (quota rows totalUnits w) := by
  unfold quota
  split_ifs with weight
  · exact rawShare_of_weight weight totalUnits here
  · rw [clampedWeights, List.getElem?_map] at here
    obtain ⟨row, isRow, -⟩ := Option.map_eq_some_iff.mp here
    have sum : (rows.map fun _ => (1 : ℚ)).sum = rows.length := by simp
    rw [(effective_of_none (List.ne_nil_of_mem (List.mem_of_getElem? isRow)) weight).raw, sum, List.getElem?_map,
      List.getElem?_map, isRow, Option.map_some, Option.map_some, one_div_mul_eq_div]

theorem shareUnits_apportions (some' : rows ≠ []) {totalUnits : ℤ} (positive : 0 < totalUnits) :
    Apportions rows totalUnits (shareUnits (rawShareUnits rows totalUnits) totalUnits) := by
  obtain ⟨weights, effective⟩ := exists_effective some'
  refine ⟨length_shares some', sum_shares some', fun i w s here share => ?_, fun i s ⟨w, member, weighs⟩ here share => ?_,
    fun i j w v s t hereI hereJ less shareI shareJ => ?_⟩
  · obtain ⟨s', isShare, low, high⟩ := shareUnits_near effective.sum (rawShare_quota totalUnits here)
    obtain rfl := Option.some.inj (isShare.symm.trans share)
    have up := Int.ceil_le_floor_add_one (quota rows totalUnits w)
    omega
  · have raw := rawShare_of_weight (weightSum_pos member weighs) totalUnits here
    rw [zero_div, zero_mul] at raw
    obtain ⟨s', isShare, low, high⟩ := shareUnits_near effective.sum raw
    obtain rfl := Option.some.inj (isShare.symm.trans share)
    rw [Int.floor_zero] at low
    rw [Int.ceil_zero] at high
    exact le_antisymm high low
  · have weighs : 0 < w := (clampedWeights_nonneg rows v (List.mem_of_getElem? hereJ)).trans_lt less
    have weight := weightSum_pos (List.mem_of_getElem? hereI) weighs
    refine shareUnits_mono effective.sum (rawShare_of_weight weight _ hereI) (rawShare_of_weight weight _ hereJ) ?_ shareI shareJ
    exact mul_lt_mul_of_pos_right (div_lt_div_of_pos_right less weight) (Int.cast_pos.mpr positive)

/-- With no unit to give every row gets none. -/
theorem none_apportions (rows : List (WeightedAllocationRow ι)) : Apportions rows 0 (rows.map fun _ => 0) := by
  have zero {i : Nat} {s : ℤ} (share : (rows.map fun _ => (0 : ℤ))[i]? = some s) : s = 0 := by
    obtain ⟨_, -, rfl⟩ := List.mem_map.mp (List.mem_of_getElem? share)
    rfl
  refine ⟨List.length_map _, List.sum_map_zero, fun i w s here share => ?_, fun _ _ _ _ share => zero share,
    fun i j w v s t _ _ _ shareI shareJ => (zero shareJ).trans_le (zero shareI).ge⟩
  have none : quota rows 0 w = 0 := by
    unfold quota
    split_ifs
    · rw [Int.cast_zero, mul_zero]
    · rw [Int.cast_zero, zero_div]
  rw [zero share, none, Int.floor_zero]
  exact .inl rfl

theorem mathRound_of_lt_half {x : ℚ} (nonneg : 0 ≤ x) (less : x < 1 / 2) : mathRound x = 0 := by
  rw [mathRound, Int.floor_eq_zero_iff]
  exact ⟨by linarith, by linarith⟩

/-- The sign of the total. -/
def totalSign (total : ℚ) : ℚ :=
  if total < 0 then -1 else 1

/-- The shares of the rows in order, in units: the total rounded to a unit, apportioned by the weights. -/
theorem allocateProportional_apportions (some' : rows ≠ []) (total : ℚ) (positive : 0 < unit) :
    ∃ shares, Apportions rows (mathRound (|total| / unit)) shares ∧
      (allocateProportional rows total unit).map (·.id) = rows.map (·.id) ∧
      (allocateProportional rows total unit).map (·.amount) = shares.map (fun s : ℤ => totalSign total * s * unit) ∧
      ((allocateProportional rows total unit).map (·.amount)).sum = totalSign total * mathRound (|total| / unit) * unit := by
  have nothing (units : mathRound (|total| / unit) = 0)
      (none : allocateProportional rows total unit = rows.map fun r => { id := r.id, amount := 0 }) :
      ∃ shares, Apportions rows (mathRound (|total| / unit)) shares ∧
        (allocateProportional rows total unit).map (·.id) = rows.map (·.id) ∧
        (allocateProportional rows total unit).map (·.amount) = shares.map fun s : ℤ => totalSign total * s * unit := by
    rw [units, none, List.map_map, List.map_map]
    refine ⟨_, none_apportions rows, rfl, ?_⟩
    rw [List.map_map]
    exact List.map_congr_left fun r _ => by simp
  have shared : ∃ shares, Apportions rows (mathRound (|total| / unit)) shares ∧
      (allocateProportional rows total unit).map (·.id) = rows.map (·.id) ∧
      (allocateProportional rows total unit).map (·.amount) = shares.map fun s : ℤ => totalSign total * s * unit := by
    have nonneg : 0 ≤ |total| / unit := div_nonneg (abs_nonneg total) positive.le
    by_cases small : |total| < unit / 2
    · refine nothing (mathRound_of_lt_half nonneg ?_) (if_pos small)
      rw [div_lt_iff₀ positive]
      linarith
    · by_cases zero : mathRound (|total| / unit) = 0
      · refine nothing zero ?_
        rw [allocateProportional, if_neg small]
        exact if_pos zero
      · have units : 0 < mathRound (|total| / unit) :=
          lt_of_le_of_ne (Int.floor_nonneg.mpr (by linarith)) (Ne.symm zero)
        have length : (shareUnits (rawShareUnits rows (mathRound (|total| / unit))) (mathRound (|total| / unit))).length =
            rows.length := length_shares some'
        have allocated : allocateProportional rows total unit =
            (rows.zip (shareUnits (rawShareUnits rows (mathRound (|total| / unit))) (mathRound (|total| / unit)))).map
              fun r => { id := r.1.id, amount := totalSign total * r.2 * unit } := by
          rw [allocateProportional, if_neg small]
          exact if_neg zero
        have first := congrArg (List.map fun r => r.id) (List.map_fst_zip length.ge)
        have second := congrArg (List.map fun s : ℤ => totalSign total * s * unit) (List.map_snd_zip length.le)
        rw [List.map_map] at first second
        refine ⟨_, shareUnits_apportions some' units, ?_, ?_⟩
        · rw [allocated, List.map_map]
          exact first
        · rw [allocated, List.map_map]
          exact second
  obtain ⟨shares, apportions, ids, amounts⟩ := shared
  refine ⟨shares, apportions, ids, amounts, ?_⟩
  rw [amounts, List.sum_map_mul_right, List.sum_map_mul_left, ← apportions.sum]
  exact congrArg (totalSign total * · * unit) (map_list_sum (Int.castRingHom ℚ) shares).symm

/-- -$100 to weights of one, none and two. -/
def threeRows : List (WeightedAllocationRow Nat) :=
  [{ id := 1, weight := some 1 }, { id := 2, weight := none }, { id := 3, weight := some 2 }]

theorem allocateProportional_threeRows :
    ∃ shares, Apportions threeRows (mathRound (|-100| / (1 / 100))) shares ∧
      (allocateProportional threeRows (-100) (1 / 100)).map (·.id) = threeRows.map (·.id) ∧
      (allocateProportional threeRows (-100) (1 / 100)).map (·.amount) =
        shares.map (fun s : ℤ => totalSign (-100) * s * (1 / 100)) ∧
      ((allocateProportional threeRows (-100) (1 / 100)).map (·.amount)).sum =
        totalSign (-100) * mathRound (|-100| / (1 / 100)) * (1 / 100) :=
  allocateProportional_apportions (List.cons_ne_nil _ _) (-100) (by norm_num)

end

end Liratek.Money.LargestRemainder
