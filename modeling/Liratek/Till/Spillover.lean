import Liratek.Till.Allocate
import Mathlib.Tactic.FieldSimp

/-! The spillover conserves value and leaves no excess beside anything that remains. -/

namespace Liratek.Till.Spillover
open Allocate
open Lib (Entries)
open Lib.Entries

variable {κ : Type} [LinearOrder κ]

/-! Priced currencies. -/

section
variable {rates : RateTable κ} {side : RateSide} {unit : κ → ℚ}

def Priced (rates : RateTable κ) (side : RateSide) (unit : κ → ℚ) (c : κ) : Prop :=
  unitsPerBase c rates side = .ok (unit c)

theorem Priced.pos {c : κ} (priced : Priced rates side unit c) : 0 < unit c := by
  unfold Priced unitsPerBase at priced
  split at priced
  · rw [← Except.ok.inj priced]
    exact one_pos
  · split at priced
    · cases priced
    · split at priced
      · cases priced
      · rw [← Except.ok.inj priced]
        exact not_le.mp ‹_›

theorem Priced.base (priced : Priced rates side unit rates.base) : unit rates.base = 1 := by
  unfold Priced unitsPerBase at priced
  rw [if_pos rfl] at priced
  exact (Except.ok.inj priced).symm

theorem crossRate_priced {a b : κ} (differ : a ≠ b) (pricedA : Priced rates side unit a) (pricedB : Priced rates side unit b) :
    crossRate a b rates side = .ok (unit b / unit a) := by
  rw [crossRate, if_neg differ, pricedA, pricedB]
  rfl

theorem unitsPerBase_base : unitsPerBase rates.base rates side = .ok 1 :=
  if_pos rfl

theorem baseValue_priced {e : κ × ℚ} (priced : Priced rates side unit e.1) :
    baseValue rates side e = .ok (e.1, e.2 / unit e.1) := by
  unfold baseValue convert
  by_cases isBase : e.1 = rates.base
  · rw [if_pos isBase, isBase, (isBase ▸ priced : Priced rates side unit rates.base).base, div_one]
    rfl
  · rw [if_neg isBase, crossRate, if_neg isBase, unitsPerBase_base, priced]
    change Except.ok (e.1, e.2 * (1 / unit e.1)) = _
    rw [mul_one_div]

/-! The order of the sources and the targets. -/

def ordered (unit : κ → ℚ) (m : Entries κ ℚ) : List κ :=
  ((m.list.map fun e => (e.1, e.2 / unit e.1)).insertionSort fun a b => Lib.Sorting.largestFirst a b = true).map (·.1)

theorem byBaseValueDesc_priced {m : Entries κ ℚ} (priced : ∀ k ∈ m.keys, Priced rates side unit k) :
    byBaseValueDesc rates side m = .ok (ordered unit m) := by
  have based : Lib.Calls.gather (baseValue rates side) m.list = .ok (m.list.map fun e => (e.1, e.2 / unit e.1)) :=
    Lib.Calls.gather_ok fun e member => baseValue_priced (priced e.1 (List.mem_map_of_mem member))
  rw [byBaseValueDesc, based]
  rfl

theorem ordered_perm (unit : κ → ℚ) (m : Entries κ ℚ) : (ordered unit m).Perm m.keys := by
  refine ((List.perm_insertionSort _ _).map _).trans (List.Perm.of_eq ?_)
  rw [List.map_map]
  rfl

/-- Maps that differ in order only are worked through in one order. -/
theorem ordered_same {m m' : Entries κ ℚ} (same : ∀ k, m.get k = m'.get k) : ordered unit m = ordered unit m' := by
  have perm := ((perm_of_get same).map fun e => (e.1, e.2 / unit e.1))
  have sorted := (List.perm_insertionSort (fun a b : κ × ℚ => Lib.Sorting.largestFirst a b = true) _).trans
    (perm.trans (List.perm_insertionSort (fun a b : κ × ℚ => Lib.Sorting.largestFirst a b = true) _).symm)
  exact congrArg (List.map _) (sorted.eq_of_pairwise (fun a b _ _ => Lib.Sorting.largestFirst_antisymm)
    (List.pairwise_insertionSort _ _) (List.pairwise_insertionSort _ _))

end

/-! What the recorded applications took and brought. -/

def takenFrom (applied : List (CrossApplication κ)) (c : κ) : ℚ :=
  (applied.map fun a => if a.source.currency = c then a.source.amount else 0).sum

def broughtTo (applied : List (CrossApplication κ)) (c : κ) : ℚ :=
  (applied.map fun a => if a.target.currency = c then a.target.amount else 0).sum

theorem takenFrom_append (xs ys : List (CrossApplication κ)) (c : κ) :
    takenFrom (xs ++ ys) c = takenFrom xs c + takenFrom ys c := by
  rw [takenFrom, List.map_append, List.sum_append]
  rfl

theorem broughtTo_append (xs ys : List (CrossApplication κ)) (c : κ) :
    broughtTo (xs ++ ys) c = broughtTo xs c + broughtTo ys c := by
  rw [broughtTo, List.map_append, List.sum_append]
  rfl

theorem takenFrom_single (a : CrossApplication κ) (c : κ) :
    takenFrom [a] c = if a.source.currency = c then a.source.amount else 0 :=
  add_zero _

theorem broughtTo_single (a : CrossApplication κ) (c : κ) :
    broughtTo [a] c = if a.target.currency = c then a.target.amount else 0 :=
  add_zero _

/-- An application exchanges one amount for another at the cross rate. -/
structure Exchanges (unit : κ → ℚ) (a : CrossApplication κ) : Prop where
  source_pos : 0 < a.source.amount
  target_pos : 0 < a.target.amount
  rate : a.rateUsed = unit a.target.currency / unit a.source.currency
  atRate : a.target.amount = a.source.amount * a.rateUsed

theorem broughtTo_nonneg {unit : κ → ℚ} {applied : List (CrossApplication κ)} (valid : ∀ a ∈ applied, Exchanges unit a) (c : κ) :
    0 ≤ broughtTo applied c := by
  apply List.sum_nonneg
  intro x member
  obtain ⟨a, inside, rfl⟩ := List.mem_map.mp member
  split_ifs
  · exact (valid a inside).target_pos.le
  · exact le_rfl

theorem takenFrom_nonneg {unit : κ → ℚ} {applied : List (CrossApplication κ)} (valid : ∀ a ∈ applied, Exchanges unit a) (c : κ) :
    0 ≤ takenFrom applied c := by
  apply List.sum_nonneg
  intro x member
  obtain ⟨a, inside, rfl⟩ := List.mem_map.mp member
  split_ifs
  · exact (valid a inside).source_pos.le
  · exact le_rfl

/-! What every step of the spillover keeps. -/

/-- The value of an amount in base. -/
def worth (unit : κ → ℚ) (k : κ) : ℚ →+ ℚ :=
  AddMonoidHom.mulRight (unit k)⁻¹

omit [LinearOrder κ] in
theorem worth_apply (unit : κ → ℚ) (k : κ) (x : ℚ) : worth unit k x = x / unit k :=
  (div_eq_mul_inv _ _).symm

/-- With `owes` and `spare` left by the native pass, no currency in both. -/
structure Kept (unit owes spare : κ → ℚ) (value : ℚ) (m : Matching κ) : Prop where
  apart : ∀ c, owes c = 0 ∨ spare c = 0
  remaining_nonneg : ∀ c, 0 ≤ m.remaining.amount c
  excess_nonneg : ∀ c, 0 ≤ m.excess.amount c
  brought : ∀ c, m.remaining.amount c + broughtTo m.applied c = owes c
  taken : ∀ c, m.excess.amount c + takenFrom m.applied c = spare c
  valid : ∀ a ∈ m.applied, Exchanges unit a
  value : m.remaining.total (worth unit) - m.excess.total (worth unit) = value

section
variable {rates : RateTable κ} {side : RateSide} {unit owes spare : κ → ℚ} {value : ℚ}

/-- A currency with excess is not owed. -/
theorem Kept.not_owed {m : Matching κ} (kept : Kept unit owes spare value m) {c : κ} (spareHere : 0 < m.excess.amount c) :
    m.remaining.amount c = 0 := by
  have taken := kept.taken c
  have brought := kept.brought c
  have takenNonneg := takenFrom_nonneg kept.valid c
  have broughtNonneg := broughtTo_nonneg kept.valid c
  have nonneg := kept.remaining_nonneg c
  rcases kept.apart c with none | none
  · linarith
  · linarith

/-- The state of a source's turn as a matching. -/
def during (excess : Entries κ ℚ) (src : κ) (s : Spill κ) : Matching κ :=
  { remaining := s.remaining, excess := excess.set src s.excessLeft, applied := s.applied }

/-- One application. -/
theorem Kept.apply {excess : Entries κ ℚ} {src tgt : κ} {s : Spill κ} (kept : Kept unit owes spare value (during excess src s))
    (srcPos : 0 < unit src) (tgtPos : 0 < unit tgt) {x : ℚ} (positive : 0 < x)
    (owed : x ≤ s.remaining.amount tgt) (spared : x ≤ s.excessLeft * (unit tgt / unit src)) :
    Kept unit owes spare value (during excess src
      { remaining := s.remaining.set tgt (s.remaining.amount tgt - x)
        excessLeft := s.excessLeft - x / (unit tgt / unit src)
        applied := s.applied ++ [{
          source := { amount := x / (unit tgt / unit src), currency := src }
          target := { amount := x, currency := tgt }
          rateUsed := unit tgt / unit src }] }) := by
  have rate : 0 < unit tgt / unit src := div_pos tgtPos srcPos
  have consumed : 0 < x / (unit tgt / unit src) := div_pos positive rate
  refine ⟨kept.apart, fun c => ?_, fun c => ?_, fun c => ?_, fun c => ?_, ?_, ?_⟩
  · have before := kept.remaining_nonneg c
    simp only [during, amount_set] at before ⊢
    split_ifs with same
    · linarith
    · exact before
  · have before := kept.excess_nonneg c
    simp only [during, amount_set] at before ⊢
    split_ifs with same
    · rw [sub_nonneg, div_le_iff₀ rate]
      exact spared
    · rwa [if_neg same] at before
  · have before := kept.brought c
    simp only [during, amount_set, broughtTo_append, broughtTo_single] at before ⊢
    split_ifs with same
    · subst same
      linarith
    · linarith
  · have before := kept.taken c
    simp only [during, amount_set, takenFrom_append, takenFrom_single] at before ⊢
    split_ifs with same
    · rw [if_pos same] at before
      linarith
    · rw [if_neg same] at before
      linarith
  · intro a member
    rcases List.mem_append.mp member with old | new
    · exact kept.valid a old
    · obtain rfl := List.mem_singleton.mp new
      exact ⟨consumed, positive, rfl, (div_mul_cancel₀ x rate.ne').symm⟩
  · have before := kept.value
    simp only [during, total_set, worth_apply] at before ⊢
    rw [← before]
    field_simp
    ring

/-- Nothing grows, and no currency comes in. -/
structure Falls (m m' : Matching κ) : Prop where
  remaining : ∀ c, m'.remaining.amount c ≤ m.remaining.amount c
  excess : ∀ c, m'.excess.amount c ≤ m.excess.amount c
  keys : ∀ c ∈ m'.remaining.keys, c ∈ m.remaining.keys

theorem Falls.refl (m : Matching κ) : Falls m m :=
  ⟨fun _ => le_rfl, fun _ => le_rfl, fun _ => id⟩

theorem Falls.trans {m m' m'' : Matching κ} (first : Falls m m') (second : Falls m' m'') : Falls m m'' where
  remaining c := (second.remaining c).trans (first.remaining c)
  excess c := (second.excess c).trans (first.excess c)
  keys c member := first.keys c (second.keys c member)

/-- What a currency falls to zero, stays at zero. -/
theorem Falls.zero {m m' : Matching κ} (falls : Falls m m') (kept : Kept unit owes spare value m') {c : κ}
    (zero : m.remaining.amount c = 0) : m'.remaining.amount c = 0 :=
  le_antisymm (zero ▸ falls.remaining c) (kept.remaining_nonneg c)

theorem falls_apply {excess : Entries κ ℚ} {src tgt : κ} {s : Spill κ} {x consumed : ℚ} (positive : 0 ≤ x) (spent : 0 ≤ consumed)
    (known : tgt ∈ s.remaining.keys) (applied : List (CrossApplication κ)) :
    Falls (during excess src s) (during excess src
      { remaining := s.remaining.set tgt (s.remaining.amount tgt - x)
        excessLeft := s.excessLeft - consumed
        applied := applied }) := by
  refine ⟨fun c => ?_, fun c => ?_, fun c member => ?_⟩
  · simp only [during, amount_set]
    split_ifs with same
    · subst same
      linarith
    · exact le_rfl
  · simp only [during, amount_set]
    split_ifs
    · linarith
    · exact le_rfl
  · rcases mem_keys_set.mp member with rfl | old
    · exact known
    · exact old

/-- One source's turn: an excess that is left has found nothing more to settle. -/
theorem spillInto_kept {excess : Entries κ ℚ} {src : κ} (pricedSrc : Priced rates side unit src) {targets : List κ}
    (priced : ∀ tgt ∈ targets, Priced rates side unit tgt) {s : Spill κ}
    (kept : Kept unit owes spare value (during excess src s)) :
    ∃ s', spillInto rates side src targets s = .ok s' ∧ Kept unit owes spare value (during excess src s') ∧
      Falls (during excess src s) (during excess src s') ∧
      (0 < s'.excessLeft → ∀ tgt ∈ targets, s'.remaining.amount tgt = 0) := by
  induction targets generalizing s with
  | nil => exact ⟨s, rfl, kept, Falls.refl _, fun _ _ member => by cases member⟩
  | cons tgt rest ih =>
    have pricedRest : ∀ t ∈ rest, Priced rates side unit t := fun t member => priced t (List.mem_cons_of_mem _ member)
    rw [spillInto]
    have here : (during excess src s).excess.amount src = s.excessLeft := by simp [during, amount_set]
    by_cases spent : s.excessLeft ≤ 0
    · rw [if_pos spent]
      exact ⟨s, rfl, kept, Falls.refl _, fun left => absurd left (not_lt.mpr spent)⟩
    rw [if_neg spent]
    -- what is skipped has nothing remaining
    have skip (none : s.remaining.amount tgt = 0) : ∃ s', spillInto rates side src rest s = .ok s' ∧
        Kept unit owes spare value (during excess src s') ∧ Falls (during excess src s) (during excess src s') ∧
        (0 < s'.excessLeft → ∀ t ∈ tgt :: rest, s'.remaining.amount t = 0) := by
      obtain ⟨s', done, kept', falls, exhausted⟩ := ih pricedRest kept
      refine ⟨s', done, kept', falls, fun left t member => ?_⟩
      rcases List.mem_cons.mp member with rfl | later
      · exact falls.zero kept' none
      · exact exhausted left t later
    by_cases own : tgt = src
    · rw [if_pos own]
      subst own
      exact skip (kept.not_owed (here ▸ not_le.mp spent))
    rw [if_neg own]
    have nonneg : 0 ≤ s.remaining.amount tgt := kept.remaining_nonneg tgt
    by_cases none : s.remaining.amount tgt ≤ 0
    · rw [if_pos none]
      exact skip (le_antisymm none nonneg)
    rw [if_neg none, crossRate_priced (Ne.symm own) pricedSrc (priced tgt List.mem_cons_self)]
    have srcPos := pricedSrc.pos
    have tgtPos := (priced tgt List.mem_cons_self).pos
    have rate : 0 < unit tgt / unit src := div_pos tgtPos srcPos
    have positive : 0 < min (s.remaining.amount tgt) (s.excessLeft * (unit tgt / unit src)) :=
      lt_min (not_le.mp none) (mul_pos (not_le.mp spent) rate)
    dsimp only [bind, Except.bind]
    rw [if_neg (not_le.mpr positive)]
    generalize isMin : min (s.remaining.amount tgt) (s.excessLeft * (unit tgt / unit src)) = x at positive ⊢
    have owed : x ≤ s.remaining.amount tgt := isMin ▸ min_le_left _ _
    have spared : x ≤ s.excessLeft * (unit tgt / unit src) := isMin ▸ min_le_right _ _
    have next := kept.apply srcPos tgtPos positive owed spared
    have known : tgt ∈ s.remaining.keys := mem_keys_of_amount (not_le.mp none).ne'
    have step : Falls (during excess src s) (during excess src _) :=
      falls_apply positive.le (div_pos positive rate).le known (s.applied ++ [{
          source := { amount := x / (unit tgt / unit src), currency := src }
          target := { amount := x, currency := tgt }
          rateUsed := unit tgt / unit src }])
    obtain ⟨s', done, kept', falls, exhausted⟩ := ih pricedRest next
    refine ⟨s', done, kept', step.trans falls, fun left t member => ?_⟩
    rcases List.mem_cons.mp member with rfl | later
    · -- the smaller of the two was taken: either nothing remains or no excess is left
      apply falls.zero kept'
      have fell := falls.excess src
      simp only [during, amount_set, if_true] at fell ⊢
      rcases min_choice (s.remaining.amount t) (s.excessLeft * (unit t / unit src)) with all | all
      · rw [← isMin, all, sub_self]
      · have spentAll : x / (unit t / unit src) = s.excessLeft := by
          rw [← isMin, all, mul_div_cancel_right₀ _ rate.ne']
        linarith
    · exact exhausted left t later

/-- Setting a currency to the excess it has changes no amount. -/
theorem Kept.opened {m : Matching κ} (kept : Kept unit owes spare value m) (src : κ) :
    Kept unit owes spare value
      (during m.excess src { remaining := m.remaining, excessLeft := m.excess.amount src, applied := m.applied }) := by
  have same : ∀ c, (m.excess.set src (m.excess.amount src)).amount c = m.excess.amount c := by
    intro c
    rw [amount_set]
    split_ifs with here
    · rw [here]
    · rfl
  refine ⟨kept.apart, kept.remaining_nonneg, fun c => ?_, kept.brought, fun c => ?_, kept.valid, ?_⟩
  · exact (same c).symm ▸ kept.excess_nonneg c
  · exact (congrArg (· + _) (same c)).trans (kept.taken c)
  · simp only [during, total_set, sub_self, map_zero, add_zero]
    exact kept.value

theorem falls_opened (m : Matching κ) (src : κ) :
    Falls m (during m.excess src { remaining := m.remaining, excessLeft := m.excess.amount src, applied := m.applied }) where
  remaining _ := le_rfl
  excess c := by
    simp only [during, amount_set]
    split_ifs with here
    · rw [here]
    · exact le_rfl
  keys _ := id

/-- One source: what it has left has found nothing more to settle anywhere. -/
theorem spillFrom_kept {m : Matching κ} {src : κ} (pricedSrc : Priced rates side unit src)
    (priced : ∀ c ∈ m.remaining.keys, Priced rates side unit c) (kept : Kept unit owes spare value m) :
    ∃ m', spillFrom rates side m src = .ok m' ∧ Kept unit owes spare value m' ∧ Falls m m' ∧
      (0 < m'.excess.amount src → ∀ c, m'.remaining.amount c = 0) := by
  have perm := ordered_perm unit m.remaining
  obtain ⟨s, done, kept', falls, exhausted⟩ :=
    spillInto_kept pricedSrc (fun tgt member => priced tgt (perm.subset member)) (kept.opened src)
  refine ⟨during m.excess src s, ?_, kept', (falls_opened m src).trans falls, fun left c => ?_⟩
  · rw [spillFrom, byBaseValueDesc_priced priced]
    dsimp only [bind, Except.bind]
    rw [done]
    rfl
  · have leftHere : 0 < s.excessLeft := by simpa [during, amount_set] using left
    by_cases known : c ∈ m.remaining.keys
    · exact exhausted leftHere c (perm.symm.subset known)
    · have none : m.remaining.amount c = 0 := by
        by_contra some'
        exact known (mem_keys_of_amount some')
      exact falls.zero kept' none

/-- All sources. -/
theorem spillEach_kept {sources : List κ} (pricedSources : ∀ c ∈ sources, Priced rates side unit c) {m : Matching κ}
    (priced : ∀ c ∈ m.remaining.keys, Priced rates side unit c) (kept : Kept unit owes spare value m) :
    ∃ m', Lib.Calls.each (spillFrom rates side) m sources = .ok m' ∧ Kept unit owes spare value m' ∧ Falls m m' ∧
      ∀ src ∈ sources, 0 < m'.excess.amount src → ∀ c, m'.remaining.amount c = 0 := by
  induction sources generalizing m with
  | nil => exact ⟨m, rfl, kept, Falls.refl m, fun _ member => by cases member⟩
  | cons src rest ih =>
    obtain ⟨pricedSrc, pricedRest⟩ := List.forall_mem_cons.mp pricedSources
    obtain ⟨next, done, keptNext, falls, exhausted⟩ := spillFrom_kept pricedSrc priced kept
    obtain ⟨m', rest, kept', fallsRest, exhaustedRest⟩ := ih pricedRest (fun c member => priced c (falls.keys c member)) keptNext
    refine ⟨m', ?_, kept', falls.trans fallsRest, fun c member left => ?_⟩
    · rw [Lib.Calls.each, done]
      exact rest
    · rcases List.mem_cons.mp member with rfl | later
      · exact fun k => fallsRest.zero kept' (exhausted (left.trans_le (fallsRest.excess c)) k)
      · exact exhaustedRest c later left

/-- The spillover leaves no excess beside anything that remains. -/
theorem spillover_kept {sides : Sides κ} (priced : ∀ c ∈ sides.remaining.keys, Priced rates side unit c)
    (pricedExcess : ∀ c ∈ sides.excess.keys, Priced rates side unit c)
    (kept : Kept unit owes spare value { remaining := sides.remaining, excess := sides.excess, applied := [] }) :
    ∃ m, spillover rates side sides = .ok m ∧ Kept unit owes spare value m ∧
      ((∃ c, 0 < m.excess.amount c) → ∀ c, m.remaining.amount c = 0) := by
  have perm := ordered_perm unit sides.excess
  obtain ⟨m, done, kept', falls, exhausted⟩ :=
    spillEach_kept (fun c member => pricedExcess c (perm.subset member)) priced kept
  refine ⟨m, ?_, kept', ?_⟩
  · rw [spillover, byBaseValueDesc_priced pricedExcess]
    exact done
  · rintro ⟨c, left⟩
    have known : c ∈ sides.excess.keys := mem_keys_of_amount (left.trans_le (falls.excess c)).ne'
    exact exhausted c (perm.symm.subset known) left

end

section
variable {unit : κ → ℚ}

/-- Every application stays within what its currencies had left. -/
theorem Kept.within {owes spare : κ → ℚ} {value : ℚ} {m : Matching κ} (kept : Kept unit owes spare value m)
    {before after : List (CrossApplication κ)} {a : CrossApplication κ} (split : m.applied = before ++ a :: after) :
    a.source.amount ≤ spare a.source.currency - takenFrom before a.source.currency ∧
      a.target.amount ≤ owes a.target.currency - broughtTo before a.target.currency := by
  have valid : ∀ x ∈ after, Exchanges unit x := fun x member =>
    kept.valid x (split ▸ List.mem_append_right _ (List.mem_cons_of_mem _ member))
  have single : m.applied = before ++ [a] ++ after := by rw [split, List.append_assoc, List.singleton_append]
  constructor
  · have taken := kept.taken a.source.currency
    rw [single, takenFrom_append, takenFrom_append, takenFrom_single, if_pos rfl] at taken
    linarith [kept.excess_nonneg a.source.currency, takenFrom_nonneg valid a.source.currency]
  · have brought := kept.brought a.target.currency
    rw [single, broughtTo_append, broughtTo_append, broughtTo_single, if_pos rfl] at brought
    linarith [kept.remaining_nonneg a.target.currency, broughtTo_nonneg valid a.target.currency]

end

/-! Maps that differ in order only give one result. -/

section
variable {rates : RateTable κ} {side : RateSide} {unit : κ → ℚ}

def Alike (m m' : Entries κ ℚ) : Prop :=
  ∀ c, m.get c = m'.get c

theorem Alike.amount {m m' : Entries κ ℚ} (alike : Alike m m') (c : κ) : m.amount c = m'.amount c := by
  rw [Lib.Entries.amount, alike c]
  rfl

theorem Alike.set {m m' : Entries κ ℚ} (alike : Alike m m') (k : κ) (v : ℚ) : Alike (m.set k v) (m'.set k v) := by
  intro c
  rw [get_set, get_set, alike c]

theorem Alike.keys {m m' : Entries κ ℚ} (alike : Alike m m') {c : κ} (member : c ∈ m'.keys) : c ∈ m.keys := by
  rw [mem_keys] at member ⊢
  rwa [alike c]

theorem spillInto_alike {src : κ} {targets : List κ} {s t : Spill κ} (s' : Spill κ) (remaining : Alike s.remaining s'.remaining)
    (left : s.excessLeft = s'.excessLeft) (applied : s.applied = s'.applied)
    (done : spillInto rates side src targets s = .ok t) :
    ∃ t', spillInto rates side src targets s' = .ok t' ∧ Alike t.remaining t'.remaining ∧
      t.excessLeft = t'.excessLeft ∧ t.applied = t'.applied := by
  induction targets generalizing s s' with
  | nil =>
    cases done
    exact ⟨s', rfl, remaining, left, applied⟩
  | cons tgt rest ih =>
    rw [spillInto] at done ⊢
    rw [← left, ← remaining.amount tgt]
    split_ifs at done ⊢ with spent own none
    · cases done
      exact ⟨s', rfl, remaining, left, applied⟩
    · exact ih s' remaining left applied done
    · exact ih s' remaining left applied done
    · obtain ⟨rate, priced, done⟩ := Lib.Calls.bind_ok done
      rw [priced]
      dsimp only [bind, Except.bind] at done ⊢
      split_ifs at done ⊢ with nothing
      · exact ih s' remaining left applied done
      · refine ih (s := { remaining := s.remaining.set tgt _, excessLeft := _, applied := s.applied ++ _ }) _ ?_ ?_ ?_ done
        · exact remaining.set _ _
        · rfl
        · exact congrArg (· ++ _) applied

/-- Matchings that differ in the order of their entries only. -/
structure AlikeMatching (m m' : Matching κ) : Prop where
  remaining : Alike m.remaining m'.remaining
  excess : Alike m.excess m'.excess
  applied : m.applied = m'.applied

theorem spillFrom_alike {m m' n : Matching κ} {src : κ} (alike : AlikeMatching m m')
    (priced : ∀ c ∈ m.remaining.keys, Priced rates side unit c) (done : spillFrom rates side m src = .ok n) :
    ∃ n', spillFrom rates side m' src = .ok n' ∧ AlikeMatching n n' := by
  have priced' : ∀ c ∈ m'.remaining.keys, Priced rates side unit c := fun c member => priced c (alike.remaining.keys member)
  rw [spillFrom, byBaseValueDesc_priced priced] at done
  rw [spillFrom, byBaseValueDesc_priced priced', ← ordered_same alike.remaining]
  obtain ⟨targets, inOrder, done⟩ := Lib.Calls.bind_ok done
  cases inOrder
  obtain ⟨s, spilled, done⟩ := Lib.Calls.bind_ok done
  cases done
  obtain ⟨s', spilled', remaining, left, applied⟩ := spillInto_alike
    { remaining := m'.remaining, excessLeft := m'.excess.amount src, applied := m'.applied }
    alike.remaining (alike.excess.amount src) alike.applied spilled
  dsimp only [bind, Except.bind]
  rw [spilled']
  refine ⟨_, rfl, remaining, ?_, applied⟩
  rw [left]
  exact alike.excess.set _ _

variable {owes spare : κ → ℚ} {value : ℚ}

theorem spillEach_alike {sources : List κ} (pricedSources : ∀ c ∈ sources, Priced rates side unit c) {m m' n : Matching κ}
    (alike : AlikeMatching m m') (priced : ∀ c ∈ m.remaining.keys, Priced rates side unit c)
    (kept : Kept unit owes spare value m) (done : Lib.Calls.each (spillFrom rates side) m sources = .ok n) :
    ∃ n', Lib.Calls.each (spillFrom rates side) m' sources = .ok n' ∧ AlikeMatching n n' := by
  induction sources generalizing m m' with
  | nil =>
    cases done
    exact ⟨m', rfl, alike⟩
  | cons src rest ih =>
    obtain ⟨pricedSrc, pricedRest⟩ := List.forall_mem_cons.mp pricedSources
    obtain ⟨next, first, others⟩ := Lib.Calls.each_cons done
    obtain ⟨next', first', alikeNext⟩ := spillFrom_alike alike priced first
    obtain ⟨reached, here, keptNext, falls, -⟩ := spillFrom_kept pricedSrc priced kept
    obtain rfl : next = reached := Except.ok.inj (first.symm.trans here)
    obtain ⟨n', others', alikeLast⟩ := ih pricedRest alikeNext (fun c member => priced c (falls.keys c member)) keptNext others
    refine ⟨n', ?_, alikeLast⟩
    rw [Lib.Calls.each, first']
    exact others'

theorem spillover_alike {sides sides' : Sides κ} {n : Matching κ} (remaining : Alike sides.remaining sides'.remaining)
    (excess : Alike sides.excess sides'.excess) (priced : ∀ c ∈ sides.remaining.keys, Priced rates side unit c)
    (pricedExcess : ∀ c ∈ sides.excess.keys, Priced rates side unit c)
    (kept : Kept unit owes spare value { remaining := sides.remaining, excess := sides.excess, applied := [] })
    (done : spillover rates side sides = .ok n) :
    ∃ n', spillover rates side sides' = .ok n' ∧ AlikeMatching n n' := by
  have pricedExcess' : ∀ c ∈ sides'.excess.keys, Priced rates side unit c := fun c member => pricedExcess c (excess.keys member)
  rw [spillover, byBaseValueDesc_priced pricedExcess] at done
  rw [spillover, byBaseValueDesc_priced pricedExcess', ← ordered_same excess]
  have perm := ordered_perm unit sides.excess
  have alike : AlikeMatching { remaining := sides.remaining, excess := sides.excess, applied := [] }
      { remaining := sides'.remaining, excess := sides'.excess, applied := [] } := ⟨remaining, excess, rfl⟩
  exact spillEach_alike (fun c member => pricedExcess c (perm.subset member)) alike priced kept done

end

end Liratek.Till.Spillover
