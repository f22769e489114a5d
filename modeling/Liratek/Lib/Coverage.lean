import Mathlib.Algebra.BigOperators.Group.List.Basic
import Mathlib.Algebra.Order.BigOperators.Group.List

/-! Coverage of queued places by entries, each a place with an amount. An order of entries respects the queue
when an entry comes only after every earlier place of its queue is full. -/

namespace Liratek.Lib.Coverage

variable {ι α : Type*} [LinearOrder ι] [AddCommMonoid α]

/-- What the entries put on one place. -/
def amountAt (entries : List (ι × α)) (i : ι) : α :=
  ((entries.filter fun e => e.1 = i).map Prod.snd).sum

@[simp] theorem amountAt_nil (i : ι) : amountAt ([] : List (ι × α)) i = 0 := rfl

theorem amountAt_cons (e : ι × α) (rest : List (ι × α)) (i : ι) :
    amountAt (e :: rest) i = (if e.1 = i then e.2 else 0) + amountAt rest i := by
  unfold amountAt
  by_cases here : e.1 = i
  · rw [List.filter_cons_of_pos (by simpa using here), if_pos here, List.map_cons, List.sum_cons]
  · rw [List.filter_cons_of_neg (by simpa using here), if_neg here, zero_add]

theorem amountAt_append (xs ys : List (ι × α)) (i : ι) : amountAt (xs ++ ys) i = amountAt xs i + amountAt ys i := by
  unfold amountAt
  rw [List.filter_append, List.map_append, List.sum_append]

theorem amountAt_eq_zero {entries : List (ι × α)} {i : ι} (none : ∀ e ∈ entries, e.1 ≠ i) : amountAt entries i = 0 := by
  have empty : entries.filter (fun e => e.1 = i) = [] := by
    rw [List.filter_eq_nil_iff]
    intro e member
    simpa using none e member
  rw [amountAt, empty, List.map_nil, List.sum_nil]

/-- A place with an amount has an entry. -/
theorem exists_entry {entries : List (ι × α)} {i : ι} (covered : amountAt entries i ≠ 0) : ∃ e ∈ entries, e.1 = i := by
  by_contra none
  push Not at none
  exact covered (amountAt_eq_zero none)

/-- A place with one entry has that entry's amount. -/
theorem amountAt_of_distinct {entries : List (ι × α)} (distinct : (entries.map Prod.fst).Nodup) {e : ι × α}
    (member : e ∈ entries) : amountAt entries e.1 = e.2 := by
  induction entries with
  | nil => cases member
  | cons first rest ih =>
    obtain ⟨fresh, restDistinct⟩ := List.nodup_cons.mp distinct
    rw [amountAt_cons]
    rcases List.mem_cons.mp member with rfl | later
    · rw [if_pos rfl, amountAt_eq_zero, add_zero]
      exact fun e' inside same => fresh (List.mem_map.mpr ⟨e', inside, same⟩)
    · rw [if_neg, zero_add]
      · exact ih restDistinct later
      · exact fun same => fresh (List.mem_map.mpr ⟨e, later, same.symm⟩)

theorem sum_single {places : List ι} (distinct : places.Nodup) {j : ι} (here : j ∈ places) (x : α) :
    (places.map fun i => if j = i then x else 0).sum = x := by
  induction places with
  | nil => cases here
  | cons i rest ih =>
    obtain ⟨fresh, restDistinct⟩ := List.nodup_cons.mp distinct
    rw [List.map_cons, List.sum_cons]
    rcases List.mem_cons.mp here with rfl | later
    · have none : (rest.map fun i => if j = i then x else 0) = rest.map fun _ => 0 := by
        apply List.map_congr_left
        intro i member
        exact if_neg fun same : j = i => fresh (same ▸ member)
      rw [if_pos rfl, none, List.sum_map_zero, add_zero]
    · rw [if_neg fun same : j = i => fresh (same ▸ later), zero_add]
      exact ih restDistinct later

/-- The places together hold what the entries hold, when no entry lies elsewhere. -/
theorem sum_amountAt {places : List ι} (distinct : places.Nodup) {entries : List (ι × α)}
    (inside : ∀ e ∈ entries, e.1 ∈ places) : (places.map (amountAt entries)).sum = (entries.map Prod.snd).sum := by
  induction entries with
  | nil => exact List.sum_map_zero
  | cons e rest ih =>
    have split : places.map (amountAt (e :: rest)) =
        places.map fun i => (if e.1 = i then e.2 else 0) + amountAt rest i :=
      List.map_congr_left fun i _ => amountAt_cons e rest i
    rw [split, List.sum_map_add, sum_single distinct (inside e List.mem_cons_self),
      ih fun e' member => inside e' (List.mem_cons_of_mem e member), List.map_cons, List.sum_cons]

/-- Every entry comes after the earlier places of its queue are full. -/
def InOrder (queue : ι → ι → Prop) (cap : ι → α) (entries : List (ι × α)) : Prop :=
  ∀ before e after, entries = before ++ e :: after → ∀ i, i < e.1 → queue i e.1 → amountAt before i = cap i

theorem inOrder_nil (queue : ι → ι → Prop) (cap : ι → α) : InOrder queue cap [] := by
  intro before e after split
  exact absurd split.symm (by simp)

/-- In entries sorted by place, what precedes an entry holds all of an earlier place. -/
theorem amountAt_before {before after : List (ι × α)} {e : ι × α}
    (sorted : (before ++ e :: after).Pairwise fun a b => a.1 ≤ b.1) {i : ι} (earlier : i < e.1) :
    amountAt before i = amountAt (before ++ e :: after) i := by
  have none : amountAt (e :: after) i = 0 := by
    apply amountAt_eq_zero
    intro x member
    rcases List.mem_cons.mp member with rfl | later
    · exact earlier.ne'
    · have tail := (List.pairwise_append.mp sorted).2.1
      exact (earlier.trans_le (List.rel_of_pairwise_cons tail later)).ne'
  rw [amountAt_append, none, add_zero]

/-- Sorted entries that fill every earlier place of their queues extend an order. -/
theorem InOrder.append {queue : ι → ι → Prop} {cap : ι → α} {xs ys : List (ι × α)} (order : InOrder queue cap xs)
    (sorted : ys.Pairwise fun a b => a.1 ≤ b.1)
    (full : ∀ e ∈ ys, ∀ i, i < e.1 → queue i e.1 → amountAt xs i + amountAt ys i = cap i) :
    InOrder queue cap (xs ++ ys) := by
  intro before e after split i earlier same
  rcases List.append_eq_append_iff.mp split with ⟨middle, isBefore, isRest⟩ | ⟨middle, isXs, isRest⟩
  · rw [isBefore, amountAt_append]
    rw [isRest] at sorted full
    rw [amountAt_before sorted earlier]
    exact full e (List.mem_append_right _ List.mem_cons_self) i earlier same
  · cases middle with
    | nil =>
      rw [List.append_nil] at isXs
      rw [List.nil_append] at isRest
      rw [← isRest] at sorted full
      have here : amountAt ([] : List (ι × α)) i = amountAt ([] ++ e :: after) i := amountAt_before sorted earlier
      have total := full e List.mem_cons_self i earlier same
      rw [List.nil_append] at here
      rw [← here, amountAt_nil, add_zero] at total
      rw [← isXs]
      exact total
    | cons first rest =>
      obtain ⟨rfl, isAfter⟩ := List.cons.inj (isRest.trans rfl)
      exact order before _ rest isXs i earlier same

end Liratek.Lib.Coverage
