import Mathlib.Data.List.Sort

/-! Dropping entries before or after a stable sort, and sorting by value. -/

namespace Liratek.Lib.Sorting

section
variable {α : Type*} {r : α → α → Prop} [DecidableRel r]

theorem orderedInsert_of_forall {a : α} {l : List α} (first : ∀ b ∈ l, r a b) : l.orderedInsert r a = a :: l := by
  cases l with
  | nil => rfl
  | cons b rest => rw [List.orderedInsert_cons, if_pos (first b List.mem_cons_self)]

variable [IsTrans α r]

theorem filter_orderedInsert (p : α → Bool) (a : α) {l : List α} (sorted : l.Pairwise r) :
    (l.orderedInsert r a).filter p = if p a then (l.filter p).orderedInsert r a else l.filter p := by
  induction l with
  | nil =>
    rw [List.orderedInsert_nil]
    cases here : p a <;> simp [here]
  | cons b rest ih =>
    obtain ⟨first, sorted⟩ := List.pairwise_cons.mp sorted
    rw [List.orderedInsert_cons]
    split_ifs with before here here
    · have least : ∀ c ∈ (b :: rest).filter p, r a c := by
        intro c member
        rcases List.mem_cons.mp (List.mem_of_mem_filter member) with rfl | later
        · exact before
        · exact IsTrans.trans _ _ _ before (first c later)
      rw [List.filter_cons_of_pos here, orderedInsert_of_forall least]
    · rw [List.filter_cons_of_neg here]
    · rw [List.filter_cons, List.filter_cons, ih sorted, if_pos here]
      split_ifs
      · rw [List.orderedInsert_cons, if_neg before]
      · rfl
    · rw [List.filter_cons, List.filter_cons, ih sorted, if_neg here]

variable [Std.Total r]

theorem filter_insertionSort (p : α → Bool) (l : List α) :
    (l.insertionSort r).filter p = (l.filter p).insertionSort r := by
  induction l with
  | nil => rfl
  | cons a rest ih =>
    rw [List.insertionSort_cons, filter_orderedInsert p a (List.pairwise_insertionSort r rest), ih, List.filter_cons]
    split_ifs
    · rw [List.insertionSort_cons]
    · rfl

end

/-! The larger value first, then the smaller name. -/

section
variable {α β : Type*} [LinearOrder α] [LinearOrder β]

def largestFirst (a b : α × β) : Bool :=
  b.2 < a.2 || (a.2 = b.2 && a.1 ≤ b.1)

theorem largestFirst_iff {a b : α × β} : largestFirst a b = true ↔ b.2 < a.2 ∨ a.2 = b.2 ∧ a.1 ≤ b.1 := by
  simp [largestFirst]

theorem largestFirst_le {a b : α × β} (first : largestFirst a b = true) : b.2 ≤ a.2 := by
  rcases largestFirst_iff.mp first with less | ⟨same, -⟩
  · exact less.le
  · exact same.ge

instance : Std.Total fun a b : α × β => largestFirst a b = true where
  total a b := by
    rw [largestFirst_iff, largestFirst_iff]
    rcases lt_trichotomy a.2 b.2 with less | same | more
    · exact .inr (.inl less)
    · rcases le_total a.1 b.1 with before | after
      · exact .inl (.inr ⟨same, before⟩)
      · exact .inr (.inr ⟨same.symm, after⟩)
    · exact .inl (.inl more)

instance : IsTrans (α × β) fun a b => largestFirst a b = true where
  trans a b c := by
    rw [largestFirst_iff, largestFirst_iff, largestFirst_iff]
    rintro (less | ⟨same, before⟩) (less' | ⟨same', before'⟩)
    · exact .inl (less'.trans less)
    · exact .inl (same' ▸ less)
    · exact .inl (same.symm ▸ less')
    · exact .inr ⟨same.trans same', before.trans before'⟩

theorem largestFirst_antisymm {a b : α × β} (ab : largestFirst a b = true) (ba : largestFirst b a = true) : a = b := by
  rw [largestFirst_iff] at ab ba
  rcases ab with less | ⟨same, before⟩
  · rcases ba with less' | ⟨same', -⟩
    · exact absurd less less'.asymm
    · exact absurd less same'.not_lt
  · rcases ba with less' | ⟨-, before'⟩
    · exact absurd less' same.not_lt
    · exact Prod.ext (le_antisymm before before') same

end

end Liratek.Lib.Sorting
