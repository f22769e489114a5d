import Mathlib.Algebra.BigOperators.Group.List.Basic
import Mathlib.Data.List.Nodup
import Mathlib.Tactic.Abel

/-! A map whose entries keep the order in which their keys were first set. -/

namespace Liratek.Lib

structure Entries (κ α : Type*) where
  list : List (κ × α)
  distinct : (list.map Prod.fst).Nodup

namespace Entries

section
variable {κ α : Type*}

def empty : Entries κ α :=
  ⟨[], List.nodup_nil⟩

def keys (m : Entries κ α) : List κ :=
  m.list.map Prod.fst

theorem keys_distinct (m : Entries κ α) : m.keys.Nodup :=
  m.distinct

variable [DecidableEq κ]

def lookup (l : List (κ × α)) (k : κ) : Option α :=
  (l.find? fun e => e.1 = k).map Prod.snd

def get (m : Entries κ α) (k : κ) : Option α :=
  lookup m.list k

/-- Replace the entry in its place, or add it at the end. -/
def put (l : List (κ × α)) (k : κ) (v : α) : List (κ × α) :=
  match l with
  | [] => [(k, v)]
  | e :: rest => if e.1 = k then (k, v) :: rest else e :: put rest k v

@[simp] theorem lookup_nil (k : κ) : lookup ([] : List (κ × α)) k = none := rfl

theorem lookup_cons (e : κ × α) (rest : List (κ × α)) (k : κ) :
    lookup (e :: rest) k = if e.1 = k then some e.2 else lookup rest k := by
  unfold lookup
  rw [List.find?_cons]
  by_cases here : e.1 = k
  · simp [here]
  · simp [here]

theorem lookup_put (l : List (κ × α)) (k : κ) (v : α) (j : κ) :
    lookup (put l k v) j = if k = j then some v else lookup l j := by
  induction l with
  | nil => rw [put, lookup_cons]
  | cons e rest ih =>
    rw [put]
    split_ifs with here same same
    · rw [lookup_cons, if_pos same]
    · rw [lookup_cons, lookup_cons, if_neg same, if_neg (here ▸ same)]
    · rw [lookup_cons, ih, if_pos same, if_neg (same ▸ here)]
    · rw [lookup_cons, lookup_cons, ih, if_neg same]

theorem mem_keys_put {l : List (κ × α)} {k j : κ} {v : α} :
    j ∈ (put l k v).map Prod.fst ↔ j = k ∨ j ∈ l.map Prod.fst := by
  induction l with
  | nil => simp [put]
  | cons e rest ih =>
    rw [put]
    split_ifs with here
    · subst here
      simp
    · rw [List.map_cons, List.mem_cons, ih, List.map_cons, List.mem_cons]
      tauto

theorem put_distinct {l : List (κ × α)} (distinct : (l.map Prod.fst).Nodup) (k : κ) (v : α) :
    ((put l k v).map Prod.fst).Nodup := by
  induction l with
  | nil => simp [put]
  | cons e rest ih =>
    obtain ⟨fresh, restDistinct⟩ := List.nodup_cons.mp distinct
    rw [put]
    split_ifs with here
    · subst here
      exact distinct
    · rw [List.map_cons, List.nodup_cons, mem_keys_put]
      exact ⟨fun member => member.elim here fresh, ih restDistinct⟩

def set (m : Entries κ α) (k : κ) (v : α) : Entries κ α :=
  ⟨put m.list k v, put_distinct m.distinct k v⟩

@[simp] theorem get_empty (k : κ) : (empty : Entries κ α).get k = none := rfl

theorem get_set (m : Entries κ α) (k : κ) (v : α) (j : κ) : (m.set k v).get j = if k = j then some v else m.get j :=
  lookup_put _ _ _ _

theorem mem_keys_set {m : Entries κ α} {k j : κ} {v : α} : j ∈ (m.set k v).keys ↔ j = k ∨ j ∈ m.keys :=
  mem_keys_put

theorem lookup_eq_some {l : List (κ × α)} (distinct : (l.map Prod.fst).Nodup) {k : κ} {v : α} :
    lookup l k = some v ↔ (k, v) ∈ l := by
  induction l with
  | nil => simp
  | cons e rest ih =>
    obtain ⟨fresh, restDistinct⟩ := List.nodup_cons.mp distinct
    rw [lookup_cons, List.mem_cons]
    split_ifs with here
    · subst here
      constructor
      · rintro ⟨⟩
        exact .inl rfl
      · rintro (same | later)
        · rw [← same]
        · exact absurd (List.mem_map_of_mem later) fresh
    · rw [ih restDistinct]
      exact (or_iff_right fun same => here (by rw [← same])).symm

theorem get_eq_some {m : Entries κ α} {k : κ} {v : α} : m.get k = some v ↔ (k, v) ∈ m.list :=
  lookup_eq_some m.distinct

theorem mem_keys {m : Entries κ α} {k : κ} : k ∈ m.keys ↔ ∃ v, m.get k = some v := by
  constructor
  · intro member
    obtain ⟨⟨k, v⟩, inside, rfl⟩ := List.mem_map.mp member
    exact ⟨v, get_eq_some.mpr inside⟩
  · rintro ⟨v, here⟩
    exact List.mem_map.mpr ⟨(k, v), get_eq_some.mp here, rfl⟩

/-- A new key comes last. -/
theorem list_set {m : Entries κ α} {k : κ} (fresh : m.get k = none) (v : α) : (m.set k v).list = m.list ++ [(k, v)] := by
  obtain ⟨l, distinct⟩ := m
  change put l k v = l ++ [(k, v)]
  change lookup l k = none at fresh
  induction l with
  | nil => rfl
  | cons e rest ih =>
    rw [lookup_cons] at fresh
    split_ifs at fresh with here
    rw [put, if_neg here, ih (List.nodup_cons.mp distinct).2 fresh]
    rfl

def erase (m : Entries κ α) (k : κ) : Entries κ α :=
  ⟨m.list.filter fun e => e.1 ≠ k, m.distinct.sublist (List.Sublist.map _ List.filter_sublist)⟩

def size (m : Entries κ α) : Nat :=
  m.list.length

theorem get_erase (m : Entries κ α) (k j : κ) : (m.erase k).get j = if k = j then none else m.get j := by
  apply Option.ext
  intro v
  rw [get_eq_some, erase, List.mem_filter, ← get_eq_some]
  split_ifs with here
  · simp [here]
  · simp [Ne.symm here]

theorem size_set {m : Entries κ α} {k : κ} (fresh : m.get k = none) (v : α) : (m.set k v).size = m.size + 1 := by
  rw [size, list_set fresh, List.length_append]
  rfl

theorem size_set_of_get {m : Entries κ α} {k : κ} {old : α} (there : m.get k = some old) (v : α) : (m.set k v).size = m.size := by
  obtain ⟨l, distinct⟩ := m
  change (put l k v).length = l.length
  change lookup l k = some old at there
  induction l with
  | nil => cases there
  | cons e rest ih =>
    rw [put]
    rw [lookup_cons] at there
    by_cases here : e.1 = k
    · rw [if_pos here]
      rfl
    · rw [if_neg here] at there ⊢
      rw [List.length_cons, ih (List.nodup_cons.mp distinct).2 there, List.length_cons]

theorem size_erase (m : Entries κ α) {k : κ} {v : α} (there : m.get k = some v) : (m.erase k).size + 1 = m.size := by
  obtain ⟨l, distinct⟩ := m
  change (l.filter fun e => e.1 ≠ k).length + 1 = l.length
  change lookup l k = some v at there
  induction l with
  | nil => cases there
  | cons e rest ih =>
    obtain ⟨fresh, restDistinct⟩ := List.nodup_cons.mp distinct
    rw [lookup_cons] at there
    rw [List.filter_cons, List.length_cons]
    by_cases here : e.1 = k
    · have others : rest.filter (fun e => e.1 ≠ k) = rest := by
        apply List.filter_eq_self.mpr
        intro other member
        exact decide_eq_true fun same => fresh (here ▸ same ▸ List.mem_map_of_mem member)
      rw [others, if_neg (by simp [here])]
    · rw [if_neg here] at there
      rw [if_pos (decide_eq_true here), List.length_cons, ih restDistinct there]

theorem size_erase_le (m : Entries κ α) (k : κ) : (m.erase k).size ≤ m.size :=
  List.length_filter_le _ _

/-- Maps with the same entries differ in order only. -/
theorem perm_of_get {m m' : Entries κ α} (same : ∀ k, m.get k = m'.get k) : m.list.Perm m'.list := by
  rw [List.perm_ext_iff_of_nodup m.distinct.of_map m'.distinct.of_map]
  rintro ⟨k, v⟩
  rw [← get_eq_some, ← get_eq_some, same]

end

/-! Maps of amounts. -/

section
variable {κ M N : Type*} [DecidableEq κ] [AddCommGroup M] [AddCommGroup N]

/-- `m.get(k) ?? 0` -/
def amount (m : Entries κ M) (k : κ) : M :=
  (m.get k).getD 0

@[simp] theorem amount_empty (k : κ) : (empty : Entries κ M).amount k = 0 := rfl

theorem amount_set (m : Entries κ M) (k : κ) (v : M) (j : κ) : (m.set k v).amount j = if k = j then v else m.amount j := by
  unfold amount
  rw [get_set]
  split_ifs <;> rfl

theorem mem_keys_of_amount {m : Entries κ M} {k : κ} (some' : m.amount k ≠ 0) : k ∈ m.keys := by
  cases here : m.get k with
  | none => exact absurd (by rw [amount, here, Option.getD_none]) some'
  | some v => exact mem_keys.mpr ⟨v, here⟩

theorem amount_of_mem {m : Entries κ M} {e : κ × M} (member : e ∈ m.list) : m.amount e.1 = e.2 := by
  rw [amount, get_eq_some.mpr member, Option.getD_some]

/-- Only one entry is at a key. -/
theorem sum_here (m : Entries κ M) (k : κ) : (m.list.map fun e => if e.1 = k then e.2 else 0).sum = m.amount k := by
  obtain ⟨l, distinct⟩ := m
  change _ = (lookup l k).getD 0
  induction l with
  | nil => rfl
  | cons e rest ih =>
    obtain ⟨fresh, restDistinct⟩ := List.nodup_cons.mp distinct
    rw [List.map_cons, List.sum_cons, lookup_cons, ih restDistinct]
    split_ifs with here
    · have none : lookup rest k = none := by
        rw [Option.eq_none_iff_forall_ne_some]
        exact fun v found => fresh (List.mem_map.mpr ⟨(k, v), (lookup_eq_some restDistinct).mp found, here.symm⟩)
      rw [none, Option.getD_none, add_zero, Option.getD_some]
    · exact zero_add _

/-- `m[k] = (m[k] ?? 0) + v` for each entry of a list. -/
def addAll (m : Entries κ M) (l : List (κ × M)) : Entries κ M :=
  l.foldl (fun m e => m.set e.1 (m.amount e.1 + e.2)) m

theorem amount_addAll (m : Entries κ M) (l : List (κ × M)) (k : κ) :
    (m.addAll l).amount k = m.amount k + (l.map fun e => if e.1 = k then e.2 else 0).sum := by
  induction l generalizing m with
  | nil => exact (add_zero _).symm
  | cons e rest ih =>
    refine (ih _).trans ?_
    rw [amount_set, List.map_cons, List.sum_cons, ← add_assoc]
    split_ifs with here
    · rw [here]
    · rw [add_zero]

theorem mem_keys_addAll {m : Entries κ M} {l : List (κ × M)} {k : κ} :
    k ∈ (m.addAll l).keys ↔ k ∈ m.keys ∨ k ∈ l.map Prod.fst := by
  induction l generalizing m with
  | nil => simp [addAll]
  | cons e rest ih =>
    refine ih.trans ?_
    rw [mem_keys_set, List.map_cons, List.mem_cons]
    tauto

/-- What the entries add up to, each amount worth `f`. -/
def total (m : Entries κ M) (f : κ → M →+ N) : N :=
  (m.list.map fun e => f e.1 e.2).sum

theorem sum_put (l : List (κ × M)) (k : κ) (v : M) (f : κ → M →+ N) :
    ((put l k v).map fun e => f e.1 e.2).sum = (l.map fun e => f e.1 e.2).sum + f k v - f k ((lookup l k).getD 0) := by
  induction l with
  | nil => simp [put]
  | cons e rest ih =>
    rw [put, lookup_cons, List.map_cons, List.sum_cons]
    split_ifs with here
    · subst here
      rw [List.map_cons, List.sum_cons, Option.getD_some]
      abel
    · rw [List.map_cons, List.sum_cons, ih]
      abel

theorem total_eq_keys (m : Entries κ M) (f : κ → M →+ N) : m.total f = (m.keys.map fun k => f k (m.amount k)).sum := by
  rw [total, keys, List.map_map]
  exact congrArg List.sum (List.map_congr_left fun e member => by rw [Function.comp_apply, amount_of_mem member])

/-- The entries add up over any keys that include theirs. -/
theorem sum_amount (m : Entries κ M) {ks : List κ} (distinct : ks.Nodup) (all : ∀ k ∈ m.keys, k ∈ ks) (f : κ → M →+ N) :
    (ks.map fun k => f k (m.amount k)).sum = m.total f := by
  have same : (ks.filter fun k => k ∈ m.keys).Perm m.keys := by
    rw [List.perm_ext_iff_of_nodup (distinct.filter _) m.keys_distinct]
    intro k
    rw [List.mem_filter, decide_eq_true_iff]
    exact ⟨And.right, fun member => ⟨all k member, member⟩⟩
  have dropped : ∀ ks : List κ, (ks.map fun k => f k (m.amount k)).sum =
      ((ks.filter fun k => k ∈ m.keys).map fun k => f k (m.amount k)).sum := by
    intro ks
    induction ks with
    | nil => rfl
    | cons k rest ih =>
      rw [List.filter_cons, List.map_cons, List.sum_cons, ih]
      split_ifs with member
      · rw [List.map_cons, List.sum_cons]
      · have none : m.get k = none := by
          rw [Option.eq_none_iff_forall_ne_some]
          exact fun v here => member (decide_eq_true (mem_keys.mpr ⟨v, here⟩))
        rw [amount, none, Option.getD_none, map_zero, zero_add]
  rw [dropped, (same.map _).sum_eq, total_eq_keys]

theorem total_set (m : Entries κ M) (k : κ) (v : M) (f : κ → M →+ N) :
    (m.set k v).total f = m.total f + f k (v - m.amount k) := by
  rw [map_sub]
  exact (sum_put ..).trans (add_sub_assoc ..)

end

end Entries

end Liratek.Lib
