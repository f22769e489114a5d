import Mathlib.Data.List.Infix

/-! The `LIKE` of SQL: `%` is any text, `_` any character, and ASCII letters match in either case. -/

namespace Liratek.Lib.SqlLike

def like : List Char → List Char → Bool
  | [], text => text.isEmpty
  | p :: ps, text =>
    if p = '%' then text.tails.any fun tail => like ps tail
    else
      match text with
      | [] => false
      | t :: ts => (p = '_' || p.toLower = t.toLower) && like ps ts

/-- The text without the case of its ASCII letters. -/
def fold (text : List Char) : List Char :=
  text.map Char.toLower

/-- Without wildcards. -/
def Literal (pattern : List Char) : Prop :=
  ∀ p ∈ pattern, p ≠ '%' ∧ p ≠ '_'

theorem like_cons (p : Char) (ps text : List Char) : like (p :: ps) text =
    if p = '%' then text.tails.any fun tail => like ps tail
    else
      match text with
      | [] => false
      | t :: ts => (p = '_' || p.toLower = t.toLower) && like ps ts := by
  cases text <;> rfl

theorem like_percent (ps text : List Char) : like ('%' :: ps) text = true ↔ ∃ tail, tail <:+ text ∧ like ps tail = true := by
  rw [like_cons, if_pos rfl, List.any_eq_true]
  simp only [List.mem_tails]

/-- What stands before the rest of a pattern is matched letter by letter. -/
theorem like_literal_append {ps : List Char} (literal : Literal ps) (rest text : List Char) :
    like (ps ++ rest) text = true ↔ ∃ head tail, text = head ++ tail ∧ fold head = fold ps ∧ like rest tail = true := by
  induction ps generalizing text with
  | nil =>
    constructor
    · intro rest'
      exact ⟨[], text, rfl, rfl, rest'⟩
    · rintro ⟨head, tail, rfl, same, rest'⟩
      obtain rfl := List.map_eq_nil_iff.mp same
      exact rest'
  | cons p ps ih =>
    obtain ⟨⟨noPercent, noUnderscore⟩, others⟩ := List.forall_mem_cons.mp literal
    rw [List.cons_append, like_cons, if_neg noPercent]
    cases text with
    | nil =>
      constructor
      · intro none
        cases none
      · rintro ⟨head, tail, split, same, -⟩
        obtain rfl := (List.append_eq_nil_iff.mp split.symm).1
        cases same
    | cons t ts =>
      rw [Bool.and_eq_true, Bool.or_eq_true, decide_eq_true_iff, decide_eq_true_iff, or_iff_right noUnderscore, ih others]
      constructor
      · rintro ⟨letter, head, tail, rfl, same, rest'⟩
        exact ⟨t :: head, tail, rfl, by rw [fold, fold, List.map_cons, List.map_cons, letter]; exact congrArg _ same, rest'⟩
      · rintro ⟨head, tail, split, same, rest'⟩
        cases head with
        | nil => cases same
        | cons h head =>
          obtain ⟨rfl, rfl⟩ := List.cons.inj split
          obtain ⟨letter, same⟩ := List.cons.inj same
          exact ⟨letter.symm, head, tail, rfl, same, rest'⟩

theorem like_any (text : List Char) : like ['%'] text = true :=
  (like_percent [] text).mpr ⟨[], List.nil_suffix, rfl⟩

theorem like_exact {ps : List Char} (literal : Literal ps) (text : List Char) : like ps text = true ↔ fold text = fold ps := by
  have whole := like_literal_append literal [] text
  rw [List.append_nil] at whole
  rw [whole]
  constructor
  · rintro ⟨head, tail, rfl, same, none⟩
    obtain rfl := List.isEmpty_iff.mp none
    rw [List.append_nil, same]
  · intro same
    exact ⟨text, [], (List.append_nil text).symm, same, rfl⟩

/-- `'abc%'` -/
theorem like_start (ps : List Char) (literal : Literal ps) (text : List Char) :
    like (ps ++ ['%']) text = true ↔ fold ps <+: fold text := by
  rw [like_literal_append literal]
  constructor
  · rintro ⟨head, tail, rfl, same, -⟩
    exact ⟨fold tail, by rw [← same, fold, fold, fold, List.map_append]⟩
  · rintro ⟨rest, split⟩
    obtain ⟨head, tail, rfl, isHead, -⟩ := List.map_eq_append_iff.mp split.symm
    exact ⟨head, tail, rfl, isHead, like_any tail⟩

/-- `'%abc'` -/
theorem like_end (ps : List Char) (literal : Literal ps) (text : List Char) :
    like ('%' :: ps) text = true ↔ fold ps <:+ fold text := by
  rw [like_percent]
  constructor
  · rintro ⟨tail, ⟨head, rfl⟩, matched⟩
    rw [like_exact literal] at matched
    exact ⟨fold head, by rw [← matched, fold, fold, fold, List.map_append]⟩
  · rintro ⟨rest, split⟩
    obtain ⟨head, tail, rfl, -, isTail⟩ := List.map_eq_append_iff.mp split.symm
    exact ⟨tail, ⟨head, rfl⟩, (like_exact literal tail).mpr isTail⟩

theorem fold_start {xs ys : List Char} (start : xs <+: ys) : fold xs <+: fold ys :=
  start.map _

theorem fold_end {xs ys : List Char} (ending : xs <:+ ys) : fold xs <:+ fold ys :=
  ending.map _

end Liratek.Lib.SqlLike
