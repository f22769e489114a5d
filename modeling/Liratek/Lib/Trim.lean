import Mathlib.Data.String.Basic

/-! The white space that `trim` takes off both ends of a text. -/

namespace Liratek.Lib.Trim

def isSpace (c : Char) : Bool :=
  (9 ≤ c.toNat && c.toNat ≤ 13) || (0x2000 ≤ c.toNat && c.toNat ≤ 0x200A) ||
    [0x20, 0xA0, 0x1680, 0x2028, 0x2029, 0x202F, 0x205F, 0x3000, 0xFEFF].contains c.toNat

def trim (text : List Char) : List Char :=
  ((text.dropWhile isSpace).reverse.dropWhile isSpace).reverse

theorem dropWhile_noSpace {text : List Char} (noSpace : ∀ c ∈ text, isSpace c = false) : text.dropWhile isSpace = text := by
  cases text with
  | nil => rfl
  | cons c rest =>
    refine List.dropWhile_cons_of_neg ?_
    rw [noSpace c List.mem_cons_self]
    exact Bool.false_ne_true

/-- A text without white space stays as it is. -/
theorem trim_noSpace {text : List Char} (noSpace : ∀ c ∈ text, isSpace c = false) : trim text = text := by
  unfold trim
  rw [dropWhile_noSpace noSpace, dropWhile_noSpace fun c member => noSpace c (List.mem_reverse.mp member), List.reverse_reverse]

theorem isSpace_digit {c : Char} (digit : c.isDigit = true) : isSpace c = false := by
  have range : 48 ≤ c.toNat ∧ c.toNat ≤ 57 := Char.isDigit_iff_toNat.mp digit
  have other : [0x20, 0xA0, 0x1680, 0x2028, 0x2029, 0x202F, 0x205F, 0x3000, 0xFEFF].contains c.toNat = false := by
    rw [List.contains_eq_mem, decide_eq_false_iff_not]
    simp only [List.mem_cons, List.not_mem_nil, or_false, not_or]
    omega
  unfold isSpace
  rw [other, Bool.or_false, Bool.or_eq_false_iff, Bool.and_eq_false_iff, Bool.and_eq_false_iff]
  simp only [decide_eq_false_iff_not]
  omega

end Liratek.Lib.Trim
