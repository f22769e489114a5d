import Liratek.Money.AccountClasses
import Mathlib.Data.Prod.Lex
import Mathlib.Data.String.Basic

/-! The result of an account settlement names every row once, and its figures are the figures of the rows. -/

namespace Liratek.Money.AccountSettle
open FifoCoverage Lib.Coverage

variable {input : AllocInput}

/-! Rows and their references. -/

def refOf (row : AllocRow) : RowRef where
  kind := row.kind
  id := row.id

/-- No kind and id twice. -/
def DistinctRows (input : AllocInput) : Prop :=
  ((input.rows ++ input.accountCredits).map refOf).Nodup

instance (input : AllocInput) : Decidable (DistinctRows input) :=
  inferInstanceAs (Decidable (List.Nodup _))

theorem rowRef_of {i : Nat} {row : AllocRow} (isRow : (all input)[i]? = some row) : rowRef input i = refOf row := by
  rw [rowRef, isRow]
  rfl

theorem orig_of {i : Nat} {row : AllocRow} (isRow : (all input)[i]? = some row) :
    orig input i = toMinor input row.remaining := by
  rw [orig, isRow]
  rfl

theorem map_rowRef (input : AllocInput) : (indices input).map (rowRef input) = (all input).map refOf := by
  apply List.ext_getElem
  · rw [List.length_map, List.length_map, indices, List.length_range]
  · intro i inside _
    rw [List.length_map, indices, List.length_range] at inside
    simp [indices, rowRef, refOf, inside]

theorem rowRef_injective (distinct : DistinctRows input) {i j : Nat} (hasI : i < (all input).length)
    (hasJ : j < (all input).length) (same : rowRef input i = rowRef input j) : i = j := by
  have nodup : ((all input).map refOf).Nodup := ((all_perm input).map refOf).nodup_iff.mpr distinct
  rw [← map_rowRef] at nodup
  exact List.inj_on_of_nodup_map nodup (mem_indices.mpr hasI) (mem_indices.mpr hasJ) same

/-- The place of a day row. -/
theorem exists_day {row : AllocRow} (member : row ∈ input.rows) : ∃ i, i ∈ rowIdx input ∧ (all input)[i]? = some row := by
  have inside : row ∈ sorted input.rows := (List.mem_insertionSort _).mpr member
  obtain ⟨i, bound, here⟩ := List.getElem_of_mem inside
  have isDay : i < nRows input := by rwa [sorted, List.length_insertionSort] at bound
  refine ⟨i, mem_rowIdx.mpr isDay, ?_⟩
  rw [all, List.getElem?_append_left bound, List.getElem?_eq_getElem bound, here]

theorem day_row {i : Nat} (isDay : i ∈ rowIdx input) : ∃ row ∈ input.rows, (all input)[i]? = some row := by
  have bound : i < (sorted input.rows).length := by
    rw [sorted, List.length_insertionSort]
    exact mem_rowIdx.mp isDay
  refine ⟨(sorted input.rows)[i], (List.mem_insertionSort _).mp (List.getElem_mem bound), ?_⟩
  rw [all, List.getElem?_append_left bound, List.getElem?_eq_getElem bound]

theorem account_row {i : Nat} (isAccount : i ∈ acctIdx input) :
    ∃ row ∈ input.accountCredits, (all input)[i]? = some row := by
  obtain ⟨high, inside⟩ := mem_acctIdx.mp isAccount
  have length : (sorted input.rows).length = nRows input := List.length_insertionSort _ _
  have bound : i - (sorted input.rows).length < (sorted input.accountCredits).length := by
    have total := length_all input
    rw [length, sorted, List.length_insertionSort]
    omega
  refine ⟨(sorted input.accountCredits)[i - (sorted input.rows).length],
    (List.mem_insertionSort _).mp (List.getElem_mem bound), ?_⟩
  rw [all, List.getElem?_append_right (length ▸ high), List.getElem?_eq_getElem bound]

/-! The order of the rows. -/

def rowKey (row : AllocRow) : String ×ₗ Nat ×ₗ Nat :=
  toLex (row.createdAt, toLex (kindOrder row.kind, row.id))

theorem kindOrder_injective {a b : RowKind} (same : kindOrder a = kindOrder b) : a = b := by
  revert same
  cases a <;> cases b <;> decide

theorem rowLe_iff (a b : AllocRow) : rowLe a b = true ↔ rowKey a ≤ rowKey b := by
  unfold rowLe rowKey
  rw [Prod.Lex.toLex_le_toLex, Prod.Lex.toLex_le_toLex]
  split_ifs with time kind
  · rw [decide_eq_true_iff]
    exact (or_iff_left fun both => time both.1).symm
  · have differs : kindOrder a.kind ≠ kindOrder b.kind := fun same => kind (kindOrder_injective same)
    rw [decide_eq_true_iff]
    constructor
    · intro less
      exact Or.inr ⟨not_not.mp time, Or.inl (lt_of_le_of_ne less differs)⟩
    · rintro (less | ⟨-, less | ⟨same, -⟩⟩)
      · exact absurd (not_not.mp time) less.ne
      · exact less.le
      · exact same.le
  · rw [decide_eq_true_iff]
    constructor
    · intro less
      exact Or.inr ⟨not_not.mp time, Or.inr ⟨congrArg kindOrder (not_not.mp kind), less⟩⟩
    · rintro (less | ⟨-, less | ⟨-, small⟩⟩)
      · exact absurd (not_not.mp time) less.ne
      · exact absurd (congrArg kindOrder (not_not.mp kind)) less.ne
      · exact small

theorem refOf_of_key {a b : AllocRow} (same : rowKey a = rowKey b) : refOf a = refOf b := by
  have parts := Prod.mk.inj (toLex.injective same)
  have parts' := Prod.mk.inj (toLex.injective parts.2)
  rw [refOf, refOf, kindOrder_injective parts'.1, parts'.2]

theorem sorted_ordered (rows : List AllocRow) : (sorted rows).Pairwise fun a b => rowKey a ≤ rowKey b := by
  have total : Std.Total fun a b : AllocRow => rowLe a b = true :=
    ⟨fun a b => by rw [rowLe_iff, rowLe_iff]; exact le_total _ _⟩
  have trans : IsTrans AllocRow fun a b => rowLe a b = true :=
    ⟨fun a b c => by rw [rowLe_iff, rowLe_iff, rowLe_iff]; exact le_trans⟩
  exact (List.pairwise_insertionSort _ rows).imp fun {a b} le => (rowLe_iff a b).mp le

/-- Older day rows come first. -/
theorem lt_of_older {i j : Nat} {a b : AllocRow} (isDay : i ∈ rowIdx input) (isDay' : j ∈ rowIdx input)
    (isA : (all input)[i]? = some a) (isB : (all input)[j]? = some b) (older : rowLe a b = true)
    (differ : refOf a ≠ refOf b) : i < j := by
  have length : (sorted input.rows).length = nRows input := List.length_insertionSort _ _
  have hasI : i < (sorted input.rows).length := by rw [length]; exact mem_rowIdx.mp isDay
  have hasJ : j < (sorted input.rows).length := by rw [length]; exact mem_rowIdx.mp isDay'
  rw [all, List.getElem?_append_left hasI, List.getElem?_eq_getElem hasI] at isA
  rw [all, List.getElem?_append_left hasJ, List.getElem?_eq_getElem hasJ] at isB
  rcases lt_trichotomy i j with less | same | more
  · exact less
  · subst same
    exact absurd (congrArg refOf (Option.some.inj (isA.symm.trans isB))) differ
  · have ordered := List.pairwise_iff_getElem.mp (sorted_ordered input.rows) j i hasJ hasI more
    rw [Option.some.inj isA, Option.some.inj isB] at ordered
    exact absurd (refOf_of_key (le_antisymm ((rowLe_iff a b).mp older) ordered)) differ

/-! What the result reports of a row. -/

def coverageOf (takes : List ReportedTake) (ref : RowRef) : ℚ :=
  ((takes.filter fun t => t.ref = ref).map (·.amount)).sum

theorem coverageOf_cons (t : ReportedTake) (rest : List ReportedTake) (ref : RowRef) :
    coverageOf (t :: rest) ref = (if t.ref = ref then t.amount else 0) + coverageOf rest ref := by
  unfold coverageOf
  by_cases here : t.ref = ref
  · rw [List.filter_cons_of_pos (by simpa using here), if_pos here, List.map_cons, List.sum_cons]
  · rw [List.filter_cons_of_neg (by simpa using here), if_neg here, zero_add]

theorem fromMinor_add (a b : ℤ) : fromMinor input (a + b) = fromMinor input a + fromMinor input b := by
  unfold fromMinor
  push_cast
  ring

theorem fromMinor_sub (a b : ℤ) : fromMinor input (a - b) = fromMinor input a - fromMinor input b := by
  unfold fromMinor
  push_cast
  ring

theorem mem_indices_of_take {l : Ledger} (sane : Sane input l) {t : Take} (member : t ∈ l.takes) :
    t.i < (all input).length := by
  by_contra outside
  have empty : orig input t.i = 0 := by
    rw [orig, List.getElem?_eq_none (not_lt.mp outside)]
    rfl
  have covered := placed_pos sane.positive member
  have bound := sane.bounded t.i
  rw [cap, empty, abs_zero] at bound
  rw [sane.amounts] at covered
  omega

theorem coverageOf_report (distinct : DistinctRows input) {takes : List Take}
    (inside : ∀ t ∈ takes, t.i < (all input).length) {i : Nat} (hasI : i < (all input).length) :
    coverageOf (takes.map (reportedTake input)) (rowRef input i) = fromMinor input (placed takes i) := by
  induction takes with
  | nil => simp [coverageOf, placed, fromMinor]
  | cons t rest ih =>
    have same : (reportedTake input t).ref = rowRef input i ↔ t.i = i :=
      ⟨rowRef_injective distinct (inside t List.mem_cons_self) hasI, congrArg (rowRef input)⟩
    have split : placed (t :: rest) i = (if t.i = i then t.m else 0) + placed rest i := by
      rw [← placed_single, ← placed_append]
      rfl
    rw [List.map_cons, coverageOf_cons, ih fun t' member => inside t' (List.mem_cons_of_mem t member), split]
    by_cases here : t.i = i
    · rw [if_pos (same.mpr here), if_pos here, fromMinor_add]
      rfl
    · rw [if_neg fun other => here (same.mp other), if_neg here, zero_add, zero_add]

theorem coverageOf_settled (distinct : DistinctRows input) (standard : StandardEps input) {i : Nat}
    (hasI : i < (all input).length) :
    coverageOf (allocateAccountSettlement input).takes (rowRef input i) = fromMinor input ((settled input).taken i) := by
  have sane := (kept_settled standard).sane
  rw [← sane.amounts]
  exact coverageOf_report distinct (fun _ member => mem_indices_of_take sane member) hasI

theorem fromMinor_orig (whole : WholeRows input) {i : Nat} {row : AllocRow} (isRow : (all input)[i]? = some row) :
    fromMinor input (orig input i) = row.remaining := by
  have member : row ∈ all input := List.mem_of_getElem? isRow
  have units : ((toMinor input row.remaining : ℤ) : ℚ) = row.remaining * minorFactor input.currency :=
    mathRound_whole (whole row ((all_perm input).subset member))
  rw [orig_of isRow, fromMinor, units, mul_div_cancel_right₀ _ (minorFactor_ne_zero _)]

theorem fromMinor_pos {m : ℤ} : 0 < fromMinor input m ↔ 0 < m := by
  have factor : 0 < minorFactor input.currency := by
    cases input.currency <;> norm_num [minorFactor]
  rw [fromMinor, div_pos_iff_of_pos_right factor, Int.cast_pos]

/-- Half the rows of one class at most: what is found first is all there is. -/
theorem filter_of_unique {α : Type*} {p : α → Bool} {rows : List α} (distinct : rows.Nodup)
    (unique : ∀ a ∈ rows, ∀ b ∈ rows, p a = true → p b = true → a = b) : rows.filter p = (rows.find? p).toList := by
  induction rows with
  | nil => rfl
  | cons a rest ih =>
    obtain ⟨fresh, restDistinct⟩ := List.nodup_cons.mp distinct
    by_cases here : p a = true
    · have none : rest.filter p = [] := by
        rw [List.filter_eq_nil_iff]
        intro b member there
        have same : a = b := unique a List.mem_cons_self b (List.mem_cons_of_mem a member) here there
        exact fresh (same ▸ member)
      rw [List.filter_cons_of_pos here, none, List.find?_cons_of_pos here, Option.toList_some]
    · rw [List.filter_cons_of_neg here, List.find?_cons_of_neg here]
      exact ih restDistinct fun b hasB c hasC => unique b (List.mem_cons_of_mem a hasB) c (List.mem_cons_of_mem a hasC)

theorem firstPartial_refs (rows : List Nat) (distinct : rows.Nodup)
    (unique : ∀ i ∈ rows, ∀ j ∈ rows, rowClass input i = .partly → rowClass input j = .partly → i = j) :
    (firstPartial input rows).toList.map (·.ref) =
      (rows.filter fun i => rowClass input i = .partly).map (rowRef input) := by
  rw [filter_of_unique distinct fun i hasI j hasJ partI partJ =>
    unique i hasI j hasJ (of_decide_eq_true partI) (of_decide_eq_true partJ), firstPartial]
  cases rows.find? fun i => decide (rowClass input i = .partly) <;> rfl

theorem classes_perm (rows : List Nat) :
    (rows.filter (fun i => rowClass input i = .closed) ++ rows.filter (fun i => rowClass input i = .untouched) ++
      rows.filter fun i => rowClass input i = .partly).Perm rows := by
  induction rows with
  | nil => exact List.Perm.refl _
  | cons i rest ih =>
    cases here : rowClass input i with
    | closed => simpa [List.filter_cons, here] using ih
    | untouched =>
      simp only [List.filter_cons, here]
      simp only [reduceCtorEq, decide_false, decide_true, if_true, Bool.false_eq_true, if_false, List.append_assoc]
      rw [List.append_assoc] at ih
      exact List.perm_middle.trans (ih.cons i)
    | partly =>
      simp only [List.filter_cons, here]
      simp only [reduceCtorEq, decide_false, decide_true, if_true, Bool.false_eq_true, if_false]
      exact List.perm_middle.trans (ih.cons i)

/-- Every row is named once: as closed, untouched or one of the two part-covered rows. -/
theorem refs_perm (standard : StandardEps input) :
    ((allocateAccountSettlement input).closed ++ (allocateAccountSettlement input).untouched ++
      ((allocateAccountSettlement input).partialRow.toList.map (·.ref) ++
        (allocateAccountSettlement input).accountPartial.toList.map (·.ref))).Perm
      ((input.rows ++ input.accountCredits).map refOf) := by
  have distinct : (rowIdx input ++ acctIdx input).Nodup := by
    rw [rows_append]
    exact indices_distinct input
  have days := firstPartial_refs (rowIdx input) distinct.of_append_left fun i hasI j hasJ =>
    day_partly_unique standard hasI hasJ
  have accounts := firstPartial_refs (acctIdx input) distinct.of_append_right fun i hasI j hasJ =>
    account_partly_unique standard hasI hasJ
  change (refsOf input .closed ++ refsOf input .untouched ++ ((firstPartial input (rowIdx input)).toList.map (·.ref) ++
    (firstPartial input (acctIdx input)).toList.map (·.ref))).Perm _
  rw [days, accounts, refsOf, refsOf]
  simp only [← List.map_append, ← List.filter_append, rows_append]
  refine ((classes_perm (indices input)).map (rowRef input)).trans ?_
  rw [map_rowRef]
  exact (all_perm input).map refOf

/-! The classification. -/

/-- The figures of a part-covered row among `rows` are the row's own. -/
def TrueFigures (rows : List AllocRow) (takes : List ReportedTake) (p : Partial) : Prop :=
  ∃ row ∈ rows, p.ref = refOf row ∧ p.applied = coverageOf takes p.ref ∧ 0 < p.applied ∧ p.applied < |row.remaining| ∧
    p.remaining = if 0 < row.remaining then row.remaining - p.applied else row.remaining + p.applied

/-- What the result says of the rows. -/
structure Classified (input : AllocInput) (result : AllocResult) : Prop where
  once : (result.closed ++ result.untouched ++ (result.partialRow.toList.map (·.ref) ++
    result.accountPartial.toList.map (·.ref))).Perm ((input.rows ++ input.accountCredits).map refOf)
  distinct : (result.closed ++ result.untouched ++ (result.partialRow.toList.map (·.ref) ++
    result.accountPartial.toList.map (·.ref))).Nodup
  days : ∀ i ∈ rowIdx input, ∀ j ∈ rowIdx input, rowClass input i = .partly → rowClass input j = .partly → i = j
  accounts : ∀ i ∈ acctIdx input, ∀ j ∈ acctIdx input, rowClass input i = .partly → rowClass input j = .partly → i = j
  dayFigures : ∀ p, result.partialRow = some p → TrueFigures input.rows result.takes p
  accountFigures : ∀ p, result.accountPartial = some p → TrueFigures input.accountCredits result.takes p
  /-- a day row is covered only when every older day row of its sign is covered in full -/
  oldestFirst : ∀ a ∈ input.rows, ∀ b ∈ input.rows, rowLe a b = true → refOf a ≠ refOf b →
    0 < a.remaining * b.remaining → ∀ before t after, result.takes = before ++ t :: after → t.ref = refOf b →
      coverageOf before (refOf a) = |a.remaining|
  /-- so the covered day rows of a sign are its oldest, all but the last closed -/
  coveredFirst : ∀ a ∈ input.rows, ∀ b ∈ input.rows, rowLe a b = true → refOf a ≠ refOf b →
    0 < a.remaining * b.remaining → coverageOf result.takes (refOf b) ≠ 0 → refOf a ∈ result.closed

theorem fromMinor_abs (m : ℤ) : fromMinor input |m| = |fromMinor input m| := by
  have factor : 0 < minorFactor input.currency := by
    cases input.currency <;> norm_num [minorFactor]
  rw [fromMinor, fromMinor, abs_div, abs_of_pos factor, Int.cast_abs]

theorem orig_pos_iff (whole : WholeRows input) {i : Nat} {row : AllocRow} (isRow : (all input)[i]? = some row) :
    0 < orig input i ↔ 0 < row.remaining := by
  rw [← @fromMinor_pos input, fromMinor_orig whole isRow]

/-- The first part-covered row of a class reports its own figures. -/
theorem firstPartial_figures (standard : StandardEps input) (whole : WholeRows input) (distinct : DistinctRows input)
    {places : List Nat} {rows : List AllocRow}
    (isRow : ∀ i ∈ places, ∃ row ∈ rows, (all input)[i]? = some row) {p : Partial}
    (found : firstPartial input places = some p) :
    TrueFigures rows (allocateAccountSettlement input).takes p := by
  obtain ⟨i, isFirst, rfl⟩ := Option.map_eq_some_iff.mp found
  have answer := List.find?_some isFirst
  have partly : rowClass input i = .partly := of_decide_eq_true answer
  obtain ⟨isOpen, covered⟩ := (rowClass_partly standard i).mp partly
  obtain ⟨row, member, here⟩ := isRow i (List.mem_of_find?_eq_some isFirst)
  have inside : i < (all input).length := (List.getElem?_eq_some_iff.mp here).1
  have sane := (kept_settled standard).sane
  have positive : 0 < (settled input).taken i := lt_of_le_of_ne (sane.nonneg i) covered.symm
  have short : (settled input).taken i < cap input i := by
    refine lt_of_le_of_ne (sane.bounded i) fun full => isOpen ?_
    rw [sane.rem, full, sub_self, mul_zero]
  have amount := fromMinor_orig whole here
  refine ⟨row, member, rowRef_of here, ?_, fromMinor_pos.mpr positive, ?_, ?_⟩
  · exact (coverageOf_settled distinct standard inside).symm
  · rw [← amount, ← fromMinor_abs, ← sub_pos, ← fromMinor_sub]
    exact fromMinor_pos.mpr (sub_pos.mpr short)
  · have left : (settled input).rem i = orig input i - side input i * (settled input).taken i := by
      rw [sane.rem, mul_sub, side_mul_cap]
    change fromMinor input ((settled input).rem i) = _
    rw [left]
    split_ifs with isDebt
    · rw [side_of_pos ((orig_pos_iff whole here).mpr isDebt), one_mul, fromMinor_sub, amount]
    · have low : orig input i ≤ 0 := not_lt.mp fun high => isDebt ((orig_pos_iff whole here).mp high)
      rw [side_of_nonpos low, neg_one_mul, sub_neg_eq_add, fromMinor_add, amount]

/-- Day rows of one sign, the older first, queue up. -/
theorem sameQueue_of_rows (whole : WholeRows input) {i j : Nat} {a b : AllocRow} (isDay : i ∈ rowIdx input)
    (isDay' : j ∈ rowIdx input) (isA : (all input)[i]? = some a) (isB : (all input)[j]? = some b)
    (alike : 0 < a.remaining * b.remaining) : SameQueue input i j := by
  refine ⟨iff_of_true (mem_rowIdx.mp isDay) (mem_rowIdx.mp isDay'), ?_, fun empty => ?_⟩
  · unfold side
    rw [if_congr (orig_pos_iff whole isA) rfl rfl, if_congr (orig_pos_iff whole isB) rfl rfl]
    refine if_congr ⟨fun isDebt => (pos_iff_pos_of_mul_pos alike).mp isDebt, fun isDebt =>
      (pos_iff_pos_of_mul_pos alike).mpr isDebt⟩ rfl rfl
  · have amount := fromMinor_orig whole isA
    rw [empty] at amount
    rw [← amount] at alike
    simp [fromMinor] at alike

/-- Every row of an account settlement in whole minor units lands in one class, and each sign of the day rows is
covered oldest first. -/
theorem settlement_classifies (input : AllocInput) (standard : StandardEps input) (whole : WholeRows input)
    (distinct : DistinctRows input) : Classified input (allocateAccountSettlement input) where
  once := refs_perm standard
  distinct := (refs_perm standard).nodup_iff.mpr distinct
  days _ hasI _ hasJ := day_partly_unique standard hasI hasJ
  accounts _ hasI _ hasJ := account_partly_unique standard hasI hasJ
  dayFigures _ found := firstPartial_figures standard whole distinct (fun _ => day_row) found
  accountFigures _ found := firstPartial_figures standard whole distinct (fun _ => account_row) found
  oldestFirst a hasA b hasB older differ alike before t after split isB := by
    obtain ⟨i, isDay, isRow⟩ := exists_day hasA
    obtain ⟨j, isDay', isRow'⟩ := exists_day hasB
    have kept := kept_settled standard
    have insideI : i < (all input).length := (List.getElem?_eq_some_iff.mp isRow).1
    have insideJ : j < (all input).length := (List.getElem?_eq_some_iff.mp isRow').1
    obtain ⟨takes, rest, parts, isBefore, isRest⟩ := List.map_eq_append_iff.mp split
    obtain ⟨take, later, isTake, isT, -⟩ := List.map_eq_cons_iff.mp isRest
    rw [isTake] at parts
    have inside : ∀ x ∈ takes, x.i < (all input).length := fun x member =>
      mem_indices_of_take kept.sane (parts ▸ List.mem_append_left _ member)
    have isJ : take.i = j := by
      have member : take ∈ (settled input).takes := parts ▸ List.mem_append_right _ List.mem_cons_self
      refine rowRef_injective distinct (mem_indices_of_take kept.sane member) insideJ ?_
      rw [rowRef_of isRow', ← isB, ← isT]
      rfl
    have earlier : i < take.i := isJ ▸ lt_of_older isDay isDay' isRow isRow' older differ
    have queue : SameQueue input i take.i := isJ ▸ sameQueue_of_rows whole isDay isDay' isRow isRow' alike
    rw [← isBefore, ← rowRef_of isRow, coverageOf_report distinct inside insideI, kept.full_before parts earlier queue,
      cap, fromMinor_abs, fromMinor_orig whole isRow]
  coveredFirst a hasA b hasB older differ alike covered := by
    obtain ⟨i, isDay, isRow⟩ := exists_day hasA
    obtain ⟨j, isDay', isRow'⟩ := exists_day hasB
    have kept := kept_settled standard
    have insideI : i < (all input).length := (List.getElem?_eq_some_iff.mp isRow).1
    have insideJ : j < (all input).length := (List.getElem?_eq_some_iff.mp isRow').1
    have taken : (settled input).taken j ≠ 0 := by
      intro none
      rw [← rowRef_of isRow', coverageOf_settled distinct standard insideJ, none] at covered
      exact covered (by simp [fromMinor])
    have closed := kept.closed_of_later (lt_of_older isDay isDay' isRow isRow' older differ)
      (sameQueue_of_rows whole isDay isDay' isRow isRow' alike) taken
    rw [← rowRef_of isRow]
    apply List.mem_map_of_mem
    exact List.mem_filter.mpr ⟨mem_indices.mpr insideI, decide_eq_true (rowClass_closed standard closed)⟩

/-- One day row is left part-paid and one account credit part-used. -/
theorem settlement_classifies_mixed : Classified mixedInput (allocateAccountSettlement mixedInput) ∧
    (allocateAccountSettlement mixedInput).partialRow =
      some { ref := { kind := .ledger, id := 3 }, applied := 27 / 2, remaining := 13 / 2 } ∧
    (allocateAccountSettlement mixedInput).accountPartial =
      some { ref := { kind := .ledger, id := 4 }, applied := 8, remaining := -7 / 10 } :=
  ⟨settlement_classifies mixedInput (by decide +kernel) (by decide +kernel) (by decide +kernel), by decide +kernel,
    by decide +kernel⟩

end Liratek.Money.AccountSettle
