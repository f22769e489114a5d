import Liratek.Warranty.ClaimLinks

/-! The cost rows of claims, summed by kind as the report sums them. -/

namespace Liratek.Warranty.ClaimCosts
open Lib Lib.Rounding ClaimTables WarrantyClaims ClaimWrites

/-- In dollars, in lira, and as a count that a reversal takes back. -/
abbrev Worth : Type := ℚ × ℚ × ℤ

def worth (row : WarrantyCost) : Worth :=
  (row.profitUsd, row.profitLbp, if row.kind = .reversal then -1 else 1)

/-- What the rows of some claims come to, in one kind of the report. -/
def booked (costs : Table WarrantyCost) (of : ℕ → Bool) (kind : WarrantyCostKind) : Worth :=
  costs.total fun row => if of row.claimId && kindOf costs row = some kind then worth row else 0

/-- Rounded as a row is rounded, so that it can be taken back whole. -/
structure WholeRow (row : WarrantyCost) : Prop where
  usd : Whole 100 row.profitUsd
  lbp : ∃ lira : ℤ, row.profitLbp = lira

theorem row_whole (input : CostInput) : WholeRow input.row :=
  ⟨roundTo_whole _ _, round input.lbp, rfl⟩

section
variable {s : System} {of : ℕ → Bool} {kind : WarrantyCostKind}

theorem kindOf_plain {costs : Table WarrantyCost} {row : WarrantyCost} (plain : row.kind ≠ .reversal) :
    kindOf costs row = some row.kind :=
  if_neg plain

/-- The kind of a row does not change as rows are added. -/
theorem kindOf_grows (linked : Linked s) {costs : Table WarrantyCost}
    (grows : ∀ c row, s.costs.get c = some row → costs.get c = some row) {c : ℕ} {row : WarrantyCost}
    (there : s.costs.get c = some row) : kindOf costs row = kindOf s.costs row := by
  unfold kindOf
  split_ifs with reversal
  · obtain ⟨r, reverses⟩ := Option.ne_none_iff_exists'.mp ((linked.reversals c row there).mpr reversal)
    obtain ⟨original, originalThere, -⟩ := linked.reversed c row r there reverses
    rw [reverses, Option.bind_some, Option.bind_some, originalThere, grows r original originalThere]
  · rfl

theorem booked_insert (linked : Linked s) {row : WarrantyCost} (plain : row.kind ≠ .reversal) :
    booked (s.costs.insert row) of kind = booked s.costs of kind + if of row.claimId && row.kind = kind then worth row else 0 := by
  have last : (of row.claimId && decide (kindOf (s.costs.insert row) row = some kind)) = (of row.claimId && decide (row.kind = kind)) := by
    rw [kindOf_plain plain]
    exact congrArg _ (decide_eq_decide.mpr Option.some_inj)
  unfold booked
  rw [Table.total_insert, last]
  congr 1
  refine Table.total_congr fun c old there => ?_
  rw [kindOf_grows linked (fun _ _ => Table.get_insert_of_get) there]

theorem booked_insert_other (linked : Linked s) {row : WarrantyCost} (plain : row.kind ≠ .reversal) (other : row.kind ≠ kind) :
    booked (s.costs.insert row) of kind = booked s.costs of kind := by
  rw [booked_insert linked plain, decide_eq_false other, Bool.and_false]
  exact add_zero _

theorem booked_insert_elsewhere (linked : Linked s) {row : WarrantyCost} (plain : row.kind ≠ .reversal)
    (elsewhere : of row.claimId = false) : booked (s.costs.insert row) of kind = booked s.costs of kind := by
  rw [booked_insert linked plain, elsewhere, Bool.false_and]
  exact add_zero _

theorem booked_none (costs : Table WarrantyCost) (kind : WarrantyCostKind) : booked costs (fun _ => false) kind = 0 :=
  Table.total_eq_zero fun _ _ _ => rfl

/-- The rows of a claim and those of no claim but the others. -/
theorem booked_split (costs : Table WarrantyCost) (of : ℕ → Bool) (id : ℕ) (kind : WarrantyCostKind) :
    booked costs of kind = booked costs (fun c => of c && c ≠ id) kind + booked costs (fun c => of c && c = id) kind := by
  unfold booked
  rw [← Table.total_add]
  refine Table.total_congr fun c row _ => ?_
  by_cases isIt : row.claimId = id
  · simp [isIt]
  · simp [isIt]

/-- A row that takes back a whole row has its worth, the other way. -/
theorem worth_reversal {claimId userId r : ℕ} {row : WarrantyCost} (whole : WholeRow row) (plain : row.kind ≠ .reversal) :
    worth (reversalOf claimId userId (r, row)).row = -worth row := by
  obtain ⟨lira, isLira⟩ := whole.lbp
  have usd : roundTo 100 (-row.profitUsd) = -row.profitUsd := whole.usd.neg.roundTo (by norm_num)
  have lbp : ((round (-row.profitLbp) : ℤ) : ℚ) = -row.profitLbp := by
    rw [isLira, ← Int.cast_neg, round_intCast]
  unfold worth
  rw [if_neg plain]
  exact Prod.ext usd (Prod.ext lbp rfl)

/-- The reversals of a claim's rows take back what its rows have booked. -/
theorem booked_reversals (linked : Linked s) (whole : ∀ c row, s.costs.get c = some row → WholeRow row) {id : ℕ} (userId : ℕ)
    {claim : WarrantyClaim} (there : s.claims.get id = some claim) (live : claim.status ≠ .voided) (of : ℕ → Bool)
    (kind : WarrantyCostKind) {costs : Table WarrantyCost} (grows : ∀ c row, s.costs.get c = some row → costs.get c = some row) :
    ((reversalRows s.costs id userId).map fun row =>
      if of row.claimId && kindOf costs row = some kind then worth row else 0).sum +
        booked s.costs (fun c => of c && c = id) kind = 0 := by
  have each : ∀ row ∈ costRowsForClaim s.costs id, (if of (reversalOf id userId row).row.claimId &&
        kindOf costs (reversalOf id userId row).row = some kind then worth (reversalOf id userId row).row else 0) =
      if of row.2.claimId && kindOf s.costs row.2 = some kind then -worth row.2 else 0 := by
    rintro ⟨r, row⟩ member
    obtain ⟨isRow, isOf⟩ := Table.mem_select.mp member
    have ofClaim : row.claimId = id := of_decide_eq_true isOf
    have plain := linked.plain isRow (by rw [ofClaim, there]) live
    have sameKind : kindOf costs (reversalOf id userId (r, row)).row = kindOf s.costs row := by
      rw [kindOf_plain plain]
      exact congrArg (Option.map (·.kind)) (grows r row isRow)
    rw [sameKind, worth_reversal (whole r row isRow) plain, ofClaim]
    rfl
  have selected := Table.sum_select s.costs (fun row => row.claimId = id) fun row =>
    if of row.claimId && kindOf s.costs row = some kind then -worth row else 0
  rw [reversalRows, List.map_map]
  refine (congrArg (· + _) ((congrArg List.sum (List.map_congr_left each)).trans selected)).trans ?_
  unfold booked
  rw [← Table.total_add]
  refine Table.total_eq_zero fun c row _ => ?_
  by_cases isIt : row.claimId = id
  · simp only [isIt, decide_true, if_true, Bool.and_true]
    split_ifs
    · exact neg_add_cancel _
    · exact add_zero 0
  · simp [isIt]

/-- A void leaves the rows of the other claims, in every kind. -/
theorem booked_voided (linked : Linked s) (whole : ∀ c row, s.costs.get c = some row → WholeRow row) {id : ℕ} (userId : ℕ)
    {claim : WarrantyClaim} (there : s.claims.get id = some claim) (live : claim.status ≠ .voided) :
    booked (s.costs.insertAll (reversalRows s.costs id userId)) of kind = booked s.costs (fun c => of c && c ≠ id) kind := by
  have grows : ∀ c row, s.costs.get c = some row → (s.costs.insertAll (reversalRows s.costs id userId)).get c = some row :=
    fun _ _ => Table.get_insertAll_of_get
  have old : (s.costs.total fun row => if of row.claimId &&
        kindOf (s.costs.insertAll (reversalRows s.costs id userId)) row = some kind then worth row else 0) = booked s.costs of kind :=
    Table.total_congr fun c row isRow => by rw [kindOf_grows linked grows isRow]
  have reversals := booked_reversals linked whole userId there live of kind grows
  rw [add_comm] at reversals
  rw [booked, Table.total_insertAll, old, booked_split s.costs of id kind, add_assoc, reversals, add_zero]

theorem booked_voided_other (linked : Linked s) (whole : ∀ c row, s.costs.get c = some row → WholeRow row) {id other : ℕ} (userId : ℕ)
    {claim : WarrantyClaim} (there : s.claims.get id = some claim) (live : claim.status ≠ .voided) (ne : other ≠ id)
    (kind : WarrantyCostKind) :
    booked (s.costs.insertAll (reversalRows s.costs id userId)) (· = other) kind = booked s.costs (· = other) kind := by
  have notIt : (fun c => decide (c = other) && decide (c ≠ id)) = fun c => decide (c = other) := by
    funext c
    by_cases isOther : c = other
    · simp [isOther, ne]
    · simp [isOther]
  rw [booked_voided linked whole userId there live, notIt]

end

end Liratek.Warranty.ClaimCosts
