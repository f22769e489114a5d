import Liratek.Basket.RefundedLines

/-! The shares of a basket's extra that its item refunds give back, over every order of refunds and undos. -/

namespace Liratek.Basket.ExtraReturned
open Lib Lib.Calls Lib.Rounding Members MemberOwed ExtraShare RefundedLines
open ItemRefund (RefundLine roundToUnit roundToUnit_unit pair)
open Money.LargestRemainder (mathRound)

/-- Rounding takes a whole amount off as it is. -/
theorem roundAmount_sub_whole {c : CoverageCurrency} (x : ℚ) {y : ℚ} (whole : WholeIn c y) :
    roundAmount c (x - y) = roundAmount c x - y := by
  obtain ⟨units, rfl⟩ := whole
  have positive := scale_pos c
  rw [roundAmount_eq, roundAmount_eq, roundTo, roundTo, sub_mul, div_mul_cancel₀ _ positive.ne', round_sub_intCast,
    Int.cast_sub, sub_div]

/-! The refunds that stand. -/

def isRefund (sessionId : Nat) (row : ReturnRow) : Bool :=
  !row.isUndo && row.isActive && row.sessionId = sessionId

/-- The item refunds of the basket that are not undone. -/
def standing (s : Store) (sessionId : Nat) : List (Nat × ReturnRow) :=
  (s.returns.select (isRefund sessionId)).filter fun r => !alreadyUndone s r.1

def share (row : ReturnRow) : Amounts :=
  -row.extra

/-- What the item was worth, without its share. -/
def itemValue (row : ReturnRow) : Amounts :=
  fun c => -row.amount c + row.extra c

/-- The shares given back and not undone. -/
def given (s : Store) (sessionId : Nat) : Amounts :=
  fun c => ((standing s sessionId).map fun r => share r.2 c).sum

/-- What is refunded of the items and not undone, in dollars at a rate. -/
def refundedValue (s : Store) (sessionId : Nat) (rate : ℚ) : ℚ :=
  ((standing s sessionId).map fun r => valueAt rate (itemValue r.2)).sum

/-- The extra to the cent and to the whole pound. -/
def roundedExtra (extra : Amounts) : Amounts :=
  fun c => roundAmount c (extra c)

/-- A basket with an extra on top of what its items cost. -/
structure ExtraBooked (s : Store) (sessionId : Nat) (extra : Amounts) (rate : ℚ) : Prop where
  row : ∃ m, extraCharge s sessionId = some m ∧ m.extra = extra ∧ m.exchangeRate = some rate
  ratePos : 0 < rate
  nonneg : ∀ c, 0 ≤ extra c
  charged : 0 < valueAt rate (itemCharge s sessionId)

/-- What the rows of the refunds and undos add up to is what stands. -/
structure Totals (s : Store) (sessionId : Nat) (rate : ℚ) : Prop where
  extra : ∀ c, (returned s sessionId fun r => r.extra c) = -given s sessionId c
  value : valueAt rate (fun c => returned s sessionId fun r => -r.amount c + r.extra c) = refundedValue s sessionId rate

/-! One share. -/

section
variable {s : Store} {sessionId : Nat} {extra : Amounts} {rate : ℚ}

/-- The shares so far, within the extra. -/
structure Within (s : Store) (sessionId : Nat) (extra : Amounts) : Prop where
  nonneg : ∀ c, 0 ≤ given s sessionId c
  le : ∀ c, given s sessionId c ≤ roundedExtra extra c
  whole : ∀ c, WholeIn c (given s sessionId c)

theorem remaining_eq (totals : Totals s sessionId rate) (within : Within s sessionId extra) (c : CoverageCurrency) :
    max 0 (roundToUnit (extra c + returned s sessionId fun r => r.extra c) (unit c)) =
      roundedExtra extra c - given s sessionId c := by
  rw [totals.extra, ← sub_eq_add_neg, roundToUnit_unit, roundAmount_sub_whole _ (within.whole c)]
  exact max_eq_right (sub_nonneg.mpr (within.le c))

/-- What is remembered of a share: it is part of what remains, and takes all of it when nothing else is left. -/
structure TakesShare (s : Store) (sessionId : Nat) (extra : Amounts) (rate : ℚ) (item taken : Amounts) : Prop where
  nonneg : ∀ c, 0 ≤ taken c
  le : ∀ c, given s sessionId c + taken c ≤ roundedExtra extra c
  whole : ∀ c, WholeIn c (taken c)
  nothing : valueAt rate item ≤ 0 → taken = 0
  last : 0 < valueAt rate item →
    valueAt rate (itemCharge s sessionId) ≤ refundedValue s sessionId rate + valueAt rate item →
    ∀ c, given s sessionId c + taken c = roundedExtra extra c

theorem sessionExtraState_none (booked : ExtraBooked s sessionId extra rate) (nothing : extra .usd ≤ 0 ∧ extra .lbp ≤ 0) :
    sessionExtraState s sessionId = none := by
  obtain ⟨m, isExtra, rfl, -⟩ := booked.row
  rw [sessionExtraState, isExtra, Option.bind_some, if_pos nothing]

theorem sessionExtraState_some (booked : ExtraBooked s sessionId extra rate) (totals : Totals s sessionId rate)
    (within : Within s sessionId extra) (something : ¬(extra .usd ≤ 0 ∧ extra .lbp ≤ 0)) :
    sessionExtraState s sessionId = some
      { extra := extra
        rate := some rate
        remaining := roundedExtra extra - given s sessionId
        refundedItemValueUsdEq := refundedValue s sessionId rate } := by
  obtain ⟨m, isExtra, rfl, isRate⟩ := booked.row
  have filtered : (some rate).filter (fun rate => decide (0 < rate)) = some rate :=
    Option.filter_eq_some_iff.mpr ⟨rfl, decide_eq_true booked.ratePos⟩
  rw [sessionExtraState, isExtra, Option.bind_some, if_neg something, isRate, filtered]
  dsimp only
  congr 2
  · exact funext fun c => remaining_eq totals within c
  · exact totals.value

theorem takesShare (booked : ExtraBooked s sessionId extra rate) (totals : Totals s sessionId rate)
    (within : Within s sessionId extra) (item : Amounts) (fallbackRate : ℚ) :
    TakesShare s sessionId extra rate item (sessionItemExtraShare s sessionId item fallbackRate) := by
  have remains (c : CoverageCurrency) : 0 ≤ (roundedExtra extra - given s sessionId) c := sub_nonneg.mpr (within.le c)
  -- a share of nothing, where nothing is left or the item is worth nothing
  have zero (all : (∀ c, given s sessionId c = roundedExtra extra c) ∨ valueAt rate item ≤ 0) :
      TakesShare s sessionId extra rate item 0 := by
    refine ⟨fun _ => le_rfl, fun c => (add_zero _).trans_le (within.le c), fun _ => whole_zero _, fun _ => rfl, fun some' _ c => ?_⟩
    rcases all with all | worthless
    · exact (add_zero _).trans (all c)
    · exact absurd some' (not_lt.mpr worthless)
  unfold sessionItemExtraShare
  by_cases noExtra : extra .usd ≤ 0 ∧ extra .lbp ≤ 0
  · rw [sessionExtraState_none booked noExtra]
    refine zero (.inl fun c => le_antisymm (within.le c) ?_)
    have isZero : extra c = 0 := le_antisymm (by cases c; exacts [noExtra.1, noExtra.2]) (booked.nonneg c)
    rw [roundedExtra, isZero, roundAmount_of_whole (whole_zero _)]
    exact within.nonneg c
  · rw [sessionExtraState_some booked totals within noExtra]
    dsimp only [Option.getD_some]
    split_ifs with nothingLeft worthless isLast
    · refine zero (.inl fun c => ?_)
      have none : (roundedExtra extra - given s sessionId) c ≤ 0 := by cases c; exacts [nothingLeft.1, nothingLeft.2]
      exact le_antisymm (within.le c) (sub_nonpos.mp none)
    · exact zero (.inr (worthless.resolve_left (not_le.mpr booked.charged)))
    · refine ⟨remains, fun c => (add_sub_cancel _ _).le, fun c => (roundAmount_whole c _).sub (within.whole c), fun none => ?_,
        fun _ _ c => add_sub_cancel _ _⟩
      exact absurd (.inr none) worthless
    · obtain ⟨charged, valued⟩ := not_or.mp worthless
      have ratioNonneg : 0 ≤ min 1 (valueAt rate item / valueAt rate (itemCharge s sessionId)) :=
        le_min zero_le_one (div_nonneg (not_le.mp valued).le (not_le.mp charged).le)
      refine ⟨fun c => le_min (remains c) ?_, fun c => ?_, fun c => ?_, fun none => absurd none valued, fun _ reaches => ?_⟩
      · rw [roundToUnit_unit, roundAmount_eq]
        exact roundTo_nonneg (scale_pos c) (mul_nonneg (booked.nonneg c) ratioNonneg)
      · exact (add_le_add_right (min_le_left _ _) _).trans (add_sub_cancel _ _).le
      · refine Whole.min ((roundAmount_whole c _).sub (within.whole c)) ?_
        rw [roundToUnit_unit]
        exact roundAmount_whole c _
      · exact absurd (by linarith) isLast

end

/-! What stands after a refund and after an undo. -/

section
variable {s : Store} {sessionId : Nat} {row : ReturnRow}

/-- The undos name refunds booked before them. -/
def References (s : Store) : Prop :=
  ∀ id row target, s.returns.get id = some row → row.refundTransactionId = some target → target < s.returns.nextId

theorem alreadyUndone_lt (references : References s) {id : Nat} (undone : alreadyUndone s id = true) : id < s.returns.nextId := by
  obtain ⟨⟨undoId, undo⟩, member, isUndo⟩ := List.any_eq_true.mp undone
  simp only [Bool.and_eq_true, decide_eq_true_eq] at isUndo
  exact references undoId undo id (Table.mem_rows.mp member) isUndo.2

/-- The store with one row more and any sale lines. -/
def booking (s : Store) (row : ReturnRow) (items : Table SaleItem) (refundedSales : List Nat) : Store :=
  { s with saleItems := items, returns := s.returns.insert row, refundedSales := refundedSales }

variable {items : Table SaleItem} {refundedSales : List Nat}

theorem references_booking (references : References s) (earlier : ∀ target, row.refundTransactionId = some target → target < s.returns.nextId) :
    References (booking s row items refundedSales) := by
  intro id found target got names
  rw [booking, Table.nextId_insert]
  rcases Table.get_insert got with old | ⟨-, rfl⟩
  · exact Nat.lt_succ_of_lt (references id found target old names)
  · exact Nat.lt_succ_of_lt (earlier target names)

theorem alreadyUndone_booking (id : Nat) : alreadyUndone (booking s row items refundedSales) id =
    (alreadyUndone s id || (row.isUndo && row.isActive && row.refundTransactionId = some id)) := by
  rw [alreadyUndone, booking, Table.rows_insert, List.any_append]
  simp [alreadyUndone]

theorem returned_booking (isActive : row.isActive = true) (isSession : row.sessionId = sessionId) (figure : ReturnRow → ℚ) :
    returned (booking s row items refundedSales) sessionId figure = returned s sessionId figure + figure row := by
  rw [returned, booking, Table.total_insert, if_pos ⟨isSession, isActive⟩]
  rfl

theorem standing_refund (references : References s) (isRow : isRefund sessionId row = true) :
    standing (booking s row items refundedSales) sessionId = standing s sessionId ++ [(s.returns.nextId, row)] := by
  have isNoUndo : row.isUndo = false := by
    simp only [isRefund, Bool.and_eq_true, Bool.not_eq_true'] at isRow
    exact isRow.1.1
  have fresh : alreadyUndone s s.returns.nextId = false := by
    by_contra undone
    exact absurd (alreadyUndone_lt references (Bool.not_eq_false _ ▸ undone)) (lt_irrefl _)
  have same (id : Nat) : alreadyUndone (booking s row items refundedSales) id = alreadyUndone s id := by
    rw [alreadyUndone_booking, isNoUndo, Bool.false_and, Bool.false_and, Bool.or_false]
  unfold standing
  simp only [same]
  rw [booking, Table.select_insert, if_pos isRow, List.filter_append, List.filter_singleton, fresh]
  rfl

theorem standing_undo (isUndo : row.isUndo = true) (isActive : row.isActive = true) {target : Nat}
    (names : row.refundTransactionId = some target) :
    standing (booking s row items refundedSales) sessionId = (standing s sessionId).filter fun r => r.1 ≠ target := by
  have isNone : isRefund sessionId row = false := by
    rw [isRefund, isUndo, Bool.not_true, Bool.false_and, Bool.false_and]
  unfold standing
  rw [List.filter_filter, booking, Table.select_insert, isNone]
  simp only [Bool.false_eq_true, if_false, List.append_nil]
  refine List.filter_congr fun r _ => ?_
  rw [← booking, alreadyUndone_booking, isUndo, isActive, names]
  simp [eq_comm, Bool.and_comm]

end

/-! The basket and its runs. -/

def inBasket (members : List Member) (sessionId saleId : Nat) : Bool :=
  members.any fun m => m.sessionId = sessionId && saleOf m = some saleId

/-- The items of the basket that are no sale, refunded as a whole. -/
def plainItems (members : List Member) (sessionId : Nat) : List Member :=
  members.filter fun m => m.sessionId = sessionId && m.type = .item

section
variable (s : Store) (sessionId : Nat) (rate : ℚ)

def unitOf (item : SaleItem) : ℚ :=
  if inBasket s.members sessionId item.saleId then unitValue s.sales item else 0

def wholeValue (m : Member) : ℚ :=
  valueAt rate fun c => |m.booked c|

/-- What the item refunds of the basket can refund in all, in dollars at a rate. -/
def refundable : ℚ :=
  (s.saleItems.total fun item => unitOf s sessionId item * item.quantity) +
    ((plainItems s.members sessionId).map (wholeValue rate)).sum

def refundedAsWhole (transactionId : Nat) : Bool :=
  s.returns.rows.any fun row => !row.2.isUndo && row.2.isActive && row.2.reversesId = some transactionId

/-- As `refundable`, of what is refunded. -/
def refundedOf : ℚ :=
  (s.saleItems.total fun item => unitOf s sessionId item * item.refundedQuantity) +
    ((plainItems s.members sessionId).map fun m =>
      if refundedAsWhole s m.transactionId then wholeValue rate m else 0).sum

end

theorem wholeValue_nonneg {rate : ℚ} (positive : 0 < rate) (m : Member) : 0 ≤ wholeValue rate m :=
  add_nonneg (abs_nonneg _) (div_nonneg (abs_nonneg _) positive.le)

/-- What no refund changes. -/
structure BasketItems (s : Store) (sessionId : Nat) (extra : Amounts) (rate : ℚ) : Prop extends
    ExtraBooked s sessionId extra rate where
  /-- an item of a basket takes no extra of its own -/
  plain : ∀ m ∈ s.members, m.sessionId = sessionId → m.type = .item → (∀ c, 0 ≤ m.booked c) ∧ m.extra = 0
  prices : ∀ id item, s.saleItems.get id = some item → inBasket s.members sessionId item.saleId → 0 ≤ item.soldPriceUsd
  /-- the final amount of a sale is not negative, nor is its own extra -/
  sales : ∀ saleId sale, s.sales saleId = some sale → inBasket s.members sessionId saleId →
    sale.discountUsd ≤ sale.totalAmountUsd ∧ 0 ≤ sale.extraUsd
  /-- the charges of the items are what can be refunded of them -/
  charge : valueAt rate (itemCharge s sessionId) = refundable s sessionId rate

/-- A basket with an extra, before any refund. -/
structure ExtraBasket (s : Store) (sessionId : Nat) (extra : Amounts) (rate : ℚ) : Prop extends
    BasketItems s sessionId extra rate where
  references : References s
  noReturns : ∀ id row, s.returns.get id = some row → row.sessionId ≠ sessionId
  noRefunded : ∀ id item, s.saleItems.get id = some item → inBasket s.members sessionId item.saleId →
    item.refundedQuantity = 0 ∧ 0 ≤ item.quantity

/-- A refund of an item of the basket, or the undo of one. -/
inductive Step (sessionId : Nat) (s s' : Store) : Prop where
  | refund (otherRefusal : Store → Nat → Member → Option String) (input : RefundInput)
      (done : refundSessionBasketItem s otherRefusal sessionId input = .ok s')
  | undo (stockGone : Nat → ℚ → Bool) (refundId : Nat) (refund : ReturnRow) (found : s.returns.get refundId = some refund)
      (ours : refund.sessionId = sessionId) (done : undoSessionBasketItemRefund s stockGone refundId = .ok s')

/-- What is kept of the row of a refund. -/
structure RowKept (s : Store) (sessionId : Nat) (rate : ℚ) (row : ReturnRow) : Prop where
  isActive : row.isActive = true
  nonneg : ∀ c, 0 ≤ share row c
  whole : ∀ c, WholeIn c (share row c)
  valued : 0 ≤ valueAt rate (itemValue row)
  nothing : valueAt rate (itemValue row) ≤ 0 → share row = 0
  found : ∀ line ∈ row.lines, 0 ≤ line.quantity ∧
    ∃ item, s.saleItems.get line.saleItemId = some item ∧ inBasket s.members sessionId item.saleId
  lines : row.lines ≠ [] → valueAt rate (itemValue row) = (row.lines.map (lineValue s)).sum

structure Kept (s : Store) (sessionId : Nat) (extra : Amounts) (rate : ℚ) : Prop extends
    BasketItems s sessionId extra rate where
  references : References s
  fits : Fits s.saleItems (inBasket s.members sessionId)
  rows : ∀ id row, s.returns.get id = some row → row.sessionId = sessionId → row.isUndo = false → RowKept s sessionId rate row
  totals : Totals s sessionId rate
  within : Within s sessionId extra
  bounded : refundedValue s sessionId rate ≤ refundedOf s sessionId rate
  exact : valueAt rate (itemCharge s sessionId) ≤ refundedValue s sessionId rate → ∀ c, given s sessionId c = roundedExtra extra c

section
variable {s s' : Store} {sessionId : Nat} {extra : Amounts} {rate : ℚ}

theorem refund_cases {otherRefusal : Store → Nat → Member → Option String} {input : RefundInput}
    (done : refundSessionBasketItem s otherRefusal sessionId input = .ok s') :
    ∃ member ∈ s.members, member.sessionId = sessionId ∧ ∃ lines item refundedSales,
      planItem s member input.line = .ok (lines, item) ∧
      s' = booking s (refundRow sessionId member lines item (sessionItemExtraShare s sessionId item input.effectiveRate))
        (applyLines s.saleItems 1 lines) refundedSales := by
  unfold refundSessionBasketItem at done
  cases isMember : s.members.find? fun m => m.sessionId = sessionId && m.transactionId = input.transactionId with
  | none =>
    rw [isMember] at done
    cases done
  | some member =>
    rw [isMember] at done
    dsimp only at done
    have ours := List.find?_some isMember
    simp only [Bool.and_eq_true, decide_eq_true_eq] at ours
    cases refused : otherRefusal s sessionId member with
    | some message =>
      rw [refused] at done
      cases done
    | none =>
      rw [refused] at done
      obtain ⟨⟨lines, item⟩, planned, rfl⟩ := map_ok done
      exact ⟨member, List.mem_of_find?_eq_some isMember, ours.1, lines, item, _, planned, rfl⟩

theorem undo_cases {stockGone : Nat → ℚ → Bool} {refundId : Nat} {refund : ReturnRow}
    (found : s.returns.get refundId = some refund) (done : undoSessionBasketItemRefund s stockGone refundId = .ok s') :
    refund.isUndo = false ∧ refund.isActive = true ∧ refund.lines ≠ [] ∧ alreadyUndone s refundId = false ∧
      ∃ refundedSales, s' = booking s (undoRow refundId refund) (applyLines s.saleItems (-1) refund.lines) refundedSales := by
  unfold undoSessionBasketItemRefund at done
  rw [found] at done
  dsimp only at done
  cases refused : refund.lines.findSome? (undoLineRefusal s stockGone) with
  | some message =>
    rw [refused] at done
    split_ifs at done
  | none =>
    rw [refused] at done
    split_ifs at done with isUndo isActive noLines undone
    have isActive : refund.isActive = true := by simpa only [Bool.not_eq_true', Bool.not_eq_false] using isActive
    exact ⟨Bool.not_eq_true _ ▸ isUndo, isActive, noLines, Bool.not_eq_true _ ▸ undone, _, (Except.ok.inj done).symm⟩

/-- What a refund plans: different lines of a sale, or an item as it was booked. -/
inductive Planned (s : Store) (sessionId : Nat) (rate : ℚ) (member : Member) (lines : List RefundLine) (item : Amounts) : Prop where
  | sale (isSale : member.type ≠ .item) (some : lines ≠ []) (distinct : (lines.map (·.saleItemId)).Nodup)
      (left : ∀ line ∈ lines, 0 < line.quantity ∧ ∃ item, s.saleItems.get line.saleItemId = Option.some item ∧
        inBasket s.members sessionId item.saleId ∧ line.quantity ≤ item.quantity - item.refundedQuantity)
      (value : valueAt rate item = (lines.map (lineValue s)).sum)
  | plain (isItem : member.type = .item) (noLines : lines = []) (asBooked : item = member.booked)
      (fresh : refundedAsWhole s member.transactionId = false)

theorem planned (basket : BasketItems s sessionId extra rate) {member : Member} (isMember : member ∈ s.members)
    (ours : member.sessionId = sessionId) {line : Option RefundLine} {lines : List RefundLine} {item : Amounts}
    (done : planItem s member line = .ok (lines, item)) : Planned s sessionId rate member lines item := by
  unfold planItem at done
  cases isType : member.type with
  | sale saleId =>
    rw [isType] at done
    obtain ⟨lines', listed, others⟩ := bind_ok done
    obtain ⟨amounts, gathered, same⟩ := map_ok others
    obtain ⟨rfl, rfl⟩ := Prod.mk.inj same
    obtain ⟨some, distinct⟩ := refundLines_distinct listed
    have inSession : inBasket s.members sessionId saleId := by
      refine List.any_eq_true.mpr ⟨member, isMember, ?_⟩
      rw [ours, saleOf, isType]
      simp
    refine .sale (by rw [isType]; exact nofun) some distinct (fun line member => ?_) ?_
    · obtain ⟨amount, -, called⟩ := gather_mem gathered member
      obtain ⟨item, found, rfl, positive, left, -⟩ := previewed called
      exact ⟨positive, item, found, inSession, left⟩
    · have values : amounts = lines'.map (lineValue s) := gather_eq gathered fun line _ amount called =>
        (previewed called).choose_spec.2.2.2.2
      rw [values, valueAt, pair, pair, zero_div, add_zero]
  | item =>
    rw [isType] at done
    dsimp only at done
    split_ifs at done with withLine already
    obtain ⟨rfl, rfl⟩ := Prod.mk.inj (Except.ok.inj done)
    exact .plain isType rfl (funext fun c => abs_of_nonneg ((basket.plain member isMember ours isType).1 c))
      (Bool.not_eq_true _ ▸ already)
  | extraCharge =>
    rw [isType] at done
    cases done
  | notSold =>
    rw [isType] at done
    cases done

theorem BasketItems.units (basket : BasketItems s sessionId extra rate) {id : Nat} {item : SaleItem}
    (found : s.saleItems.get id = some item) (ours : inBasket s.members sessionId item.saleId) : 0 ≤ unitValue s.sales item := by
  have price := basket.prices id item found ours
  unfold unitValue
  cases isSale : s.sales item.saleId with
  | none => exact le_rfl
  | some sale =>
    obtain ⟨final, saleExtra⟩ := basket.sales item.saleId sale isSale ours
    exact lineRefundAmount_nonneg price final saleExtra

/-! What a row and its lines leave as it is. -/

section
variable {row : ReturnRow} {sign : ℚ} {lines : List RefundLine} {refundedSales : List Nat}

theorem BasketItems.booking (basket : BasketItems s sessionId extra rate) :
    BasketItems (booking s row (applyLines s.saleItems sign lines) refundedSales) sessionId extra rate where
  row := basket.row
  ratePos := basket.ratePos
  nonneg := basket.nonneg
  charged := basket.charged
  plain := basket.plain
  prices id item found ours := by
    obtain ⟨before, quantity, isBefore, rfl⟩ := applyLines_found found
    exact basket.prices id before isBefore ours
  sales := basket.sales
  charge := by
    have same : (applyLines s.saleItems sign lines).total (fun item => unitOf s sessionId item * item.quantity) =
        s.saleItems.total fun item => unitOf s sessionId item * item.quantity :=
      applyLines_total_same (fun _ _ => rfl) lines
    exact basket.charge.trans (congrArg (· + _) same.symm)

theorem lineValue_booking (line : RefundLine) :
    lineValue (ExtraReturned.booking s row (applyLines s.saleItems sign lines) refundedSales) line = lineValue s line := by
  obtain ⟨quantity, got⟩ := applyLines_get s.saleItems sign lines line.saleItemId
  unfold lineValue ExtraReturned.booking
  rw [got]
  cases s.saleItems.get line.saleItemId with
  | none => rfl
  | some item => rfl

theorem RowKept.booking {other : ReturnRow} (kept : RowKept s sessionId rate other) :
    RowKept (booking s row (applyLines s.saleItems sign lines) refundedSales) sessionId rate other :=
  { kept with
    found := fun line member => by
      obtain ⟨positive, item, found, ours⟩ := kept.found line member
      obtain ⟨quantity, got⟩ := applyLines_get s.saleItems sign lines line.saleItemId
      exact ⟨positive, addRefunded quantity item, got.trans (by rw [found]; rfl), ours⟩
    lines := fun some => (kept.lines some).trans (congrArg List.sum (List.map_congr_left fun line _ => (lineValue_booking line).symm)) }

/-- Rows of the basket, with one more. -/
theorem rows_booking (rows : ∀ id other, s.returns.get id = some other → other.sessionId = sessionId → other.isUndo = false →
      RowKept s sessionId rate other)
    (new : row.isUndo = false → RowKept s sessionId rate row) :
    ∀ id other, (booking s row (applyLines s.saleItems sign lines) refundedSales).returns.get id = some other →
      other.sessionId = sessionId → other.isUndo = false →
      RowKept (booking s row (applyLines s.saleItems sign lines) refundedSales) sessionId rate other := by
  intro id other found ours isRefund
  rcases Table.get_insert found with old | ⟨-, rfl⟩
  · exact (rows id other old ours isRefund).booking
  · exact (new isRefund).booking

/-- What is refunded of the sales changes by the value of the lines. -/
theorem refundedLines_booking (sign : ℚ)
    (found : ∀ line ∈ lines, ∃ item, s.saleItems.get line.saleItemId = some item ∧ inBasket s.members sessionId item.saleId) :
    (applyLines s.saleItems sign lines).total (fun item => unitOf s sessionId item * item.refundedQuantity) =
      s.saleItems.total (fun item => unitOf s sessionId item * item.refundedQuantity) + sign * (lines.map (lineValue s)).sum := by
  refine applyLines_total (fun _ _ => rfl) fun line member => ?_
  obtain ⟨item, isItem, ours⟩ := found line member
  refine ⟨item, isItem, ?_⟩
  rw [lineValue, isItem, unitOf, if_pos ours]

/-- No more is refunded than can be. -/
theorem refundedOf_le (basket : BasketItems s sessionId extra rate) (fits : Fits s.saleItems (inBasket s.members sessionId)) :
    refundedOf s sessionId rate ≤ refundable s sessionId rate := by
  refine add_le_add ?_ (List.sum_le_sum fun m _ => ?_)
  · have left : 0 ≤ s.saleItems.total fun item =>
        unitOf s sessionId item * item.quantity - unitOf s sessionId item * item.refundedQuantity := by
      refine Table.total_nonneg fun id item found => ?_
      by_cases ours : inBasket s.members sessionId item.saleId
      · rw [unitOf, if_pos ours, ← mul_sub]
        exact mul_nonneg (basket.units found ours) (sub_nonneg.mpr (fits id item found ours))
      · rw [unitOf, if_neg ours, zero_mul, zero_mul, sub_zero]
    have sum := Table.total_add s.saleItems (fun item => unitOf s sessionId item * item.refundedQuantity)
      fun item => unitOf s sessionId item * item.quantity - unitOf s sessionId item * item.refundedQuantity
    simp only [add_sub_cancel] at sum
    linarith
  · split_ifs
    · exact le_rfl
    · exact wholeValue_nonneg basket.ratePos _

end

/-! One refund. -/

section
variable {member : Member} {lines : List RefundLine} {item taken : Amounts} {refundedSales : List Nat}

theorem itemValue_refundRow (taken : Amounts) (basket : BasketItems s sessionId extra rate) (isMember : member ∈ s.members)
    (ours : member.sessionId = sessionId) (plan : Planned s sessionId rate member lines item) :
    itemValue (refundRow sessionId member lines item taken) = item ∧ share (refundRow sessionId member lines item taken) = taken := by
  cases plan with
  | sale isSale =>
    unfold itemValue share refundRow
    dsimp only
    rw [if_neg isSale, if_neg isSale]
    refine ⟨funext fun c => ?_, neg_neg _⟩
    simp only [Pi.neg_apply, Pi.add_apply]
    ring
  | plain isItem _ asBooked =>
    unfold itemValue share refundRow
    dsimp only
    rw [if_pos isItem, if_pos isItem, (basket.plain member isMember ours isItem).2, asBooked]
    refine ⟨funext fun c => ?_, by rw [neg_zero, zero_sub, neg_neg]⟩
    simp only [Pi.neg_apply, Pi.sub_apply, Pi.zero_apply]
    ring

theorem lineValue_nonneg (basket : BasketItems s sessionId extra rate) {line : RefundLine} (positive : 0 ≤ line.quantity)
    {item : SaleItem} (found : s.saleItems.get line.saleItemId = some item) (ours : inBasket s.members sessionId item.saleId) :
    0 ≤ lineValue s line := by
  rw [lineValue, found]
  exact mul_nonneg (basket.units found ours) positive

theorem Planned.nonneg (plan : Planned s sessionId rate member lines item) (basket : BasketItems s sessionId extra rate)
    (isMember : member ∈ s.members) (ours : member.sessionId = sessionId) : 0 ≤ valueAt rate item := by
  cases plan with
  | sale _ _ _ left value =>
    rw [value]
    refine List.sum_nonneg fun x inside => ?_
    obtain ⟨line, isLine, rfl⟩ := List.mem_map.mp inside
    obtain ⟨positive, item, found, inSession, -⟩ := left line isLine
    exact lineValue_nonneg basket positive.le found inSession
  | plain isItem _ asBooked =>
    have booked := (basket.plain member isMember ours isItem).1
    rw [asBooked]
    exact add_nonneg (booked .usd) (div_nonneg (booked .lbp) basket.ratePos.le)

theorem refundedAsWhole_booking {row : ReturnRow} {items : Table SaleItem} (transactionId : Nat) :
    refundedAsWhole (booking s row items refundedSales) transactionId =
      (refundedAsWhole s transactionId || (!row.isUndo && row.isActive && row.reversesId = some transactionId)) := by
  rw [refundedAsWhole, booking, Table.rows_insert, List.any_append]
  simp [refundedAsWhole]

/-- What is refunded goes up by what the refund plans. -/
theorem Planned.refundedOf (plan : Planned s sessionId rate member lines item) (basket : BasketItems s sessionId extra rate)
    (isMember : member ∈ s.members) (ours : member.sessionId = sessionId) :
    refundedOf s sessionId rate + valueAt rate item ≤
      refundedOf (booking s (refundRow sessionId member lines item taken) (applyLines s.saleItems 1 lines) refundedSales)
        sessionId rate := by
  cases plan with
  | sale isSale _ _ left value =>
    have sold := refundedLines_booking 1 fun line isLine =>
      have ⟨_, item, found, inSession, _⟩ := left line isLine
      ⟨item, found, inSession⟩
    have same (transactionId : Nat) : refundedAsWhole
        (booking s (refundRow sessionId member lines item taken) (applyLines s.saleItems 1 lines) refundedSales) transactionId =
          refundedAsWhole s transactionId := by
      rw [refundedAsWhole_booking, refundRow, if_neg isSale]
      simp
    rw [one_mul, ← value] at sold
    unfold ExtraReturned.refundedOf
    simp only [same]
    exact (add_right_comm _ _ _).trans_le (add_le_add sold.symm.le le_rfl)
  | plain isItem noLines asBooked fresh =>
    subst noLines
    unfold ExtraReturned.refundedOf
    rw [add_assoc]
    refine add_le_add le_rfl (Table.sum_add_le (fun m _ => ?_) (List.mem_filter.mpr ⟨isMember, ?_⟩) ?_)
    · rw [refundedAsWhole_booking]
      cases refundedAsWhole s m.transactionId with
      | true => rw [Bool.true_or]
      | false =>
        rw [if_neg Bool.false_ne_true]
        split_ifs
        · exact wholeValue_nonneg basket.ratePos _
        · exact le_rfl
    · simp [ours, isItem]
    · have booked := (basket.plain member isMember ours isItem).1
      have worth : wholeValue rate member = valueAt rate item := by
        rw [wholeValue, asBooked]
        exact congrArg (valueAt rate) (funext fun c => abs_of_nonneg (booked c))
      rw [fresh, refundedAsWhole_booking, fresh, refundRow, if_pos isItem, worth]
      simp

/-- The sums over the refunds that stand, with one refund more. -/
theorem given_refund (references : References s) {row : ReturnRow} (isRow : isRefund sessionId row = true)
    (items : Table SaleItem) (refundedSales : List Nat) (c : CoverageCurrency) :
    given (booking s row items refundedSales) sessionId c = given s sessionId c + share row c := by
  rw [given, standing_refund references isRow, List.map_append, List.sum_append, List.map_singleton, List.sum_singleton]
  rfl

theorem refundedValue_refund (references : References s) {row : ReturnRow} (isRow : isRefund sessionId row = true)
    (items : Table SaleItem) (refundedSales : List Nat) (rate : ℚ) :
    refundedValue (booking s row items refundedSales) sessionId rate =
      refundedValue s sessionId rate + valueAt rate (itemValue row) := by
  rw [refundedValue, standing_refund references isRow, List.map_append, List.sum_append, List.map_singleton, List.sum_singleton]
  rfl

/-- A row of the basket adds to what the rows add up to. -/
theorem Totals.booking (totals : Totals s sessionId rate) (row : ReturnRow) (isActive : row.isActive = true)
    (ours : row.sessionId = sessionId) {items : Table SaleItem}
    (extra : ∀ c, given (booking s row items refundedSales) sessionId c = given s sessionId c - row.extra c)
    (value : refundedValue (booking s row items refundedSales) sessionId rate =
      refundedValue s sessionId rate + valueAt rate fun c => -row.amount c + row.extra c) :
    Totals (booking s row items refundedSales) sessionId rate where
  extra c := by
    rw [returned_booking isActive ours, totals.extra, extra]
    ring
  value := by
    simp only [returned_booking isActive ours]
    rw [value, ← totals.value, ← valueAt_add]
    rfl

theorem RowKept.refund (basket : BasketItems s sessionId extra rate) (isMember : member ∈ s.members)
    (ours : member.sessionId = sessionId) (plan : Planned s sessionId rate member lines item)
    (takes : TakesShare s sessionId extra rate item taken) :
    RowKept s sessionId rate (refundRow sessionId member lines item taken) := by
  obtain ⟨isValue, isShare⟩ := itemValue_refundRow taken basket isMember ours plan
  refine ⟨rfl, ?_, ?_, ?_, ?_, ?_, ?_⟩
  · rw [isShare]
    exact takes.nonneg
  · rw [isShare]
    exact takes.whole
  · rw [isValue]
    exact plan.nonneg basket isMember ours
  · rw [isValue, isShare]
    exact takes.nothing
  · intro line isLine
    cases plan with
    | sale _ _ _ left =>
      obtain ⟨positive, item, found, inSession, -⟩ := left line isLine
      exact ⟨positive.le, item, found, inSession⟩
    | plain _ noLines =>
      rw [refundRow, noLines] at isLine
      cases isLine
  · intro some
    rw [isValue]
    cases plan with
    | sale _ _ _ _ value => exact value
    | plain _ noLines => exact absurd noLines some

theorem Planned.fits (plan : Planned s sessionId rate member lines item) {ours : Nat → Bool} (fits : Fits s.saleItems ours) :
    Fits (applyLines s.saleItems 1 lines) ours := by
  cases plan with
  | sale _ _ distinct left =>
    refine fits.refund distinct fun line isLine item found => ?_
    obtain ⟨-, item', found', -, below⟩ := left line isLine
    rwa [Option.some.inj (found.symm.trans found')]
  | plain _ noLines =>
    rw [noLines]
    exact fits

theorem Kept.refund (kept : Kept s sessionId extra rate) (isMember : member ∈ s.members) (ours : member.sessionId = sessionId)
    (plan : Planned s sessionId rate member lines item) (takes : TakesShare s sessionId extra rate item taken) :
    Kept (booking s (refundRow sessionId member lines item taken) (applyLines s.saleItems 1 lines) refundedSales)
      sessionId extra rate := by
  obtain ⟨isValue, isShare⟩ := itemValue_refundRow taken kept.toBasketItems isMember ours plan
  have isRow : isRefund sessionId (refundRow sessionId member lines item taken) = true := by simp [isRefund, refundRow]
  have gives := given_refund kept.references isRow (applyLines s.saleItems 1 lines) refundedSales
  have value := refundedValue_refund kept.references isRow (applyLines s.saleItems 1 lines) refundedSales rate
  have totals := kept.totals.booking _ rfl rfl
    (fun c => (gives c).trans (by rw [share, Pi.neg_apply, sub_eq_add_neg])) value
  simp only [isValue, isShare] at gives value
  exact
    { toBasketItems := kept.toBasketItems.booking
      references := references_booking kept.references fun _ names => nomatch names
      fits := plan.fits kept.fits
      rows := rows_booking kept.rows fun _ => .refund kept.toBasketItems isMember ours plan takes
      totals := totals
      within :=
        { nonneg := fun c => (gives c).symm ▸ add_nonneg (kept.within.nonneg c) (takes.nonneg c)
          le := fun c => (gives c).symm ▸ takes.le c
          whole := fun c => (gives c).symm ▸ (kept.within.whole c).add (takes.whole c) }
      bounded := value.symm ▸ (add_le_add kept.bounded le_rfl).trans (plan.refundedOf kept.toBasketItems isMember ours)
      exact := by
        intro reaches c
        rw [value] at reaches
        rw [gives]
        by_cases worthless : valueAt rate item ≤ 0
        · rw [takes.nothing worthless, Pi.zero_apply, add_zero]
          exact kept.exact (reaches.trans (add_le_of_nonpos_right worthless)) c
        · exact takes.last (not_le.mp worthless) reaches c }

end

/-! One undo. -/

section
variable {refundId : Nat} {refund : ReturnRow} {refundedSales : List Nat}

theorem mem_standing {r : Nat × ReturnRow} (member : r ∈ standing s sessionId) :
    s.returns.get r.1 = some r.2 ∧ r.2.sessionId = sessionId ∧ r.2.isUndo = false := by
  obtain ⟨selected, -⟩ := List.mem_filter.mp member
  obtain ⟨found, isRow⟩ := Table.mem_select.mp selected
  simp only [isRefund, Bool.and_eq_true, Bool.not_eq_true', decide_eq_true_eq] at isRow
  exact ⟨found, isRow.2, isRow.1.1⟩

theorem Kept.undo (kept : Kept s sessionId extra rate) (found : s.returns.get refundId = some refund)
    (ours : refund.sessionId = sessionId) (isRow : refund.isUndo = false) (isActive : refund.isActive = true)
    (some : refund.lines ≠ []) (fresh : alreadyUndone s refundId = false) :
    Kept (booking s (undoRow refundId refund) (applyLines s.saleItems (-1) refund.lines) refundedSales) sessionId extra rate := by
  have row := kept.rows refundId refund found ours isRow
  have stands : (refundId, refund) ∈ standing s sessionId := by
    refine List.mem_filter.mpr ⟨Table.mem_select.mpr ⟨found, ?_⟩, ?_⟩
    · simp [isRefund, isRow, isActive, ours]
    · rw [fresh]
      rfl
  have distinct : ((standing s sessionId).map (·.1)).Nodup :=
    (Table.select_nodup s.returns _).sublist (List.filter_sublist.map _)
  have left : standing (booking s (undoRow refundId refund) (applyLines s.saleItems (-1) refund.lines) refundedSales) sessionId =
      (standing s sessionId).filter fun r => r.1 ≠ refundId := standing_undo rfl rfl rfl
  have gives (c : CoverageCurrency) :
      given (booking s (undoRow refundId refund) (applyLines s.saleItems (-1) refund.lines) refundedSales) sessionId c =
        given s sessionId c - share refund c := by
    rw [given, given, left, Table.sum_filter_ne distinct stands]
    ring
  have value : refundedValue (booking s (undoRow refundId refund) (applyLines s.saleItems (-1) refund.lines) refundedSales)
      sessionId rate = refundedValue s sessionId rate - valueAt rate (itemValue refund) := by
    rw [refundedValue, refundedValue, left, Table.sum_filter_ne distinct stands]
    ring
  have worth := row.lines some
  have undone : refundedOf (booking s (undoRow refundId refund) (applyLines s.saleItems (-1) refund.lines) refundedSales)
      sessionId rate = refundedOf s sessionId rate - valueAt rate (itemValue refund) := by
    have lines := refundedLines_booking (-1) fun line isLine => (row.found line isLine).2
    have same (transactionId : Nat) : refundedAsWhole
        (booking s (undoRow refundId refund) (applyLines s.saleItems (-1) refund.lines) refundedSales) transactionId =
          refundedAsWhole s transactionId := by
      rw [refundedAsWhole_booking, undoRow]
      simp
    rw [← worth, neg_one_mul, ← sub_eq_add_neg] at lines
    unfold refundedOf
    simp only [same]
    exact (congrArg₂ (· + ·) lines rfl).trans (sub_add_eq_add_sub _ _ _)
  have most := kept.bounded.trans (refundedOf_le kept.toBasketItems kept.fits)
  rw [← kept.charge] at most
  have isTotal : Totals (booking s (undoRow refundId refund) (applyLines s.saleItems (-1) refund.lines) refundedSales)
      sessionId rate := by
    refine kept.totals.booking (undoRow refundId refund) rfl ours (fun c => (gives c).trans rfl) ?_
    rw [value, sub_eq_add_neg]
    congr 1
    simp only [valueAt, itemValue, undoRow, Pi.neg_apply]
    ring
  exact
    { toBasketItems := kept.toBasketItems.booking
      references := references_booking kept.references fun _ names => Option.some.inj names ▸ Table.get_lt found
      fits := kept.fits.undo fun line isLine => (row.found line isLine).1
      rows := rows_booking kept.rows fun isRefund => by cases isRefund
      totals := isTotal
      within :=
        { nonneg := fun c => by
            refine List.sum_nonneg fun x inside => ?_
            obtain ⟨r, member, rfl⟩ := List.mem_map.mp inside
            rw [left] at member
            obtain ⟨isFound, isOurs, isRefund⟩ := mem_standing (List.mem_filter.mp member).1
            exact (kept.rows r.1 r.2 isFound isOurs isRefund).nonneg c
          le := fun c => (gives c).symm ▸ (sub_le_self _ (row.nonneg c)).trans (kept.within.le c)
          whole := fun c => (gives c).symm ▸ (kept.within.whole c).sub (row.whole c) }
      bounded := by
        rw [value, undone]
        exact sub_le_sub_right kept.bounded _
      exact := by
        -- only a refund worth nothing can be undone where everything stays refunded
        intro reaches c
        rw [value] at reaches
        have worthless : valueAt rate (itemValue refund) ≤ 0 := by
          have charge : itemCharge (booking s (undoRow refundId refund) (applyLines s.saleItems (-1) refund.lines) refundedSales)
              sessionId = itemCharge s sessionId := rfl
          rw [charge] at reaches
          linarith
        rw [gives, row.nothing worthless, Pi.zero_apply, sub_zero]
        exact kept.exact (reaches.trans (sub_le_self _ row.valued)) c }

end

theorem Kept.step (kept : Kept s sessionId extra rate) (step : Step sessionId s s') : Kept s' sessionId extra rate := by
  cases step with
  | refund otherRefusal input done =>
    obtain ⟨member, isMember, ours, lines, item, refundedSales, plan, rfl⟩ := refund_cases done
    exact kept.refund isMember ours (planned kept.toBasketItems isMember ours plan)
      (takesShare kept.toExtraBooked kept.totals kept.within item input.effectiveRate)
  | undo stockGone refundId refund found ours done =>
    obtain ⟨isRow, isActive, some, fresh, refundedSales, rfl⟩ := undo_cases found done
    exact kept.undo found ours isRow isActive some fresh

theorem Kept.run (kept : Kept s sessionId extra rate) (run : Relation.ReflTransGen (Step sessionId) s s') :
    Kept s' sessionId extra rate := by
  induction run with
  | refl => exact kept
  | tail _ step ih => exact ih.step step

/-- Nothing is given back of a basket that was just booked. -/
theorem ExtraBasket.kept (start : ExtraBasket s sessionId extra rate) : Kept s sessionId extra rate := by
  have none : standing s sessionId = [] := by
    refine List.eq_nil_iff_forall_not_mem.mpr fun r member => ?_
    obtain ⟨found, ours, -⟩ := mem_standing member
    exact start.noReturns r.1 r.2 found ours
  have gives (c : CoverageCurrency) : given s sessionId c = 0 := by
    rw [given, none]
    rfl
  have value : refundedValue s sessionId rate = 0 := by
    rw [refundedValue, none]
    rfl
  have returns (figure : ReturnRow → ℚ) : returned s sessionId figure = 0 :=
    Table.total_eq_zero fun id row found => if_neg fun isOurs => start.noReturns id row found isOurs.1
  exact
    { toBasketItems := start.toBasketItems
      references := start.references
      fits := fun id item found ours => by
        obtain ⟨refunded, quantity⟩ := start.noRefunded id item found ours
        rwa [refunded]
      rows := fun id row found ours => absurd ours (start.noReturns id row found)
      totals :=
        { extra := fun c => by rw [returns, gives, neg_zero]
          value := by
            simp only [returns]
            rw [value, valueAt, zero_div, add_zero] }
      within :=
        { nonneg := fun c => (gives c).ge
          le := fun c => (gives c).trans_le (roundAmount_nonneg (start.nonneg c))
          whole := fun c => (gives c).symm ▸ whole_zero _ }
      bounded := by
        rw [value]
        refine add_nonneg (Table.total_nonneg fun id item found => ?_) (List.sum_nonneg fun x member => ?_)
        · by_cases ours : inBasket s.members sessionId item.saleId
          · rw [(start.noRefunded id item found ours).1, mul_zero]
          · rw [unitOf, if_neg ours, zero_mul]
        · obtain ⟨m, -, rfl⟩ := List.mem_map.mp member
          split_ifs
          · exact wholeValue_nonneg start.ratePos m
          · exact le_rfl
      exact := fun reaches => absurd (value ▸ reaches) (not_le.mpr start.charged) }

/-- Through every order of item refunds and undos the shares are never negative, those that stand give back at most the extra,
to the cent and the pound, and all of it where the charge of all items is refunded: an extra in whole cents and pounds as it
is. -/
theorem extraShares_returned (start : ExtraBasket s sessionId extra rate) (run : Relation.ReflTransGen (Step sessionId) s s') :
    (∀ id row, s'.returns.get id = some row → row.sessionId = sessionId → row.isUndo = false → ∀ c, 0 ≤ share row c) ∧
      (∀ c, given s' sessionId c ≤ roundedExtra extra c) ∧
      (valueAt rate (itemCharge s' sessionId) ≤ refundedValue s' sessionId rate →
        ∀ c, given s' sessionId c = roundedExtra extra c) ∧
      (valueAt rate (itemCharge s' sessionId) ≤ refundedValue s' sessionId rate →
        ∀ c, WholeIn c (extra c) → given s' sessionId c = extra c) := by
  have kept := start.kept.run run
  exact ⟨fun id row found ours isRow => (kept.rows id row found ours isRow).nonneg, kept.within.le, kept.exact,
    fun reaches c whole => (kept.exact reaches c).trans (roundAmount_of_whole whole)⟩

end

/-! A basket of one sale, three units at ten dollars. -/

def soldBasket (extra : Amounts) : Store where
  members :=
    [{ sessionId := 1, transactionId := 10, type := .sale 0, amount := pair 30 0, booked := pair 30 0 },
      { sessionId := 1, transactionId := 11, type := .extraCharge, amount := extra, booked := extra, extra := extra
        exchangeRate := some 90000 }]
  sales := fun _ => some { totalAmountUsd := 30, discountUsd := 0 }
  saleItems := ⟨[some { saleId := 0, soldPriceUsd := 10, quantity := 3 }]⟩

theorem soldBasket_charge (extra : Amounts) : valueAt 90000 (itemCharge (soldBasket extra) 1) = 30 := by
  change (max 0 30 + 0) + (max 0 0 + 0) / 90000 = (30 : ℚ)
  norm_num

theorem soldBasket_basket {extra : Amounts} (nonneg : ∀ c, 0 ≤ extra c) : ExtraBasket (soldBasket extra) 1 extra 90000 where
  row := ⟨_, by simp [extraCharge, soldBasket]; rfl, rfl, rfl⟩
  ratePos := by norm_num
  nonneg := nonneg
  charged := by
    rw [soldBasket_charge]
    norm_num
  plain m member ours isItem := by
    rcases List.mem_pair.mp member with rfl | rfl
    · exact nomatch isItem
    · exact nomatch isItem
  prices id item found ours := by
    rw [Table.get_only found]
    norm_num
  sales saleId sale found ours := by
    cases found
    norm_num
  charge := by
    rw [soldBasket_charge]
    simp [refundable, unitOf, unitValue, lineRefundAmount, inBasket, saleOf, plainItems, soldBasket, Table.total]
    norm_num
  references id row target found names := nomatch found
  noReturns id row found := nomatch found
  noRefunded id item found ours := by
    rw [Table.get_only found]
    norm_num

/-- A refund to ask for, or the id of one to undo. -/
inductive Move where
  | refund (input : RefundInput)
  | undo (refundId : Nat)

def moved (s : Store) : Move → Option Store
  | .refund input => (refundSessionBasketItem s (fun _ _ _ => none) 1 input).toOption
  | .undo refundId =>
    match s.returns.get refundId with
    | none => none
    | some refund =>
      if refund.sessionId = 1 then (undoSessionBasketItemRefund s (fun _ _ => false) refundId).toOption else none

theorem moved_step {s s' : Store} {move : Move} (done : moved s move = some s') : Step 1 s s' := by
  cases move with
  | refund input =>
    cases result : refundSessionBasketItem s (fun _ _ _ => none) 1 input with
    | error refused =>
      rw [moved, result] at done
      cases done
    | ok after =>
      rw [moved, result] at done
      cases done
      exact .refund _ input result
  | undo refundId =>
    cases found : s.returns.get refundId with
    | none =>
      rw [moved, found] at done
      cases done
    | some refund =>
      rw [moved, found] at done
      dsimp only at done
      split_ifs at done with ours
      cases result : undoSessionBasketItemRefund s (fun _ _ => false) refundId with
      | error refused =>
        rw [result] at done
        cases done
      | ok after =>
        rw [result] at done
        cases done
        exact .undo _ refundId refund found ours result

theorem moved_run {s s' : Store} {moves : List Move} (done : moves.foldlM moved s = some s') :
    Relation.ReflTransGen (Step 1) s s' := by
  induction moves generalizing s with
  | nil => exact Option.some.inj done ▸ .refl
  | cons move moves ih =>
    rw [List.foldlM_cons] at done
    obtain ⟨between, first, rest⟩ := Option.bind_eq_some_iff.mp done
    exact .head (moved_step first) (ih rest)

theorem soldBasket_run (extra : Amounts) (moves : List Move) (p : Store → Bool)
    (done : (moves.foldlM moved (soldBasket extra)).any p = true) :
    ∃ s', Relation.ReflTransGen (Step 1) (soldBasket extra) s' ∧ p s' = true := by
  cases after : moves.foldlM moved (soldBasket extra) with
  | none =>
    rw [after] at done
    cases done
  | some s' =>
    rw [after] at done
    exact ⟨s', moved_run after, done⟩

def refundUnits (quantity : ℚ) : Move :=
  .refund { transactionId := 10, line := some { saleItemId := 0, quantity := quantity }, effectiveRate := 90000 }

/-- Two units are refunded, the first of the two refunds is undone, and the two units left then take what is left of a
dollar. -/
theorem extraShares_returned_ofOneUnit : ∃ s', Relation.ReflTransGen (Step 1) (soldBasket (pair 1 0)) s' ∧
    (standing s' 1).map (fun r => (r.1, share r.2 .usd)) = [(1, 33 / 100), (3, 67 / 100)] ∧
    (∀ id row, s'.returns.get id = some row → row.sessionId = 1 → row.isUndo = false → ∀ c, 0 ≤ share row c) ∧
      (∀ c, given s' 1 c ≤ roundedExtra (pair 1 0) c) ∧
      (∀ c, given s' 1 c = roundedExtra (pair 1 0) c) ∧ given s' 1 .usd = 1 := by
  obtain ⟨s', run, holds⟩ := soldBasket_run (pair 1 0) [refundUnits 1, refundUnits 1, .undo 0, refundUnits 2]
    (fun s => decide ((standing s 1).map (fun r => (r.1, share r.2 .usd)) = [(1, 33 / 100), (3, 67 / 100)]) &&
      decide (valueAt 90000 (itemCharge s 1) ≤ refundedValue s 1 90000)) (by decide +kernel)
  obtain ⟨shares, reaches⟩ := Bool.and_eq_true_iff.mp holds
  obtain ⟨nonneg, most, all, asBooked⟩ :=
    extraShares_returned (soldBasket_basket fun c => by cases c <;> norm_num [pair]) run
  exact ⟨s', run, of_decide_eq_true shares, nonneg, most, all (of_decide_eq_true reaches),
    asBooked (of_decide_eq_true reaches) .usd ⟨100, by norm_num [pair, scale]⟩⟩

/-- An extra of $1.006 is given back as $1.01. -/
theorem extraShares_returned_halfCent : ExtraBasket (soldBasket (pair (503 / 500) 0)) 1 (pair (503 / 500) 0) 90000 ∧
    ∃ s', Relation.ReflTransGen (Step 1) (soldBasket (pair (503 / 500) 0)) s' ∧
      valueAt 90000 (itemCharge s' 1) = refundedValue s' 1 90000 ∧ pair (503 / 500) 0 .usd < given s' 1 .usd := by
  obtain ⟨s', run, holds⟩ := soldBasket_run (pair (503 / 500) 0) [.refund { transactionId := 10, effectiveRate := 90000 }]
    (fun s => valueAt 90000 (itemCharge s 1) = refundedValue s 1 90000 && pair (503 / 500) 0 .usd < given s 1 .usd)
    (by decide +kernel)
  simp only [Bool.and_eq_true, decide_eq_true_eq] at holds
  exact ⟨soldBasket_basket fun c => by cases c <;> norm_num [pair], s', run, holds⟩

end Liratek.Basket.ExtraReturned
