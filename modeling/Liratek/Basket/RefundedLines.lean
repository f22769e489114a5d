import Liratek.Basket.ExtraShare

/-! The lines of a basket's sales under item refunds and their undos: what they are worth, and how much of them is refunded. -/

namespace Liratek.Basket.RefundedLines
open Lib Lib.Calls Members MemberOwed ExtraShare
open ItemRefund (RefundLine pair)

theorem lineRefundAmount_eq (sale : Sale) (soldPriceUsd quantity : ℚ) :
    lineRefundAmount sale soldPriceUsd quantity = lineRefundAmount sale soldPriceUsd 1 * quantity := by
  unfold lineRefundAmount
  dsimp only
  split_ifs <;> ring

theorem lineRefundAmount_nonneg {sale : Sale} {soldPriceUsd : ℚ} (price : 0 ≤ soldPriceUsd)
    (final : sale.discountUsd ≤ sale.totalAmountUsd) (extra : 0 ≤ sale.extraUsd) : 0 ≤ lineRefundAmount sale soldPriceUsd 1 := by
  unfold lineRefundAmount
  dsimp only
  rw [mul_one]
  split_ifs with total
  · have share : 0 ≤ soldPriceUsd / sale.totalAmountUsd := div_nonneg price total.le
    have gross : soldPriceUsd = sale.totalAmountUsd * (soldPriceUsd / sale.totalAmountUsd) :=
      (mul_div_cancel₀ soldPriceUsd total.ne').symm
    have discounted := mul_le_mul_of_nonneg_right final share
    have more := mul_nonneg extra share
    linarith
  · rw [mul_zero, mul_zero, sub_zero, add_zero]
    exact price

/-- What one unit of a line gives back. -/
def unitValue (sales : Nat → Option Sale) (item : SaleItem) : ℚ :=
  match sales item.saleId with
  | some sale => lineRefundAmount sale item.soldPriceUsd 1
  | none => 0

def lineValue (s : Store) (line : RefundLine) : ℚ :=
  match s.saleItems.get line.saleItemId with
  | some item => unitValue s.sales item * line.quantity
  | none => 0

/-! Applying lines. -/

section
variable {items : Table SaleItem} {sign : ℚ}

def addRefunded (quantity : ℚ) (item : SaleItem) : SaleItem :=
  { item with refundedQuantity := item.refundedQuantity + quantity }

theorem applyLines_cons (items : Table SaleItem) (sign : ℚ) (line : RefundLine) (rest : List RefundLine) :
    applyLines items sign (line :: rest) =
      applyLines (items.update line.saleItemId (addRefunded (sign * line.quantity))) sign rest :=
  rfl

/-- Only the refunded quantity of a line changes. -/
theorem applyLines_get (items : Table SaleItem) (sign : ℚ) (lines : List RefundLine) (id : Nat) :
    ∃ quantity, (applyLines items sign lines).get id = (items.get id).map (addRefunded quantity) := by
  induction lines generalizing items with
  | nil =>
    refine ⟨0, ?_⟩
    have same : addRefunded 0 = fun item => item :=
      funext fun item => congrArg (fun q => ({ item with refundedQuantity := q } : SaleItem)) (add_zero _)
    rw [same]
    exact Option.map_id'.symm
  | cons line rest ih =>
    obtain ⟨others, later⟩ := ih (items.update line.saleItemId (addRefunded (sign * line.quantity)))
    rw [applyLines_cons, later]
    by_cases here : id = line.saleItemId
    · subst here
      refine ⟨sign * line.quantity + others, ?_⟩
      rw [Table.get_update_self, Option.map_map]
      congr 1
      funext item
      exact congrArg (fun q => ({ item with refundedQuantity := q } : SaleItem)) (add_assoc _ _ _)
    · exact ⟨others, by rw [Table.get_update_of_ne _ _ here]⟩

theorem applyLines_found {lines : List RefundLine} {id : Nat} {item : SaleItem}
    (found : (applyLines items sign lines).get id = some item) :
    ∃ before quantity, items.get id = some before ∧ item = addRefunded quantity before := by
  obtain ⟨quantity, got⟩ := applyLines_get items sign lines id
  obtain ⟨before, isBefore, rfl⟩ := Option.map_eq_some_iff.mp (got.symm.trans found)
  exact ⟨before, quantity, isBefore, rfl⟩

/-- A figure that leaves the refunded quantity out stays. -/
theorem applyLines_total_same {figure : SaleItem → ℚ} (same : ∀ quantity item, figure (addRefunded quantity item) = figure item)
    (lines : List RefundLine) : (applyLines items sign lines).total figure = items.total figure := by
  induction lines generalizing items with
  | nil => rfl
  | cons line rest ih => exact ih.trans (Table.total_update_same items line.saleItemId (same _))

/-- The refunded quantities change by those of the lines. -/
theorem applyLines_total {weight : SaleItem → ℚ} (same : ∀ quantity item, weight (addRefunded quantity item) = weight item)
    {lines : List RefundLine} {value : RefundLine → ℚ}
    (found : ∀ line ∈ lines, ∃ item, items.get line.saleItemId = some item ∧ value line = weight item * line.quantity) :
    (applyLines items sign lines).total (fun item => weight item * item.refundedQuantity) =
      items.total (fun item => weight item * item.refundedQuantity) + sign * (lines.map value).sum := by
  induction lines generalizing items with
  | nil =>
    rw [List.map_nil, List.sum_nil, mul_zero, add_zero]
    rfl
  | cons line rest ih =>
    obtain ⟨first, others⟩ := List.forall_mem_cons.mp found
    obtain ⟨item, isItem, worth⟩ := first
    rw [applyLines_cons, ih ?_, Table.total_update isItem, same, List.map_cons, List.sum_cons, worth, addRefunded]
    · ring
    · intro other member
      obtain ⟨otherItem, isOther, otherWorth⟩ := others other member
      by_cases here : other.saleItemId = line.saleItemId
      · refine ⟨addRefunded (sign * line.quantity) otherItem, ?_, otherWorth.trans (by rw [same])⟩
        rw [here, Table.get_update_self, ← here, isOther, Option.map_some]
      · exact ⟨otherItem, (Table.get_update_of_ne _ _ here).trans isOther, otherWorth⟩

/-- The lines where no more is refunded than was sold. -/
def Fits (items : Table SaleItem) (ours : Nat → Bool) : Prop :=
  ∀ id item, items.get id = some item → ours item.saleId → item.refundedQuantity ≤ item.quantity

/-- Refunding what is left of different lines. -/
theorem Fits.refund {ours : Nat → Bool} (fits : Fits items ours) {lines : List RefundLine}
    (distinct : (lines.map (·.saleItemId)).Nodup)
    (left : ∀ line ∈ lines, ∀ item, items.get line.saleItemId = some item →
      line.quantity ≤ item.quantity - item.refundedQuantity) : Fits (applyLines items 1 lines) ours := by
  induction lines generalizing items with
  | nil => exact fits
  | cons line rest ih =>
    obtain ⟨first, others⟩ := List.forall_mem_cons.mp left
    obtain ⟨once, distinctRest⟩ := List.nodup_cons.mp distinct
    refine ih ?_ distinctRest fun other member item found => ?_
    · intro id item found isOurs
      by_cases here : id = line.saleItemId
      · subst here
        rw [Table.get_update_self] at found
        obtain ⟨before, isBefore, rfl⟩ := Option.map_eq_some_iff.mp found
        have leaves := first before isBefore
        change before.refundedQuantity + 1 * line.quantity ≤ before.quantity
        linarith
      · exact fits id item ((Table.get_update_of_ne _ _ here).symm.trans found) isOurs
    · have elsewhere : other.saleItemId ≠ line.saleItemId := fun here =>
        once (List.mem_map.mpr ⟨other, member, here⟩)
      exact others other member item ((Table.get_update_of_ne _ _ elsewhere).symm.trans found)

theorem Fits.undo {ours : Nat → Bool} (fits : Fits items ours) {lines : List RefundLine} (positive : ∀ line ∈ lines, 0 ≤ line.quantity) :
    Fits (applyLines items (-1) lines) ours := by
  induction lines generalizing items with
  | nil => exact fits
  | cons line rest ih =>
    obtain ⟨first, others⟩ := List.forall_mem_cons.mp positive
    refine ih ?_ others
    intro id item found isOurs
    by_cases here : id = line.saleItemId
    · subst here
      rw [Table.get_update_self] at found
      obtain ⟨before, isBefore, rfl⟩ := Option.map_eq_some_iff.mp found
      have below := fits line.saleItemId before isBefore isOurs
      change before.refundedQuantity + -1 * line.quantity ≤ before.quantity
      linarith
    · exact fits id item ((Table.get_update_of_ne _ _ here).symm.trans found) isOurs

end

/-! What a refund plans. -/

section
variable {s : Store}

theorem previewed {saleId : Nat} {line : RefundLine} {amount : ℚ} (done : previewSaleItemRefundAmount s saleId line = .ok amount) :
    ∃ item, s.saleItems.get line.saleItemId = some item ∧ item.saleId = saleId ∧ 0 < line.quantity ∧
      line.quantity ≤ item.quantity - item.refundedQuantity ∧ amount = lineValue s line := by
  unfold previewSaleItemRefundAmount at done
  cases found : s.saleItems.get line.saleItemId with
  | none =>
    rw [found] at done
    cases done
  | some item =>
    rw [found] at done
    dsimp only at done
    cases isSale : s.sales saleId with
    | none =>
      rw [isSale] at done
      split_ifs at done
    | some sale =>
      rw [isSale] at done
      dsimp only at done
      split_ifs at done with otherSale noQuantity notAvailable
      have same : item.saleId = saleId := not_not.mp otherSale
      refine ⟨item, rfl, same, not_le.mp noQuantity, not_lt.mp notAvailable, ?_⟩
      rw [lineValue, found]
      dsimp only
      rw [unitValue, same, isSale, ← Except.ok.inj done]
      exact lineRefundAmount_eq _ _ _

theorem refundLines_distinct {saleId : Nat} {line : Option RefundLine} {lines : List RefundLine}
    (done : refundLines s saleId line = .ok lines) : lines ≠ [] ∧ (lines.map (·.saleItemId)).Nodup := by
  cases line with
  | some line =>
    cases done
    exact ⟨List.cons_ne_nil _ _, List.nodup_singleton _⟩
  | none =>
    unfold refundLines at done
    dsimp only at done
    split_ifs at done with nothing
    cases done
    refine ⟨nothing, ?_⟩
    rw [remainingLines, List.map_map]
    exact Table.select_nodup s.saleItems _

end

end Liratek.Basket.RefundedLines
