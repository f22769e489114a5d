import Liratek.Carrier.ResaleLines
import Liratek.Lib.Groups
import Liratek.Lib.Runs

/-! What the recharges and give-backs of a line come to, over any run of changes, undos, sales and edits. -/

namespace Liratek.Carrier.ResaleChanges
open Lib Lib.Calls Lib.Groups Lib.Rounding Lib.Runs ResaleLines Validity
open Stock.Batches hiding Action exec

abbrev Cents (x : ℚ) : Prop := Whole (100 : ℚ) x

theorem round2_cents (x : ℚ) : Cents (round2 x) :=
  roundTo_whole 100 x

/-! Credit and expiry. -/

abbrev LineState := ℚ × Option Day

def lineState (line : ResaleLineRow) : LineState :=
  (line.credits, line.validityExpiresAt)

/-- What a change does to the credit and the expiry of a line. -/
inductive Change where
  | recharge (creditsAdded : ℚ) (daysAdded : ℤ) (day : Day)
  | giveBack (creditsSent smsFeeUsd : ℚ)

def Change.produce : Change → LineState → LineState
  | .recharge creditsAdded daysAdded day, (credits, expiry) =>
    (round2 (credits + creditsAdded), if 0 < daysAdded then (extendedExpiry expiry daysAdded day).expiry else expiry)
  | .giveBack creditsSent smsFeeUsd, (credits, expiry) => (round2 credits - (creditsSent + smsFeeUsd), expiry)

structure Entry where
  transactionId : Nat
  lineId : Nat
  change : Change

def replay (opening : LineState) (entries : List Entry) : LineState :=
  entries.foldl (fun state entry => entry.change.produce state) opening

theorem replay_append (opening : LineState) (entries : List Entry) (entry : Entry) :
    replay opening (entries ++ [entry]) = entry.change.produce (replay opening entries) :=
  List.foldl_append ..

theorem openLine_ok {s : Shop} {productId : Nat} {day : Day} {line : ResaleLineRow} {carrier : ResaleLineCarrier}
    (opened : openLine s productId day = .ok (line, carrier)) : s.lines.get productId = some line := by
  unfold openLine at opened
  rcases found : s.lines.get productId with _ | row
  · rw [found] at opened
    cases opened
  · rw [found] at opened
    rcases saved : row.carrier with _ | carrier'
    · simp only [saved] at opened
      split_ifs at opened
    · simp only [saved] at opened
      split_ifs at opened
      cases opened
      rfl

theorem planRecharge_produces {number : ℤ → String} {s : Shop} {input : RechargeInput} {plan : RechargePlan}
    (planned : planRecharge number s input = .ok plan) :
    s.lines.get input.productId = some plan.line ∧ Cents plan.figures.costUsd ∧
      (plan.newCredits, plan.newExpiry) =
        (Change.recharge plan.figures.creditsAdded plan.figures.daysAdded input.day).produce (lineState plan.line) := by
  obtain ⟨⟨line, carrier⟩, opened, rest⟩ := bind_ok planned
  obtain ⟨figures, sourced, rest⟩ := bind_ok rest
  have found := openLine_ok opened
  have cents : Cents figures.costUsd := by
    unfold sourceFigures at sourced
    split at sourced
    · cases sourced
    · split_ifs at sourced
      cases sourced
      exact round2_cents _
    · obtain ⟨shop, -, read⟩ := bind_ok sourced
      dsimp only at read
      split_ifs at read
      cases read
      exact round2_cents _
    · obtain ⟨shop, -, read⟩ := bind_ok sourced
      cases read
      exact round2_cents _
  dsimp only at rest
  split_ifs at rest with free more burned
  · cases rest
    refine ⟨found, cents, ?_⟩
    simp [Change.produce, lineState, more]
  · cases rest
    refine ⟨found, cents, ?_⟩
    simp [Change.produce, lineState, more]

theorem toCents_div (x : ℚ) : (toCents x : ℚ) / 100 = round2 x := rfl

theorem planGiveBack_produces {s : Shop} {input : GiveBackInput} {line : ResaleLineRow} {plan : LineGiveBackPlan}
    (planned : planGiveBack s input = .ok (line, plan)) :
    s.lines.get input.productId = some line ∧ Cents plan.priceDropUsd ∧ Cents plan.costDropUsd ∧
      (plan.creditsAfter, line.validityExpiresAt) =
        (Change.giveBack plan.creditsSent plan.smsFeeUsd).produce (lineState line) := by
  obtain ⟨⟨line', carrier⟩, opened, rest⟩ := bind_ok planned
  obtain ⟨shop, -, rest⟩ := bind_ok rest
  obtain ⟨plan', figured, rest⟩ := bind_ok rest
  have found := openLine_ok opened
  split_ifs at rest
  cases rest
  unfold planLineGiveBack at figured
  dsimp only at figured
  split_ifs at figured
  cases figured
  refine ⟨found, round2_cents _, round2_cents _, ?_⟩
  simp only [Change.produce, lineState, ← toCents_div, Prod.mk.injEq, and_true]
  push_cast
  ring

/-! What one step can do. -/

/-- A manual edit, as the difference it makes. -/
structure Edit where
  lineId : Nat
  costUsd : ℚ
  priceUsd : ℚ

def recorded (number : ℤ → String) (s : Shop) : Action → List Entry
  | .recharge input =>
    match planRecharge number s input, recharge number s input with
    | .ok plan, .ok _ =>
      [⟨s.transactions.nextId, input.productId, .recharge plan.figures.creditsAdded plan.figures.daysAdded input.day⟩]
    | _, _ => []
  | .giveBack input =>
    match planGiveBack s input, giveBackCredit s input with
    | .ok (_, plan), .ok _ => [⟨s.transactions.nextId, input.productId, .giveBack plan.creditsSent plan.smsFeeUsd⟩]
    | _, _ => []
  | _ => []

def edited (s : Shop) : Action → List Edit
  | .editProduct productId costPriceUsd sellingPriceUsd =>
    match s.lines.get productId with
    | some line => [⟨productId, costPriceUsd - line.costPriceUsd, sellingPriceUsd - line.sellingPriceUsd⟩]
    | none => []
  | _ => []

/-- No change is made or undone. -/
structure Quiet (s s' : Shop) : Prop where
  lines : ∀ p, (s'.lines.get p).map (fun line => (line.costPriceUsd, line.sellingPriceUsd, lineState line)) =
    (s.lines.get p).map fun line => (line.costPriceUsd, line.sellingPriceUsd, lineState line)
  costs : ∀ b, (s'.stock.batches.get b).map (·.unitCostUsd) = (s.stock.batches.get b).map (·.unitCostUsd)
  recharges : s'.recharges = s.recharges
  giveBacks : s'.giveBacks = s.giveBacks
  grows : s.transactions.nextId ≤ s'.transactions.nextId

/-- The line's cost and price move by deltas, and so does the batch the change is kept with. -/
structure Moves (s s' : Shop) (p : Nat) (batchId : Option Nat) (cost price : ℚ) (line line' : ResaleLineRow) : Prop where
  found : s.lines.get p = some line
  moved : s'.lines.get p = some line'
  newCost : line'.costPriceUsd = sqlRound2 (line.costPriceUsd + cost)
  newPrice : line'.sellingPriceUsd = sqlRound2 (line.sellingPriceUsd + price)
  others : ∀ q, q ≠ p → s'.lines.get q = s.lines.get q
  stock : s'.stock = undoUnitCost s.stock batchId cost

/-- What the guards let through: the line is not sold, and no newer change of it is active. -/
structure Undoable (s : Shop) (lineId productId transactionId : Nat) (batchId : Option Nat) : Prop where
  inStock : ∃ line, s.lines.get productId = some line ∧ 0 < line.stockQuantity
  batchInStock : ∀ b, batchId = some b → ∃ batch, s.stock.batches.get b = some batch ∧ 0 < batch.quantityRemaining
  newest : ∀ other ∈ activeLineChanges s lineId, other ≤ transactionId

inductive Stepped (s s' : Shop) : List Entry → List Edit → Prop
  | quiet (nothing : Quiet s s') : Stepped s s' [] []
  | recharged {line line' : ResaleLineRow} (row : ResaleLineRecharge) (change : Change)
    (moves : Moves s s' row.resaleLineId row.batchId row.costUsd row.costUsd line line')
    (own : row.productId = row.resaleLineId ∧ row.transactionId = s.transactions.nextId ∧ row.isReversed = false)
    (cents : Cents row.costUsd) (prev : (row.prevCredits, row.prevValidityExpiresAt) = lineState line)
    (state : lineState line' = change.produce (lineState line)) (recharges : s'.recharges = s.recharges.insert row)
    (giveBacks : s'.giveBacks = s.giveBacks) (next : s'.transactions.nextId = s.transactions.nextId + 1) :
    Stepped s s' [⟨s.transactions.nextId, row.resaleLineId, change⟩] []
  | gaveBack {line line' : ResaleLineRow} (row : ResaleLineGiveBack)
    (moves : Moves s s' row.resaleLineId row.batchId (-row.costDropUsd) (-row.priceDropUsd) line line')
    (own : row.productId = row.resaleLineId ∧ row.transactionId = s.transactions.nextId ∧ row.isReversed = false)
    (cents : Cents row.costDropUsd ∧ Cents row.priceDropUsd) (prev : row.prevCredits = line.credits)
    (state : lineState line' = (Change.giveBack row.creditsSent row.smsFeeUsd).produce (lineState line))
    (recharges : s'.recharges = s.recharges) (giveBacks : s'.giveBacks = s.giveBacks.insert row)
    (next : s'.transactions.nextId = s.transactions.nextId + 1) :
    Stepped s s' [⟨s.transactions.nextId, row.resaleLineId, .giveBack row.creditsSent row.smsFeeUsd⟩] []
  | rechargeUndone {line line' : ResaleLineRow} (rowId : Nat) (row : ResaleLineRecharge)
    (found : s.recharges.get rowId = some row) (active : row.isReversed = false)
    (undoable : Undoable s row.resaleLineId row.productId row.transactionId row.batchId)
    (moves : row.productId = row.resaleLineId →
      Moves s s' row.resaleLineId row.batchId (-row.costUsd) (-row.costUsd) line line' ∧
        lineState line' = (row.prevCredits, row.prevValidityExpiresAt))
    (recharges : s'.recharges = s.recharges.update rowId fun row => { row with isReversed := true })
    (giveBacks : s'.giveBacks = s.giveBacks) (grows : s.transactions.nextId ≤ s'.transactions.nextId) :
    Stepped s s' [] []
  | giveBackUndone {line line' : ResaleLineRow} (rowId : Nat) (row : ResaleLineGiveBack)
    (found : s.giveBacks.get rowId = some row) (active : row.isReversed = false)
    (undoable : Undoable s row.resaleLineId row.productId row.transactionId row.batchId)
    (moves : row.productId = row.resaleLineId →
      Moves s s' row.resaleLineId row.batchId row.costDropUsd row.priceDropUsd line line' ∧
        lineState line' = (row.prevCredits, line.validityExpiresAt))
    (recharges : s'.recharges = s.recharges)
    (giveBacks : s'.giveBacks = s.giveBacks.update rowId fun row => { row with isReversed := true })
    (grows : s.transactions.nextId ≤ s'.transactions.nextId) : Stepped s s' [] []
  | edited {line line' : ResaleLineRow} (p : Nat) (found : s.lines.get p = some line)
    (moved : s'.lines.get p = some line') (same : lineState line' = lineState line)
    (others : ∀ q, q ≠ p → s'.lines.get q = s.lines.get q) (stock : s'.stock = s.stock)
    (recharges : s'.recharges = s.recharges) (giveBacks : s'.giveBacks = s.giveBacks)
    (next : s'.transactions = s.transactions) :
    Stepped s s' [] [⟨p, line'.costPriceUsd - line.costPriceUsd, line'.sellingPriceUsd - line.sellingPriceUsd⟩]

theorem Quiet.refl (s : Shop) : Quiet s s :=
  ⟨fun _ => rfl, fun _ => rfl, rfl, rfl, le_rfl⟩

theorem addToOpenBatchUnitCost_ok {b b' : Book} {productId : Nat} {deltaUsd : ℚ} {batchId : Option Nat}
    (done : addToOpenBatchUnitCost b productId deltaUsd = .ok (b', batchId)) : b' = undoUnitCost b batchId deltaUsd := by
  unfold addToOpenBatchUnitCost at done
  split at done
  · cases done
    rfl
  · split_ifs at done
    cases done
    rfl

theorem recharge_steps {number : ℤ → String} {s s' : Shop} {input : RechargeInput} {plan : RechargePlan}
    (planned : planRecharge number s input = .ok plan) (done : recordRecharge s input plan = .ok s') :
    Stepped s s'
      [⟨s.transactions.nextId, input.productId, .recharge plan.figures.creditsAdded plan.figures.daysAdded input.day⟩] [] := by
  obtain ⟨found, cents, produced⟩ := planRecharge_produces planned
  unfold recordRecharge at done
  split_ifs at done
  obtain ⟨⟨stock, batchId⟩, added, rest⟩ := bind_ok done
  cases rest
  let row : ResaleLineRecharge :=
    { transactionId := s.transactions.nextId
      resaleLineId := input.productId
      productId := input.productId
      source := plan.figures.source
      daysAdded := plan.figures.daysAdded
      creditsAdded := plan.figures.creditsAdded
      costUsd := plan.figures.costUsd
      prevCostUsd := plan.line.costPriceUsd
      prevPriceUsd := plan.line.sellingPriceUsd
      prevValidityExpiresAt := plan.line.validityExpiresAt
      prevCredits := plan.line.credits
      batchId := batchId }
  let line' : ResaleLineRow :=
    { applyCapitalization plan.figures.costUsd plan.line with
      credits := plan.newCredits
      validityExpiresAt := plan.newExpiry }
  refine @Stepped.recharged _ _ plan.line line' row _ ⟨found, ?_, rfl, rfl, ?_, ?_⟩ ⟨rfl, rfl, rfl⟩ cents rfl
    produced rfl rfl ?_
  · exact (Table.get_update_self _ _ _).trans (congrArg _ found)
  · exact fun q other => Table.get_update_of_ne _ _ other
  · exact addToOpenBatchUnitCost_ok added
  · exact Table.nextId_insert _ _

theorem giveBack_steps {s s' : Shop} {input : GiveBackInput} {line : ResaleLineRow} {plan : LineGiveBackPlan}
    (planned : planGiveBack s input = .ok (line, plan)) (done : recordGiveBack s input line plan = .ok s') :
    Stepped s s' [⟨s.transactions.nextId, input.productId, .giveBack plan.creditsSent plan.smsFeeUsd⟩] [] := by
  obtain ⟨found, priceCents, costCents, produced⟩ := planGiveBack_produces planned
  unfold recordGiveBack at done
  split_ifs at done
  obtain ⟨⟨stock, batchId⟩, added, rest⟩ := bind_ok done
  cases rest
  let row : ResaleLineGiveBack :=
    { transactionId := s.transactions.nextId
      resaleLineId := input.productId
      productId := input.productId
      creditsSent := plan.creditsSent
      smsFeeUsd := plan.smsFeeUsd
      priceDropUsd := plan.priceDropUsd
      costDropUsd := plan.costDropUsd
      prevCredits := line.credits
      batchId := batchId }
  let line' : ResaleLineRow :=
    { applyPriceCostDelta (-plan.costDropUsd) (-plan.priceDropUsd) line with credits := plan.creditsAfter }
  refine @Stepped.gaveBack _ _ line line' row ⟨found, ?_, rfl, rfl, ?_, ?_⟩ ⟨rfl, rfl, rfl⟩ ⟨costCents, priceCents⟩ rfl
    produced rfl rfl ?_
  · exact (Table.get_update_self _ _ _).trans (congrArg _ found)
  · exact fun q other => Table.get_update_of_ne _ _ other
  · exact addToOpenBatchUnitCost_ok added
  · exact Table.nextId_insert _ _

theorem assertLineNotSold_ok {s : Shop} {productId : Nat} {batchId : Option Nat}
    (done : assertLineNotSold s productId batchId = .ok ()) :
    (∃ line, s.lines.get productId = some line ∧ 0 < line.stockQuantity) ∧
      ∀ b, batchId = some b → ∃ batch, s.stock.batches.get b = some batch ∧ 0 < batch.quantityRemaining := by
  unfold assertLineNotSold at done
  split_ifs at done with sold
  rw [Bool.or_eq_true, not_or] at sold
  obtain ⟨inStock, batchInStock⟩ := sold
  constructor
  · rcases found : s.lines.get productId with _ | line
    · simp [found] at inStock
    · simp [found] at inStock
      exact ⟨line, rfl, inStock⟩
  · rintro b rfl
    rcases found : s.stock.batches.get b with _ | batch
    · simp [found] at batchInStock
    · simp [found] at batchInStock
      exact ⟨batch, rfl, batchInStock⟩

theorem assertNewestLineChange_ok {s : Shop} {lineId transactionId : Nat}
    (done : assertNewestLineChange s lineId transactionId = .ok ()) :
    ∀ other ∈ activeLineChanges s lineId, other ≤ transactionId := by
  unfold assertNewestLineChange getLatestActiveLineChangeTransactionId at done
  intro other member
  rcases latest : (activeLineChanges s lineId).max? with _ | newest
  · rw [List.max?_eq_none_iff.mp latest] at member
    cases member
  · simp only [latest] at done
    split_ifs at done with same
    rw [← not_not.mp same]
    exact (List.max?_eq_some_iff.mp latest).2 other member

theorem undoable_of_guards {s : Shop} {lineId productId transactionId : Nat} {batchId : Option Nat}
    (notSold : assertLineNotSold s productId batchId = .ok ())
    (newest : assertNewestLineChange s lineId transactionId = .ok ()) :
    Undoable s lineId productId transactionId batchId := by
  obtain ⟨inStock, batchInStock⟩ := assertLineNotSold_ok notSold
  exact ⟨inStock, batchInStock, assertNewestLineChange_ok newest⟩

/-- A line found by its product is moved and then set back to what it was. -/
theorem moved_twice {s : Shop} {p : Nat} {line : ResaleLineRow} (found : s.lines.get p = some line)
    (move back : ResaleLineRow → ResaleLineRow) :
    ((s.lines.update p move).update p back).get p = some (back (move line)) := by
  rw [Table.get_update_self, Table.get_update_self, found]
  rfl

theorem reverseRecharge_steps {s t s' : Shop} {id : Nat} (lines : t.lines = s.lines) (stock : t.stock = s.stock)
    (recharges : t.recharges = s.recharges) (giveBacks : t.giveBacks = s.giveBacks)
    (grows : s.transactions.nextId ≤ t.transactions.nextId) (done : reverseRecharge t id = .ok s') :
    Stepped s s' [] [] := by
  have quiet : Quiet s t :=
    ⟨fun p => by rw [lines], fun b => by rw [stock], recharges, giveBacks, grows⟩
  have sameChanges : ∀ p, activeLineChanges t p = activeLineChanges s p := by
    intro p
    unfold activeLineChanges
    rw [recharges, giveBacks]
  unfold reverseRecharge at done
  split at done
  · cases done
    exact .quiet quiet
  · rename_i rowId row first
    by_cases reversed : row.isReversed = true
    · rw [if_pos reversed] at done
      cases done
      exact .quiet quiet
    · rw [if_neg reversed] at done
      obtain ⟨_, notSold, rest⟩ := bind_ok done
      obtain ⟨_, newest, rest⟩ := bind_ok rest
      split_ifs at rest with missing
      cases rest
      have member := List.mem_of_mem_head? (Option.mem_def.mpr first)
      obtain ⟨found, -⟩ := Table.mem_select.mp member
      have undoable := undoable_of_guards notSold newest
      obtain ⟨line, here, -⟩ := undoable.inStock
      let line' : ResaleLineRow :=
        { applyCapitalization (-row.costUsd) line with
          credits := row.prevCredits
          validityExpiresAt := row.prevValidityExpiresAt }
      refine @Stepped.rechargeUndone _ _ line line' rowId row (recharges ▸ found) (Bool.not_eq_true _ ▸ reversed) ?_ ?_ ?_ giveBacks
        grows
      · exact ⟨lines ▸ undoable.inStock, stock ▸ undoable.batchInStock, sameChanges _ ▸ undoable.newest⟩
      · intro same
        rw [same] at here
        refine ⟨⟨lines ▸ here, ?_, rfl, rfl, ?_, ?_⟩, rfl⟩
        · rw [same]
          exact moved_twice here _ _
        · intro q other
          rw [same, ← lines]
          exact (Table.get_update_of_ne _ _ other).trans (Table.get_update_of_ne _ _ other)
        · rw [← stock]
      · rw [← recharges]

theorem reverseGiveBack_steps {s t s' : Shop} {id : Nat} (lines : t.lines = s.lines) (stock : t.stock = s.stock)
    (recharges : t.recharges = s.recharges) (giveBacks : t.giveBacks = s.giveBacks)
    (grows : s.transactions.nextId ≤ t.transactions.nextId) (done : reverseGiveBack t id = .ok s') :
    Stepped s s' [] [] := by
  have quiet : Quiet s t :=
    ⟨fun p => by rw [lines], fun b => by rw [stock], recharges, giveBacks, grows⟩
  have sameChanges : ∀ p, activeLineChanges t p = activeLineChanges s p := by
    intro p
    unfold activeLineChanges
    rw [recharges, giveBacks]
  unfold reverseGiveBack at done
  split at done
  · cases done
    exact .quiet quiet
  · rename_i rowId row first
    by_cases reversed : row.isReversed = true
    · rw [if_pos reversed] at done
      cases done
      exact .quiet quiet
    · rw [if_neg reversed] at done
      obtain ⟨_, notSold, rest⟩ := bind_ok done
      obtain ⟨_, newest, rest⟩ := bind_ok rest
      split_ifs at rest with missing
      cases rest
      have member := List.mem_of_mem_head? (Option.mem_def.mpr first)
      obtain ⟨found, -⟩ := Table.mem_select.mp member
      have undoable := undoable_of_guards notSold newest
      obtain ⟨line, here, -⟩ := undoable.inStock
      let line' : ResaleLineRow :=
        { applyPriceCostDelta row.costDropUsd row.priceDropUsd line with credits := row.prevCredits }
      refine @Stepped.giveBackUndone _ _ line line' rowId row (giveBacks ▸ found) (Bool.not_eq_true _ ▸ reversed) ?_ ?_ recharges ?_
        grows
      · exact ⟨lines ▸ undoable.inStock, stock ▸ undoable.batchInStock, sameChanges _ ▸ undoable.newest⟩
      · intro same
        rw [same] at here
        refine ⟨⟨lines ▸ here, ?_, rfl, rfl, ?_, ?_⟩, rfl⟩
        · rw [same]
          exact moved_twice here _ _
        · intro q other
          rw [same, ← lines]
          exact (Table.get_update_of_ne _ _ other).trans (Table.get_update_of_ne _ _ other)
        · rw [← stock]
      · rw [← giveBacks]

/-! A sale and its refund leave the unit costs alone. -/

def unitCosts (b : Book) (batchId : Nat) : Option ℚ :=
  (b.batches.get batchId).map (·.unitCostUsd)

theorem unitCosts_update (b : Book) (id : Nat) {change : StockBatch → StockBatch}
    (same : ∀ batch, (change batch).unitCostUsd = batch.unitCostUsd) (consumptions : Table ConsumptionRow) :
    unitCosts ⟨b.batches.update id change, consumptions⟩ = unitCosts b := by
  funext batchId
  unfold unitCosts
  by_cases this : batchId = id
  · rw [this, Table.get_update_self, Option.map_map]
    congr 1
    funext batch
    exact same batch
  · rw [Table.get_update_of_ne _ _ this]

theorem consume_unitCosts (b : Book) (productId : Nat) (quantity : ℤ) (opts : ConsumeOptions) :
    unitCosts (consume b productId quantity opts).1 = unitCosts b := by
  unfold consume
  split_ifs
  · rfl
  · dsimp only
    generalize allocations b productId quantity = taken
    induction taken generalizing b with
    | nil => rfl
    | cons t rest ih =>
      rw [List.foldl_cons, ih, takeFromBatch]
      apply unitCosts_update
      exact fun batch => rfl

theorem restoreRows_unitCosts (rows : List (Nat × ConsumptionRow)) (b : Book) (remaining : Option ℤ) :
    unitCosts (restoreRows b rows remaining) = unitCosts b := by
  induction rows generalizing b remaining with
  | nil => rfl
  | cons entry rest ih =>
    unfold restoreRows
    dsimp only
    split_ifs
    · rfl
    · exact ih b remaining
    · rw [ih, giveBack]
      apply unitCosts_update
      exact fun batch => rfl

theorem restoreForSaleItem_unitCosts (b : Book) (saleItemId : Nat) (quantity : Option ℤ) :
    unitCosts (restoreForSaleItem b saleItemId quantity) = unitCosts b :=
  restoreRows_unitCosts ..

theorem quiet_lines {t : Table ResaleLineRow} {id : Nat} {change : ResaleLineRow → ResaleLineRow}
    (same : ∀ line, ((change line).costPriceUsd, (change line).sellingPriceUsd, lineState (change line)) =
      (line.costPriceUsd, line.sellingPriceUsd, lineState line)) (p : Nat) :
    ((t.update id change).get p).map (fun line => (line.costPriceUsd, line.sellingPriceUsd, lineState line)) =
      (t.get p).map fun line => (line.costPriceUsd, line.sellingPriceUsd, lineState line) := by
  by_cases this : p = id
  · rw [this, Table.get_update_self, Option.map_map]
    congr 1
    funext line
    exact same line
  · rw [Table.get_update_of_ne _ _ this]

theorem undoTransactions_grows (s : Shop) (kind : UndoKind) (original : Transaction) (id : Nat) :
    s.transactions.nextId ≤ (undoTransactions s kind original id).nextId := by
  cases kind with
  | void =>
    unfold undoTransactions
    rw [Table.nextId_insert, Table.nextId_update]
    exact Nat.le_succ _
  | refund =>
    unfold undoTransactions
    rw [Table.nextId_insert]
    exact Nat.le_succ _

theorem undo_steps {s s' : Shop} {kind : UndoKind} {id : Nat} (done : undo s kind id = .ok s') : Stepped s s' [] [] := by
  unfold undo at done
  split at done
  · cases done
  · rename_i original found
    split_ifs at done
    have grows := undoTransactions_grows s kind original id
    let t : Shop := { s with transactions := undoTransactions s kind original id }
    unfold reverseLineChange at done
    split at done
    · exact reverseRecharge_steps (t := t) rfl rfl rfl rfl grows done
    · exact reverseGiveBack_steps (t := t) rfl rfl rfl rfl grows done
    · cases done
    · cases done

/-- Every action changes a shop in one of the ways of `Stepped`. -/
theorem exec_steps (number : ℤ → String) (s : Shop) (action : Action) :
    Stepped s (exec number s action) (recorded number s action) (edited s action) := by
  cases action with
  | recharge input =>
    rcases planned : planRecharge number s input with refused | plan
    · have nothing : recharge number s input = .error refused := by rw [recharge, planned]; rfl
      simp only [exec, recorded, edited, planned, nothing, leaves]
      exact .quiet (.refl s)
    · have written : recharge number s input = recordRecharge s input plan := by rw [recharge, planned]; rfl
      rcases done : recordRecharge s input plan with refused | s'
      · simp only [exec, recorded, edited, planned, written, done, leaves]
        exact .quiet (.refl s)
      · simp only [exec, recorded, edited, planned, written, done, leaves]
        exact recharge_steps planned done
  | giveBack input =>
    rcases planned : planGiveBack s input with refused | ⟨line, plan⟩
    · have nothing : giveBackCredit s input = .error refused := by rw [giveBackCredit, planned]; rfl
      simp only [exec, recorded, edited, planned, nothing, leaves]
      exact .quiet (.refl s)
    · have written : giveBackCredit s input = recordGiveBack s input line plan := by rw [giveBackCredit, planned]; rfl
      rcases done : recordGiveBack s input line plan with refused | s'
      · simp only [exec, recorded, edited, planned, written, done, leaves]
        exact .quiet (.refl s)
      · simp only [exec, recorded, edited, planned, written, done, leaves]
        exact giveBack_steps planned done
  | undo kind id =>
    rcases done : undo s kind id with refused | s'
    · simp only [exec, recorded, edited, done, leaves]
      exact .quiet (.refl s)
    · simp only [exec, recorded, edited, done, leaves]
      exact undo_steps done
  | sell input =>
    simp only [exec, recorded, edited]
    rcases done : sell s input with refused | s'
    · exact .quiet (.refl s)
    · unfold sell at done
      split at done
      · cases done
      · split_ifs at done
        cases done
        refine .quiet ⟨quiet_lines fun _ => rfl, ?_, rfl, rfl, ?_⟩
        · exact congrFun (consume_unitCosts _ _ _ _)
        · exact (Nat.le_succ _).trans_eq (Table.nextId_insert _ _).symm
  | refundSale productId saleItemId quantity =>
    refine .quiet ⟨quiet_lines fun _ => rfl, ?_, rfl, rfl, ?_⟩
    · exact congrFun (restoreForSaleItem_unitCosts _ _ _)
    · exact (Nat.le_succ _).trans_eq (Table.nextId_insert _ _).symm
  | editProduct productId costPriceUsd sellingPriceUsd =>
    simp only [exec, recorded, edited]
    rcases found : s.lines.get productId with _ | line
    · refine .quiet ⟨?_, fun _ => rfl, rfl, rfl, le_rfl⟩
      intro p
      by_cases this : p = productId
      · rw [editProduct, this, Table.get_update_self, found]
        rfl
      · rw [editProduct, Table.get_update_of_ne _ _ this]
    · refine @Stepped.edited _ _ line { line with costPriceUsd, sellingPriceUsd } productId found ?_ rfl ?_ rfl rfl rfl rfl
      · exact (Table.get_update_self _ _ _).trans (congrArg _ found)
      · exact fun q other => Table.get_update_of_ne _ _ other

/-! Amounts in whole cents. -/

structure InCents (s : Shop) : Prop where
  lines : ∀ p line, s.lines.get p = some line → Cents line.costPriceUsd ∧ Cents line.sellingPriceUsd
  batches : ∀ b cost, unitCosts s.stock b = some cost → Cents cost
  recharges : ∀ r row, s.recharges.get r = some row → Cents row.costUsd ∧ row.productId = row.resaleLineId
  giveBacks : ∀ g row, s.giveBacks.get g = some row →
    (Cents row.costDropUsd ∧ Cents row.priceDropUsd) ∧ row.productId = row.resaleLineId

def EditsInCents (edits : List Edit) : Prop :=
  ∀ edit ∈ edits, Cents edit.costUsd ∧ Cents edit.priceUsd

section
variable {s s' : Shop} {p : Nat} {batchId : Option Nat} {cost price : ℚ} {line line' : ResaleLineRow}

theorem unitCosts_undo (b : Book) (batchId : Option Nat) (deltaUsd : ℚ) (i : Nat) :
    unitCosts (undoUnitCost b batchId deltaUsd) i =
      if batchId = some i then (unitCosts b i).map fun cost => sqlRound2 (cost + deltaUsd) else unitCosts b i := by
  rcases batchId with _ | id
  · rfl
  · unfold undoUnitCost addUnitCost unitCosts
    dsimp only
    by_cases this : id = i
    · rw [this, Table.get_update_self, if_pos rfl, Option.map_map, Option.map_map]
      rfl
    · rw [Table.get_update_of_ne _ _ (Ne.symm this), if_neg fun same => this (Option.some.inj same)]

theorem Moves.cents (moves : Moves s s' p batchId cost price line line') (inCents : InCents s) (costCents : Cents cost)
    (priceCents : Cents price) :
    (∀ q row, s'.lines.get q = some row → Cents row.costPriceUsd ∧ Cents row.sellingPriceUsd) ∧
      ∀ b unit, unitCosts s'.stock b = some unit → Cents unit := by
  obtain ⟨costBefore, priceBefore⟩ := inCents.lines p line moves.found
  constructor
  · intro q row there
    by_cases this : q = p
    · rw [this, moves.moved] at there
      cases there
      rw [moves.newCost, moves.newPrice, sqlRound2_cents (costBefore.add costCents), sqlRound2_cents (priceBefore.add priceCents)]
      exact ⟨costBefore.add costCents, priceBefore.add priceCents⟩
    · rw [moves.others q this] at there
      exact inCents.lines q row there
  · intro b unit there
    rw [moves.stock, unitCosts_undo] at there
    split_ifs at there
    · obtain ⟨before, was, rfl⟩ := Option.map_eq_some_iff.mp there
      have whole := (inCents.batches b before was).add costCents
      rwa [sqlRound2_cents whole]
    · exact inCents.batches b unit there

theorem InCents.step {entries : List Entry} {edits : List Edit} (inCents : InCents s) (stepped : Stepped s s' entries edits)
    (whole : EditsInCents edits) : InCents s' := by
  cases stepped with
  | quiet nothing =>
    constructor
    · intro p line there
      have same := nothing.lines p
      rw [there, Option.map_some] at same
      obtain ⟨before, was, figures⟩ := Option.map_eq_some_iff.mp same.symm
      have cents := inCents.lines p before was
      simp only [Prod.mk.injEq] at figures
      rwa [figures.1, figures.2.1] at cents
    · intro b unit there
      exact inCents.batches b unit ((nothing.costs b).symm.trans there)
    · exact nothing.recharges ▸ inCents.recharges
    · exact nothing.giveBacks ▸ inCents.giveBacks
  | recharged row change moves own cents prev state recharges giveBacks next =>
    obtain ⟨lines, batches⟩ := moves.cents inCents cents cents
    refine ⟨lines, batches, ?_, giveBacks ▸ inCents.giveBacks⟩
    intro r old there
    rw [recharges] at there
    rcases Table.get_insert there with was | ⟨-, rfl⟩
    · exact inCents.recharges r old was
    · exact ⟨cents, own.1⟩
  | gaveBack row moves own cents prev state recharges giveBacks next =>
    obtain ⟨lines, batches⟩ := moves.cents inCents cents.1.neg cents.2.neg
    refine ⟨lines, batches, recharges ▸ inCents.recharges, ?_⟩
    intro g old there
    rw [giveBacks] at there
    rcases Table.get_insert there with was | ⟨-, rfl⟩
    · exact inCents.giveBacks g old was
    · exact ⟨cents, own.1⟩
  | rechargeUndone rowId row found active undoable moves recharges giveBacks grows =>
    obtain ⟨cents, same⟩ := inCents.recharges rowId row found
    obtain ⟨lines, batches⟩ := (moves same).1.cents inCents cents.neg cents.neg
    refine ⟨lines, batches, ?_, giveBacks ▸ inCents.giveBacks⟩
    intro r old there
    rw [recharges] at there
    by_cases this : r = rowId
    · rw [this, Table.get_update_self, found] at there
      cases there
      exact ⟨cents, same⟩
    · rw [Table.get_update_of_ne _ _ this] at there
      exact inCents.recharges r old there
  | giveBackUndone rowId row found active undoable moves recharges giveBacks grows =>
    obtain ⟨cents, same⟩ := inCents.giveBacks rowId row found
    obtain ⟨lines, batches⟩ := (moves same).1.cents inCents cents.1 cents.2
    refine ⟨lines, batches, recharges ▸ inCents.recharges, ?_⟩
    intro g old there
    rw [giveBacks] at there
    by_cases this : g = rowId
    · rw [this, Table.get_update_self, found] at there
      cases there
      exact ⟨cents, same⟩
    · rw [Table.get_update_of_ne _ _ this] at there
      exact inCents.giveBacks g old there
  | @edited before after p found moved same others stock recharges giveBacks next =>
    obtain ⟨costCents, priceCents⟩ := whole _ (List.mem_singleton_self _)
    obtain ⟨costBefore, priceBefore⟩ := inCents.lines p before found
    refine ⟨?_, stock ▸ inCents.batches, recharges ▸ inCents.recharges, giveBacks ▸ inCents.giveBacks⟩
    intro q row there
    by_cases this : q = p
    · rw [this, moved] at there
      cases there
      have costAfter := costBefore.add costCents
      have priceAfter := priceBefore.add priceCents
      rw [add_sub_cancel] at costAfter priceAfter
      exact ⟨costAfter, priceAfter⟩
    · rw [others q this] at there
      exact inCents.lines q row there

end

/-! The changes that are not undone, added up. -/

def figures (line : ResaleLineRow) : ℚ × ℚ :=
  (line.costPriceUsd, line.sellingPriceUsd)

def rechargeStands (row : ResaleLineRecharge) : Bool :=
  !row.isReversed

def giveBackStands (row : ResaleLineGiveBack) : Bool :=
  !row.isReversed

/-- What the standing changes of a line come to, in its cost and in its price. -/
def lineDelta (s : Shop) (lineId : Nat) : ℚ × ℚ :=
  groupSum (fun row => some row.resaleLineId) rechargeStands s.recharges lineId (fun row => (row.costUsd, row.costUsd)) -
    groupSum (fun row => some row.resaleLineId) giveBackStands s.giveBacks lineId fun row => (row.costDropUsd, row.priceDropUsd)

/-- What the standing changes kept with a batch come to. -/
def batchDelta (s : Shop) (batchId : Nat) : ℚ :=
  groupSum ResaleLineRecharge.batchId rechargeStands s.recharges batchId (·.costUsd) -
    groupSum ResaleLineGiveBack.batchId giveBackStands s.giveBacks batchId (·.costDropUsd)

def editsOf (edits : List Edit) (lineId : Nat) : ℚ × ℚ :=
  ((edits.filter (·.lineId = lineId)).map fun edit => (edit.costUsd, edit.priceUsd)).sum

/-- The deltas a step adds to a line and to a batch. -/
structure Deltas (s s' : Shop) (lineId : Nat) (batchId : Option Nat) (cost price : ℚ) : Prop where
  line : ∀ p, lineDelta s' p = lineDelta s p + if lineId = p then (cost, price) else 0
  batch : ∀ b, batchDelta s' b = batchDelta s b + if batchId = some b then cost else 0

section
variable {s s' : Shop} {entries : List Entry} {edits : List Edit}

theorem deltas_recharged (row : ResaleLineRecharge) (stands : row.isReversed = false)
    (recharges : s'.recharges = s.recharges.insert row) (giveBacks : s'.giveBacks = s.giveBacks) :
    Deltas s s' row.resaleLineId row.batchId row.costUsd row.costUsd := by
  constructor
  · intro p
    unfold lineDelta
    rw [recharges, giveBacks, groupSum_added]
    simp only [Option.some.injEq, rechargeStands, stands, Bool.not_false, and_true]
    abel
  · intro b
    unfold batchDelta
    rw [recharges, giveBacks, groupSum_added]
    simp only [rechargeStands, stands, Bool.not_false, and_true]
    abel

theorem deltas_gaveBack (row : ResaleLineGiveBack) (stands : row.isReversed = false)
    (recharges : s'.recharges = s.recharges) (giveBacks : s'.giveBacks = s.giveBacks.insert row) :
    Deltas s s' row.resaleLineId row.batchId (-row.costDropUsd) (-row.priceDropUsd) := by
  constructor
  · intro p
    unfold lineDelta
    rw [recharges, giveBacks, groupSum_added]
    simp only [Option.some.injEq, giveBackStands, stands, Bool.not_false, and_true]
    split_ifs
    · rw [← Prod.neg_mk]
      abel
    · abel
  · intro b
    unfold batchDelta
    rw [recharges, giveBacks, groupSum_added]
    simp only [giveBackStands, stands, Bool.not_false, and_true]
    split_ifs <;> abel

theorem deltas_rechargeUndone {rowId : Nat} {row : ResaleLineRecharge} (found : s.recharges.get rowId = some row)
    (active : row.isReversed = false)
    (recharges : s'.recharges = s.recharges.update rowId fun row => { row with isReversed := true })
    (giveBacks : s'.giveBacks = s.giveBacks) :
    Deltas s s' row.resaleLineId row.batchId (-row.costUsd) (-row.costUsd) := by
  have stands : rechargeStands row = true := by rw [rechargeStands, active]; rfl
  constructor
  · intro p
    unfold lineDelta
    rw [recharges, giveBacks, groupSum_takenOut found rfl stands]
    simp only [Option.some.injEq]
    split_ifs
    · rw [← Prod.neg_mk]
      abel
    · abel
  · intro b
    unfold batchDelta
    rw [recharges, giveBacks, groupSum_takenOut found rfl stands]
    split_ifs <;> abel

theorem deltas_giveBackUndone {rowId : Nat} {row : ResaleLineGiveBack} (found : s.giveBacks.get rowId = some row)
    (active : row.isReversed = false) (recharges : s'.recharges = s.recharges)
    (giveBacks : s'.giveBacks = s.giveBacks.update rowId fun row => { row with isReversed := true }) :
    Deltas s s' row.resaleLineId row.batchId row.costDropUsd row.priceDropUsd := by
  have stands : giveBackStands row = true := by rw [giveBackStands, active]; rfl
  constructor
  · intro p
    unfold lineDelta
    rw [recharges, giveBacks, groupSum_takenOut found rfl stands]
    simp only [Option.some.injEq]
    split_ifs <;> abel
  · intro b
    unfold batchDelta
    rw [recharges, giveBacks, groupSum_takenOut found rfl stands]
    split_ifs <;> abel

end

/-- Cost and price of every line, from the start, its standing changes and the manual edits. -/
def PricesStand (start s : Shop) (edits : List Edit) : Prop :=
  ∀ p opening, start.lines.get p = some opening → ∃ line, s.lines.get p = some line ∧
    figures line = figures opening + (lineDelta s p - lineDelta start p) + editsOf edits p

def CostsStand (start s : Shop) : Prop :=
  ∀ b, unitCosts s.stock b = (unitCosts start.stock b).map fun cost => cost + (batchDelta s b - batchDelta start b)

section
variable {start s s' : Shop} {entries : List Entry} {edits more : List Edit} {p : Nat} {batchId : Option Nat}
  {cost price : ℚ} {line line' : ResaleLineRow}

theorem Moves.figures (moves : Moves s s' p batchId cost price line line') (inCents : InCents s) (costCents : Cents cost)
    (priceCents : Cents price) : figures line' = figures line + (cost, price) := by
  obtain ⟨costBefore, priceBefore⟩ := inCents.lines p line moves.found
  unfold ResaleChanges.figures
  rw [moves.newCost, moves.newPrice, sqlRound2_cents (costBefore.add costCents), sqlRound2_cents (priceBefore.add priceCents)]
  rfl

theorem PricesStand.moves (stand : PricesStand start s edits) (inCents : InCents s)
    (moves : Moves s s' p batchId cost price line line') (deltas : Deltas s s' p batchId cost price)
    (costCents : Cents cost) (priceCents : Cents price) : PricesStand start s' edits := by
  intro q opening found
  obtain ⟨row, there, sums⟩ := stand q opening found
  rw [deltas.line]
  by_cases this : q = p
  · rw [this, moves.found] at there
    cases there
    refine ⟨line', this ▸ moves.moved, ?_⟩
    rw [moves.figures inCents costCents priceCents, sums, if_pos this.symm]
    abel
  · refine ⟨row, (moves.others q this).trans there, ?_⟩
    rw [sums, if_neg (Ne.symm this), add_zero]

theorem CostsStand.moves (stand : CostsStand start s) (inCents : InCents s)
    (moves : Moves s s' p batchId cost price line line') (deltas : Deltas s s' p batchId cost price)
    (costCents : Cents cost) : CostsStand start s' := by
  intro b
  rw [moves.stock, unitCosts_undo, deltas.batch]
  have before := stand b
  split_ifs
  · rcases unit : unitCosts start.stock b with _ | opening
    · rw [unit] at before
      rw [before]
      rfl
    · rw [unit, Option.map_some] at before
      have cents := inCents.batches b _ before
      rw [before, Option.map_some, Option.map_some, sqlRound2_cents (cents.add costCents)]
      congr 1
      ring
  · rw [before, add_zero]

theorem editsOf_append (first second : List Edit) (p : Nat) : editsOf (first ++ second) p = editsOf first p + editsOf second p := by
  unfold editsOf
  rw [List.filter_append, List.map_append, List.sum_append]

theorem editsOf_single (edit : Edit) (p : Nat) :
    editsOf [edit] p = if edit.lineId = p then (edit.costUsd, edit.priceUsd) else 0 := by
  unfold editsOf
  rw [List.filter_singleton]
  by_cases this : edit.lineId = p
  · simp [this]
  · simp [this]

theorem lineDelta_same (recharges : s'.recharges = s.recharges) (giveBacks : s'.giveBacks = s.giveBacks) (p : Nat) :
    lineDelta s' p = lineDelta s p := by
  unfold lineDelta
  rw [recharges, giveBacks]

theorem batchDelta_same (recharges : s'.recharges = s.recharges) (giveBacks : s'.giveBacks = s.giveBacks) (b : Nat) :
    batchDelta s' b = batchDelta s b := by
  unfold batchDelta
  rw [recharges, giveBacks]

theorem PricesStand.step (stand : PricesStand start s edits) (inCents : InCents s) (stepped : Stepped s s' entries more) :
    PricesStand start s' (edits ++ more) := by
  cases stepped with
  | quiet nothing =>
    rw [List.append_nil]
    intro q opening found
    obtain ⟨row, there, sums⟩ := stand q opening found
    have same := nothing.lines q
    rw [there, Option.map_some] at same
    obtain ⟨after, here, kept⟩ := Option.map_eq_some_iff.mp same
    simp only [Prod.mk.injEq] at kept
    refine ⟨after, here, ?_⟩
    rw [lineDelta_same nothing.recharges nothing.giveBacks, ← sums, figures, figures, kept.1, kept.2.1]
  | recharged row change moves own cents prev state recharges giveBacks next =>
    rw [List.append_nil]
    exact stand.moves inCents moves (deltas_recharged row own.2.2 recharges giveBacks) cents cents
  | gaveBack row moves own cents prev state recharges giveBacks next =>
    rw [List.append_nil]
    exact stand.moves inCents moves (deltas_gaveBack row own.2.2 recharges giveBacks) cents.1.neg cents.2.neg
  | rechargeUndone rowId row found active undoable moves recharges giveBacks grows =>
    rw [List.append_nil]
    obtain ⟨cents, same⟩ := inCents.recharges rowId row found
    exact stand.moves inCents (moves same).1 (deltas_rechargeUndone found active recharges giveBacks) cents.neg cents.neg
  | giveBackUndone rowId row found active undoable moves recharges giveBacks grows =>
    rw [List.append_nil]
    obtain ⟨cents, same⟩ := inCents.giveBacks rowId row found
    exact stand.moves inCents (moves same).1 (deltas_giveBackUndone found active recharges giveBacks) cents.1 cents.2
  | @edited before after p found moved same others stock recharges giveBacks next =>
    intro q opening opened
    obtain ⟨row, there, sums⟩ := stand q opening opened
    rw [lineDelta_same recharges giveBacks, editsOf_append, editsOf_single]
    by_cases this : q = p
    · rw [this, found] at there
      cases there
      refine ⟨after, this ▸ moved, ?_⟩
      rw [if_pos this.symm, ← add_assoc, ← sums]
      unfold figures
      rw [Prod.mk_add_mk, add_sub_cancel, add_sub_cancel]
    · refine ⟨row, (others q this).trans there, ?_⟩
      rw [if_neg (Ne.symm this), add_zero, sums]

theorem CostsStand.step (stand : CostsStand start s) (inCents : InCents s) (stepped : Stepped s s' entries more) :
    CostsStand start s' := by
  cases stepped with
  | quiet nothing =>
    intro b
    rw [batchDelta_same nothing.recharges nothing.giveBacks, ← stand b]
    exact nothing.costs b
  | recharged row change moves own cents prev state recharges giveBacks next =>
    exact stand.moves inCents moves (deltas_recharged row own.2.2 recharges giveBacks) cents
  | gaveBack row moves own cents prev state recharges giveBacks next =>
    exact stand.moves inCents moves (deltas_gaveBack row own.2.2 recharges giveBacks) cents.1.neg
  | rechargeUndone rowId row found active undoable moves recharges giveBacks grows =>
    obtain ⟨cents, same⟩ := inCents.recharges rowId row found
    exact stand.moves inCents (moves same).1 (deltas_rechargeUndone found active recharges giveBacks) cents.neg
  | giveBackUndone rowId row found active undoable moves recharges giveBacks grows =>
    obtain ⟨cents, same⟩ := inCents.giveBacks rowId row found
    exact stand.moves inCents (moves same).1 (deltas_giveBackUndone found active recharges giveBacks) cents.1
  | edited p found moved same others stock recharges giveBacks next =>
    intro b
    rw [batchDelta_same recharges giveBacks, stock]
    exact stand b

end

/-! The log of the changes, and which of them stand. -/

/-- An active change of a line: a recharge (left) or a give-back (right), and its transaction. -/
def ChangeAt (s : Shop) (p : Nat) : Nat ⊕ Nat → Nat → Prop
  | .inl r, id => ∃ row, s.recharges.get r = some row ∧ row.resaleLineId = p ∧ row.isReversed = false ∧ row.transactionId = id
  | .inr g, id => ∃ row, s.giveBacks.get g = some row ∧ row.resaleLineId = p ∧ row.isReversed = false ∧ row.transactionId = id

/-- What an undo of the change sets the line back to. A give-back sets back the credit only. -/
def Restores (s : Shop) : Nat ⊕ Nat → LineState → Prop
  | .inl r, state => ∃ row, s.recharges.get r = some row ∧ (row.prevCredits, row.prevValidityExpiresAt) = state
  | .inr g, state => ∃ row, s.giveBacks.get g = some row ∧ row.prevCredits = state.1

def standing (s : Shop) (entries : List Entry) (p : Nat) : List Entry :=
  entries.filter fun entry => entry.lineId = p && decide (entry.transactionId ∈ activeLineChanges s p)

def earlier (s : Shop) (entries : List Entry) (p id : Nat) : List Entry :=
  (standing s entries p).filter (·.transactionId < id)

structure DetailsStand (opening : LineState) (p : Nat) (s : Shop) (entries : List Entry) : Prop where
  sorted : entries.Pairwise (·.transactionId < ·.transactionId)
  below : ∀ entry ∈ entries, entry.transactionId < s.transactions.nextId
  noted : ∀ key id, ChangeAt s p key id → ∃ entry ∈ entries, entry.transactionId = id ∧ entry.lineId = p ∧
    (key.isRight = true → ∃ creditsSent smsFeeUsd, entry.change = .giveBack creditsSent smsFeeUsd)
  restores : ∀ key id, ChangeAt s p key id → Restores s key (replay opening (earlier s entries p id))
  once : ∀ key key' id, ChangeAt s p key id → ChangeAt s p key' id → key = key'
  line : ∃ line, s.lines.get p = some line ∧ lineState line = replay opening (standing s entries p)

section
variable {s s' : Shop} {entries : List Entry} {p q id id' : Nat} {key newKey : Nat ⊕ Nat} {opening : LineState}

theorem mem_activeLineChanges : id ∈ activeLineChanges s p ↔ ∃ key, ChangeAt s p key id := by
  unfold activeLineChanges
  rw [List.mem_append, List.mem_map, List.mem_map, Sum.exists]
  constructor
  · rintro (⟨entry, member, same⟩ | ⟨entry, member, same⟩)
    · obtain ⟨found, active⟩ := Table.mem_select.mp (show (entry.1, entry.2) ∈ _ from member)
      rw [Bool.and_eq_true, decide_eq_true_eq, Bool.not_eq_true'] at active
      exact Or.inl ⟨entry.1, entry.2, found, active.1, active.2, same⟩
    · obtain ⟨found, active⟩ := Table.mem_select.mp (show (entry.1, entry.2) ∈ _ from member)
      rw [Bool.and_eq_true, decide_eq_true_eq, Bool.not_eq_true'] at active
      exact Or.inr ⟨entry.1, entry.2, found, active.1, active.2, same⟩
  · rintro (⟨r, row, found, line, active, same⟩ | ⟨g, row, found, line, active, same⟩)
    · exact Or.inl ⟨(r, row), Table.mem_select.mpr ⟨found, by simp [line, active]⟩, same⟩
    · exact Or.inr ⟨(g, row), Table.mem_select.mpr ⟨found, by simp [line, active]⟩, same⟩

theorem ChangeAt.same (here : ChangeAt s p key id) (there : ChangeAt s q key id') : p = q ∧ id = id' := by
  rcases key with r | g
  · obtain ⟨row, found, line, -, transaction⟩ := here
    obtain ⟨row', found', line', -, transaction'⟩ := there
    rw [found] at found'
    cases found'
    exact ⟨line.symm.trans line', transaction.symm.trans transaction'⟩
  · obtain ⟨row, found, line, -, transaction⟩ := here
    obtain ⟨row', found', line', -, transaction'⟩ := there
    rw [found] at found'
    cases found'
    exact ⟨line.symm.trans line', transaction.symm.trans transaction'⟩

/-- Entries in the order of their transactions: the newest is the last one. -/
theorem split_newest {list : List Entry} (sorted : list.Pairwise (·.transactionId < ·.transactionId)) {entry : Entry}
    (member : entry ∈ list) (newest : ∀ other ∈ list, other.transactionId ≤ entry.transactionId) :
    list = list.filter (·.transactionId < entry.transactionId) ++ [entry] := by
  induction list with
  | nil => cases member
  | cons first rest ih =>
    obtain ⟨before, sorted⟩ := List.pairwise_cons.mp sorted
    rcases List.mem_cons.mp member with same | later
    · have last : rest = [] := by
        apply List.eq_nil_iff_forall_not_mem.mpr
        intro other there
        have least := newest other (List.mem_cons_of_mem first there)
        have above := before other there
        rw [same] at least
        omega
      rw [last, same]
      simp
    · have first_before := before entry later
      have tail := ih sorted later fun other there => newest other (List.mem_cons_of_mem first there)
      rw [List.filter_cons, if_pos (decide_eq_true first_before), List.cons_append, ← tail]

theorem standing_congr (same : ∀ i, i ∈ activeLineChanges s' p ↔ i ∈ activeLineChanges s p) :
    standing s' entries p = standing s entries p := by
  unfold standing
  apply List.filter_congr
  intro entry _
  simp only [same]

/-- A change of another line, or none at all. -/
theorem DetailsStand.elsewhere (stand : DetailsStand opening p s entries)
    (same : ∀ key id, ChangeAt s' p key id ↔ ChangeAt s p key id)
    (kept : ∀ key state, Restores s key state → Restores s' key state)
    (line : ∀ before, s.lines.get p = some before → ∃ after, s'.lines.get p = some after ∧ lineState after = lineState before)
    (grows : s.transactions.nextId ≤ s'.transactions.nextId) : DetailsStand opening p s' entries := by
  have still : standing s' entries p = standing s entries p :=
    standing_congr fun i => by simp only [mem_activeLineChanges, same]
  obtain ⟨before, found, state⟩ := stand.line
  obtain ⟨after, here, sameState⟩ := line before found
  refine ⟨stand.sorted, fun entry member => (stand.below entry member).trans_le grows, ?_, ?_, ?_, ?_⟩
  · exact fun key id here => stand.noted key id ((same key id).mp here)
  · intro key id here
    unfold earlier
    rw [still]
    exact kept key _ (stand.restores key id ((same key id).mp here))
  · exact fun key key' id here there => stand.once key key' id ((same key id).mp here) ((same key' id).mp there)
  · exact ⟨after, here, by rw [still, sameState, state]⟩

/-- A new entry that is not of this line. -/
theorem DetailsStand.noteOther (stand : DetailsStand opening p s entries) {entry : Entry} (other : entry.lineId ≠ p)
    (later : ∀ e ∈ entries, e.transactionId < entry.transactionId) (below : entry.transactionId < s.transactions.nextId) :
    DetailsStand opening p s (entries ++ [entry]) := by
  have still : standing s (entries ++ [entry]) p = standing s entries p := by
    unfold standing
    rw [List.filter_append, List.filter_singleton]
    simp [other]
  refine ⟨?_, ?_, ?_, ?_, stand.once, ?_⟩
  · exact List.pairwise_append.mpr ⟨stand.sorted, List.pairwise_singleton _ _, fun e member e' last =>
      (List.mem_singleton.mp last) ▸ later e member⟩
  · intro e member
    rcases List.mem_append.mp member with old | last
    · exact stand.below e old
    · rw [List.mem_singleton.mp last]
      exact below
  · intro key id here
    obtain ⟨e, member, rest⟩ := stand.noted key id here
    exact ⟨e, List.mem_append_left _ member, rest⟩
  · intro key id here
    unfold earlier
    rw [still]
    exact stand.restores key id here
  · rw [still]
    exact stand.line

/-- A new change of the line. -/
theorem DetailsStand.adds (stand : DetailsStand opening p s entries) {change : Change}
    (adds : ∀ key id, ChangeAt s' p key id ↔ ChangeAt s p key id ∨ key = newKey ∧ id = s.transactions.nextId)
    (kept : ∀ key state, Restores s key state → Restores s' key state) {line line' : ResaleLineRow}
    (found : s.lines.get p = some line) (moved : s'.lines.get p = some line')
    (produced : lineState line' = change.produce (lineState line)) (restores : Restores s' newKey (lineState line))
    (giveBack : newKey.isRight = true → ∃ creditsSent smsFeeUsd, change = .giveBack creditsSent smsFeeUsd)
    (next : s'.transactions.nextId = s.transactions.nextId + 1) :
    DetailsStand opening p s' (entries ++ [⟨s.transactions.nextId, p, change⟩]) := by
  have active : ∀ i, i ∈ activeLineChanges s' p ↔ i ∈ activeLineChanges s p ∨ i = s.transactions.nextId := by
    intro i
    simp only [mem_activeLineChanges, adds, exists_or, exists_eq_left]
  have more : standing s' (entries ++ [⟨s.transactions.nextId, p, change⟩]) p =
      standing s entries p ++ [⟨s.transactions.nextId, p, change⟩] := by
    unfold standing
    rw [List.filter_append, List.filter_singleton]
    congr 1
    · apply List.filter_congr
      intro entry member
      have old := (stand.below entry member).ne
      simp only [active, old, or_false]
    · simp [active]
  have before : ∀ entry ∈ standing s entries p, entry.transactionId < s.transactions.nextId :=
    fun entry member => stand.below entry (List.mem_of_mem_filter member)
  have old : ∀ key id, ChangeAt s p key id → id < s.transactions.nextId := by
    intro key id here
    obtain ⟨entry, member, transaction, -⟩ := stand.noted key id here
    rw [← transaction]
    exact stand.below entry member
  have still : ∀ id, id ≤ s.transactions.nextId →
      earlier s' (entries ++ [⟨s.transactions.nextId, p, change⟩]) p id = earlier s entries p id := by
    intro id le
    unfold earlier
    rw [more, List.filter_append, List.filter_singleton]
    simp [Nat.not_lt.mpr le]
  obtain ⟨row, there, state⟩ := stand.line
  rw [found] at there
  cases there
  refine ⟨?_, ?_, ?_, ?_, ?_, ?_⟩
  · exact List.pairwise_append.mpr ⟨stand.sorted, List.pairwise_singleton _ _, fun e member e' last =>
      (List.mem_singleton.mp last) ▸ stand.below e member⟩
  · intro entry member
    rw [next]
    rcases List.mem_append.mp member with first | last
    · exact Nat.lt_succ_of_lt (stand.below entry first)
    · rw [List.mem_singleton.mp last]
      exact Nat.lt_succ_self _
  · intro key id here
    rcases (adds key id).mp here with first | ⟨rfl, rfl⟩
    · obtain ⟨entry, member, rest⟩ := stand.noted key id first
      exact ⟨entry, List.mem_append_left _ member, rest⟩
    · exact ⟨_, List.mem_append_right _ (List.mem_singleton_self _), rfl, rfl, giveBack⟩
  · intro key id here
    rcases (adds key id).mp here with first | ⟨rfl, rfl⟩
    · rw [still id (old key id first).le]
      exact kept key _ (stand.restores key id first)
    · have all : earlier s entries p s.transactions.nextId = standing s entries p :=
        List.filter_eq_self.mpr fun entry member => decide_eq_true (before entry member)
      rw [still _ le_rfl, all, ← state]
      exact restores
  · intro key key' id here there
    rcases (adds key id).mp here with first | ⟨new, last⟩ <;> rcases (adds key' id).mp there with first' | ⟨new', last'⟩
    · exact stand.once key key' id first first'
    · exact absurd last' (old key id first).ne
    · exact absurd last (old key' id first').ne
    · rw [new, new']
  · exact ⟨line', moved, by rw [more, replay_append, produced, state]⟩

/-- The newest change of the line is undone. -/
theorem DetailsStand.drops (stand : DetailsStand opening p s entries) (here : ChangeAt s p key id)
    (drops : ∀ key' id', ChangeAt s' p key' id' ↔ ChangeAt s p key' id' ∧ key' ≠ key)
    (kept : ∀ key state, Restores s key state → Restores s' key state)
    (newest : ∀ other ∈ activeLineChanges s p, other ≤ id) {line line' : ResaleLineRow}
    (found : s.lines.get p = some line) (moved : s'.lines.get p = some line')
    (setBack : ∀ state, Restores s key state → (key.isRight = true → line.validityExpiresAt = state.2) → lineState line' = state)
    (grows : s.transactions.nextId ≤ s'.transactions.nextId) : DetailsStand opening p s' entries := by
  have active : ∀ i, i ∈ activeLineChanges s' p ↔ i ∈ activeLineChanges s p ∧ i ≠ id := by
    intro i
    simp only [mem_activeLineChanges, drops]
    constructor
    · intro ⟨key', there, other⟩
      refine ⟨⟨key', there⟩, ?_⟩
      rintro rfl
      exact other (stand.once key' key i there here)
    · intro ⟨⟨key', there⟩, other⟩
      refine ⟨key', there, ?_⟩
      rintro rfl
      exact other (there.same here).2
  have standingBelow : ∀ entry ∈ standing s entries p, entry.transactionId ≤ id := by
    intro entry member
    have chosen := (List.mem_filter.mp member).2
    rw [Bool.and_eq_true, decide_eq_true_eq, decide_eq_true_eq] at chosen
    exact newest _ chosen.2
  have rest : standing s' entries p = earlier s entries p id := by
    unfold earlier standing
    rw [List.filter_filter]
    apply List.filter_congr
    intro entry member
    by_cases chosen : entry.lineId = p ∧ entry.transactionId ∈ activeLineChanges s p
    · have le := newest _ chosen.2
      have lt_iff : entry.transactionId ≠ id ↔ entry.transactionId < id := by omega
      simp [chosen.1, chosen.2, active, lt_iff]
    · have out : ¬(entry.lineId = p ∧ entry.transactionId ∈ activeLineChanges s' p) := fun both =>
        chosen ⟨both.1, ((active _).mp both.2).1⟩
      rw [← Bool.decide_and, ← Bool.decide_and, decide_eq_false out, decide_eq_false chosen, Bool.and_false]
  have older : ∀ id', id' ≤ id → earlier s' entries p id' = earlier s entries p id' := by
    intro id' le
    unfold earlier
    rw [rest, earlier, List.filter_filter]
    apply List.filter_congr
    intro entry _
    by_cases this : entry.transactionId < id'
    · have lt : entry.transactionId < id := this.trans_le le
      simp [this, lt]
    · simp [this]
  obtain ⟨row, there, state⟩ := stand.line
  rw [found] at there
  cases there
  refine ⟨stand.sorted, fun entry member => (stand.below entry member).trans_le grows, ?_, ?_, ?_, ?_⟩
  · exact fun key' id' there => stand.noted key' id' ((drops key' id').mp there).1
  · intro key' id' there
    have was := ((drops key' id').mp there).1
    rw [older id' (newest id' (mem_activeLineChanges.mpr ⟨key', was⟩))]
    exact kept key' _ (stand.restores key' id' was)
  · exact fun key' key'' id' there there' =>
      stand.once key' key'' id' ((drops key' id').mp there).1 ((drops key'' id').mp there').1
  · refine ⟨line', moved, ?_⟩
    rw [rest]
    apply setBack _ (stand.restores key id here)
    -- a give-back left the expiry alone
    intro right
    obtain ⟨entry, member, transaction, ofLine, change⟩ := stand.noted key id here
    obtain ⟨creditsSent, smsFeeUsd, gaveBack⟩ := change right
    have listed : entry ∈ standing s entries p := by
      apply List.mem_filter.mpr
      refine ⟨member, ?_⟩
      have isActive : entry.transactionId ∈ activeLineChanges s p := mem_activeLineChanges.mpr ⟨key, transaction ▸ here⟩
      simp [ofLine, isActive]
    have split := split_newest (stand.sorted.filter _) listed (transaction ▸ standingBelow)
    rw [transaction] at split
    have expiry := congrArg Prod.snd state
    rw [show standing s entries p = _ from split, replay_append, gaveBack] at expiry
    exact expiry

end

section
variable {s s' : Shop} {entries more : List Entry} {edits : List Edit} {p : Nat} {opening : LineState}

theorem changeAt_same (recharges : s'.recharges = s.recharges) (giveBacks : s'.giveBacks = s.giveBacks) (q : Nat)
    (key : Nat ⊕ Nat) (id : Nat) : ChangeAt s' q key id ↔ ChangeAt s q key id := by
  rcases key with r | g
  · dsimp only [ChangeAt]
    rw [recharges]
  · dsimp only [ChangeAt]
    rw [giveBacks]

theorem changeAt_recharged {row : ResaleLineRecharge} (active : row.isReversed = false)
    (recharges : s'.recharges = s.recharges.insert row) (giveBacks : s'.giveBacks = s.giveBacks) (q : Nat)
    (key : Nat ⊕ Nat) (id : Nat) : ChangeAt s' q key id ↔
      ChangeAt s q key id ∨ key = .inl s.recharges.nextId ∧ row.resaleLineId = q ∧ id = row.transactionId := by
  rcases key with r | g
  · dsimp only [ChangeAt]
    rw [recharges]
    constructor
    · intro ⟨old, found, rest⟩
      rcases Table.get_insert found with was | ⟨rfl, rfl⟩
      · exact Or.inl ⟨old, was, rest⟩
      · exact Or.inr ⟨rfl, rest.1, rest.2.2.symm⟩
    · rintro (⟨old, found, rest⟩ | ⟨same, line, rfl⟩)
      · exact ⟨old, Table.get_insert_of_get found, rest⟩
      · cases same
        exact ⟨row, Table.get_insert_self _ _, line, active, rfl⟩
  · dsimp only [ChangeAt]
    rw [giveBacks]
    simp

theorem changeAt_gaveBack {row : ResaleLineGiveBack} (active : row.isReversed = false)
    (recharges : s'.recharges = s.recharges) (giveBacks : s'.giveBacks = s.giveBacks.insert row) (q : Nat)
    (key : Nat ⊕ Nat) (id : Nat) : ChangeAt s' q key id ↔
      ChangeAt s q key id ∨ key = .inr s.giveBacks.nextId ∧ row.resaleLineId = q ∧ id = row.transactionId := by
  rcases key with r | g
  · dsimp only [ChangeAt]
    rw [recharges]
    simp
  · dsimp only [ChangeAt]
    rw [giveBacks]
    constructor
    · intro ⟨old, found, rest⟩
      rcases Table.get_insert found with was | ⟨rfl, rfl⟩
      · exact Or.inl ⟨old, was, rest⟩
      · exact Or.inr ⟨rfl, rest.1, rest.2.2.symm⟩
    · rintro (⟨old, found, rest⟩ | ⟨same, line, rfl⟩)
      · exact ⟨old, Table.get_insert_of_get found, rest⟩
      · cases same
        exact ⟨row, Table.get_insert_self _ _, line, active, rfl⟩

theorem changeAt_rechargeUndone {rowId : Nat}
    (recharges : s'.recharges = s.recharges.update rowId fun row => { row with isReversed := true })
    (giveBacks : s'.giveBacks = s.giveBacks) (q : Nat) (key : Nat ⊕ Nat) (id : Nat) :
    ChangeAt s' q key id ↔ ChangeAt s q key id ∧ key ≠ .inl rowId := by
  rcases key with r | g
  · dsimp only [ChangeAt]
    rw [recharges]
    by_cases this : r = rowId
    · rw [this, Table.get_update_self]
      constructor
      · intro ⟨row, found, _, active, _⟩
        obtain ⟨old, -, rfl⟩ := Option.map_eq_some_iff.mp found
        cases active
      · exact fun both => absurd rfl both.2
    · rw [Table.get_update_of_ne _ _ this]
      exact (and_iff_left fun same => this (Sum.inl.inj same)).symm
  · dsimp only [ChangeAt]
    rw [giveBacks]
    simp

theorem changeAt_giveBackUndone {rowId : Nat} (recharges : s'.recharges = s.recharges)
    (giveBacks : s'.giveBacks = s.giveBacks.update rowId fun row => { row with isReversed := true }) (q : Nat)
    (key : Nat ⊕ Nat) (id : Nat) : ChangeAt s' q key id ↔ ChangeAt s q key id ∧ key ≠ .inr rowId := by
  rcases key with r | g
  · dsimp only [ChangeAt]
    rw [recharges]
    simp
  · dsimp only [ChangeAt]
    rw [giveBacks]
    by_cases this : g = rowId
    · rw [this, Table.get_update_self]
      constructor
      · intro ⟨row, found, _, active, _⟩
        obtain ⟨old, -, rfl⟩ := Option.map_eq_some_iff.mp found
        cases active
      · exact fun both => absurd rfl both.2
    · rw [Table.get_update_of_ne _ _ this]
      exact (and_iff_left fun same => this (Sum.inr.inj same)).symm

/-- A row keeps what it restores. -/
theorem Restores.kept (stepped : Stepped s s' entries edits) {key : Nat ⊕ Nat} {state : LineState}
    (restores : Restores s key state) : Restores s' key state := by
  have sameRecharges : s'.recharges = s.recharges → ∀ r, Restores s (.inl r) state → Restores s' (.inl r) state := by
    intro same r
    unfold Restores
    rw [same]
    exact id
  have sameGiveBacks : s'.giveBacks = s.giveBacks → ∀ g, Restores s (.inr g) state → Restores s' (.inr g) state := by
    intro same g
    unfold Restores
    rw [same]
    exact id
  rcases key with r | g
  · cases stepped with
    | quiet nothing => exact sameRecharges nothing.recharges r restores
    | recharged row change moves own cents prev state recharges giveBacks next =>
      obtain ⟨old, found, same⟩ := restores
      exact ⟨old, recharges ▸ Table.get_insert_of_get found, same⟩
    | gaveBack row moves own cents prev state recharges giveBacks next => exact sameRecharges recharges r restores
    | rechargeUndone rowId row found active undoable moves recharges giveBacks grows =>
      obtain ⟨old, there, same⟩ := restores
      refine ⟨_, recharges ▸ Table.get_update_of_get there rowId _, ?_⟩
      split_ifs
      · exact same
      · exact same
    | giveBackUndone rowId row found active undoable moves recharges giveBacks grows =>
      exact sameRecharges recharges r restores
    | edited q found moved same others stock recharges giveBacks next => exact sameRecharges recharges r restores
  · cases stepped with
    | quiet nothing => exact sameGiveBacks nothing.giveBacks g restores
    | recharged row change moves own cents prev state recharges giveBacks next => exact sameGiveBacks giveBacks g restores
    | gaveBack row moves own cents prev state recharges giveBacks next =>
      obtain ⟨old, found, same⟩ := restores
      exact ⟨old, giveBacks ▸ Table.get_insert_of_get found, same⟩
    | rechargeUndone rowId row found active undoable moves recharges giveBacks grows =>
      exact sameGiveBacks giveBacks g restores
    | giveBackUndone rowId row found active undoable moves recharges giveBacks grows =>
      obtain ⟨old, there, same⟩ := restores
      refine ⟨_, giveBacks ▸ Table.get_update_of_get there rowId _, ?_⟩
      split_ifs
      · exact same
      · exact same
    | edited q found moved same others stock recharges giveBacks next => exact sameGiveBacks giveBacks g restores

theorem DetailsStand.step (stand : DetailsStand opening p s entries) (inCents : InCents s)
    (stepped : Stepped s s' more edits) : DetailsStand opening p s' (entries ++ more) := by
  have kept : ∀ key state, Restores s key state → Restores s' key state := fun _ _ => Restores.kept stepped
  cases stepped with
  | quiet nothing =>
    rw [List.append_nil]
    apply stand.elsewhere (changeAt_same nothing.recharges nothing.giveBacks p) kept ?_ nothing.grows
    intro before found
    have same := nothing.lines p
    rw [found, Option.map_some] at same
    obtain ⟨after, here, figures⟩ := Option.map_eq_some_iff.mp same
    simp only [Prod.mk.injEq] at figures
    exact ⟨after, here, figures.2.2⟩
  | recharged row change moves own cents prev state recharges giveBacks next =>
    have changes := changeAt_recharged own.2.2 recharges giveBacks p
    by_cases this : row.resaleLineId = p
    · subst this
      have adds : ∀ key id, ChangeAt s' row.resaleLineId key id ↔
          ChangeAt s row.resaleLineId key id ∨ key = .inl s.recharges.nextId ∧ id = s.transactions.nextId := by
        intro key id
        rw [changes, own.2.1, eq_self_iff_true, true_and]
      exact stand.adds adds kept moves.found moves.moved state ⟨row, recharges ▸ Table.get_insert_self _ _, prev⟩
        (fun right => absurd right Bool.false_ne_true) next
    · have still := stand.elsewhere (fun key id => by simp [changes, this]) kept
        (fun before found => ⟨before, (moves.others p (Ne.symm this)).trans found, rfl⟩) (Nat.le_of_lt (next ▸ Nat.lt_succ_self _))
      exact still.noteOther this stand.below (next ▸ Nat.lt_succ_self _)
  | gaveBack row moves own cents prev state recharges giveBacks next =>
    have changes := changeAt_gaveBack own.2.2 recharges giveBacks p
    by_cases this : row.resaleLineId = p
    · subst this
      have adds : ∀ key id, ChangeAt s' row.resaleLineId key id ↔
          ChangeAt s row.resaleLineId key id ∨ key = .inr s.giveBacks.nextId ∧ id = s.transactions.nextId := by
        intro key id
        rw [changes, own.2.1, eq_self_iff_true, true_and]
      exact stand.adds adds kept moves.found moves.moved state ⟨row, giveBacks ▸ Table.get_insert_self _ _, prev⟩
        (fun _ => ⟨_, _, rfl⟩) next
    · have still := stand.elsewhere (fun key id => by simp [changes, this]) kept
        (fun before found => ⟨before, (moves.others p (Ne.symm this)).trans found, rfl⟩) (Nat.le_of_lt (next ▸ Nat.lt_succ_self _))
      exact still.noteOther this stand.below (next ▸ Nat.lt_succ_self _)
  | rechargeUndone rowId row found active undoable moves recharges giveBacks grows =>
    rw [List.append_nil]
    obtain ⟨-, same⟩ := inCents.recharges rowId row found
    obtain ⟨moves, setBack⟩ := moves same
    have changes := changeAt_rechargeUndone recharges giveBacks p
    by_cases this : row.resaleLineId = p
    · subst this
      have here : ChangeAt s row.resaleLineId (.inl rowId) row.transactionId := ⟨row, found, rfl, active, rfl⟩
      apply stand.drops here changes kept undoable.newest moves.found moves.moved ?_ grows
      intro state ⟨row', there, before⟩ _
      rw [found] at there
      cases there
      exact setBack.trans before
    · apply stand.elsewhere ?_ kept (fun before found => ⟨before, (moves.others p (Ne.symm this)).trans found, rfl⟩) grows
      intro key id
      rw [changes, and_iff_left_iff_imp]
      intro here sameKey
      subst sameKey
      obtain ⟨row', there, line, -⟩ := here
      rw [found] at there
      cases there
      exact this line
  | giveBackUndone rowId row found active undoable moves recharges giveBacks grows =>
    rw [List.append_nil]
    obtain ⟨-, same⟩ := inCents.giveBacks rowId row found
    obtain ⟨moves, setBack⟩ := moves same
    have changes := changeAt_giveBackUndone recharges giveBacks p
    by_cases this : row.resaleLineId = p
    · subst this
      have here : ChangeAt s row.resaleLineId (.inr rowId) row.transactionId := ⟨row, found, rfl, active, rfl⟩
      apply stand.drops here changes kept undoable.newest moves.found moves.moved ?_ grows
      intro state ⟨row', there, credits⟩ expiry
      rw [found] at there
      cases there
      rw [setBack, credits, expiry rfl]
    · apply stand.elsewhere ?_ kept (fun before found => ⟨before, (moves.others p (Ne.symm this)).trans found, rfl⟩) grows
      intro key id
      rw [changes, and_iff_left_iff_imp]
      intro here sameKey
      subst sameKey
      obtain ⟨row', there, line, -⟩ := here
      rw [found] at there
      cases there
      exact this line
  | edited q found moved same others stock recharges giveBacks next =>
    rw [List.append_nil]
    apply stand.elsewhere (changeAt_same recharges giveBacks p) kept ?_ (next ▸ le_rfl)
    intro before there
    by_cases this : p = q
    · subst this
      rw [found] at there
      cases there
      exact ⟨_, moved, same⟩
    · exact ⟨before, (others p this).trans there, rfl⟩

end

/-! An undo that is done takes its change out. -/

/-- Each change has a transaction of its own, of its type. -/
structure Owned {α : Type} (changes : Table α) (transactionOf : α → Nat) (type : TransactionType) (transactions : Table Transaction) :
    Prop where
  there : ∀ r row, changes.get r = some row → ∃ transaction, transactions.get (transactionOf row) = some transaction ∧
    transaction.type = type
  once : ∀ r r' row row', changes.get r = some row → changes.get r' = some row' → transactionOf row = transactionOf row' → r = r'

structure Linked (s : Shop) : Prop where
  recharges : Owned s.recharges (·.transactionId) .lineRecharge s.transactions
  giveBacks : Owned s.giveBacks (·.transactionId) .lineCreditGiveBack s.transactions

/-- A transaction is never deleted, and keeps its type. -/
def KeepsTypes (transactions transactions' : Table Transaction) : Prop :=
  ∀ i transaction, transactions.get i = some transaction → ∃ after, transactions'.get i = some after ∧ after.type = transaction.type

section
variable {α : Type} {changes : Table α} {transactionOf : α → Nat} {type : TransactionType} {transactions transactions' : Table Transaction}

theorem keepsTypes_insert (transactions : Table Transaction) (transaction : Transaction) :
    KeepsTypes transactions (transactions.insert transaction) :=
  fun _ before found => ⟨before, Table.get_insert_of_get found, rfl⟩

theorem undoTransactions_keepsTypes (s : Shop) (kind : UndoKind) (original : Transaction) (id : Nat) :
    KeepsTypes s.transactions (undoTransactions s kind original id) := by
  cases kind with
  | refund => exact keepsTypes_insert _ _
  | void =>
    intro i before found
    refine ⟨_, Table.get_insert_of_get (Table.get_update_of_get found id _), ?_⟩
    split_ifs
    · rfl
    · rfl

theorem Owned.grows (owned : Owned changes transactionOf type transactions) (keeps : KeepsTypes transactions transactions') :
    Owned changes transactionOf type transactions' where
  there r row found := by
    obtain ⟨transaction, there, isType⟩ := owned.there r row found
    obtain ⟨after, afterThere, same⟩ := keeps _ transaction there
    exact ⟨after, afterThere, same.trans isType⟩
  once := owned.once

theorem Owned.records (owned : Owned changes transactionOf type transactions) {row : α} (own : transactionOf row = transactions.nextId)
    {transaction : Transaction} (isType : transaction.type = type) :
    Owned (changes.insert row) transactionOf type (transactions.insert transaction) where
  there r other found := by
    rcases Table.get_insert found with old | ⟨-, rfl⟩
    · exact (owned.grows (keepsTypes_insert transactions transaction)).there r other old
    · exact ⟨transaction, by rw [own, Table.get_insert_self], isType⟩
  once r r' one two oneFound twoFound same := by
    have fresh : ∀ i before, changes.get i = some before → transactionOf before ≠ transactions.nextId := by
      intro i before found
      obtain ⟨earlier, there, -⟩ := owned.there i before found
      exact (Table.get_lt there).ne
    rcases Table.get_insert oneFound with oneOld | ⟨rfl, rfl⟩ <;> rcases Table.get_insert twoFound with twoOld | ⟨rfl, rfl⟩
    · exact owned.once r r' one two oneOld twoOld same
    · exact absurd (same.trans own) (fresh r one oneOld)
    · exact absurd (same.symm.trans own) (fresh r' two twoOld)
    · rfl

theorem Owned.marks (owned : Owned changes transactionOf type transactions) (i : Nat) {change : α → α}
    (keeps : ∀ row, transactionOf (change row) = transactionOf row) : Owned (changes.update i change) transactionOf type transactions where
  there r row found := by
    obtain ⟨before, there, same⟩ := Table.get_update_keeps transactionOf keeps found
    rw [← same]
    exact owned.there r before there
  once r r' one two oneFound twoFound same := by
    obtain ⟨oneBefore, oneThere, sameOne⟩ := Table.get_update_keeps transactionOf keeps oneFound
    obtain ⟨twoBefore, twoThere, sameTwo⟩ := Table.get_update_keeps transactionOf keeps twoFound
    exact owned.once r r' oneBefore twoBefore oneThere twoThere (sameOne.trans (same.trans sameTwo.symm))

end

section
variable {s s' : Shop} {id : Nat}

theorem reverseRecharge_linked (linked : Linked s) (done : reverseRecharge s id = .ok s') : Linked s' := by
  unfold reverseRecharge at done
  split at done
  · cases done
    exact linked
  · rename_i rowId row first
    by_cases reversed : row.isReversed = true
    · rw [if_pos reversed] at done
      cases done
      exact linked
    · rw [if_neg reversed] at done
      obtain ⟨_, -, rest⟩ := bind_ok done
      obtain ⟨_, -, rest⟩ := bind_ok rest
      split_ifs at rest
      cases rest
      exact ⟨linked.recharges.marks _ fun _ => rfl, linked.giveBacks⟩

theorem reverseGiveBack_linked (linked : Linked s) (done : reverseGiveBack s id = .ok s') : Linked s' := by
  unfold reverseGiveBack at done
  split at done
  · cases done
    exact linked
  · rename_i rowId row first
    by_cases reversed : row.isReversed = true
    · rw [if_pos reversed] at done
      cases done
      exact linked
    · rw [if_neg reversed] at done
      obtain ⟨_, -, rest⟩ := bind_ok done
      obtain ⟨_, -, rest⟩ := bind_ok rest
      split_ifs at rest
      cases rest
      exact ⟨linked.recharges, linked.giveBacks.marks _ fun _ => rfl⟩

theorem Linked.transactions (linked : Linked s) {transactions : Table Transaction} (keeps : KeepsTypes s.transactions transactions) :
    Linked { s with transactions } :=
  ⟨linked.recharges.grows keeps, linked.giveBacks.grows keeps⟩

theorem undo_linked (linked : Linked s) {kind : UndoKind} (done : undo s kind id = .ok s') : Linked s' := by
  unfold undo at done
  split at done
  · cases done
  · rename_i original found
    split_ifs at done
    have marked := linked.transactions (undoTransactions_keepsTypes s kind original id)
    unfold reverseLineChange at done
    split at done
    · exact reverseRecharge_linked marked done
    · exact reverseGiveBack_linked marked done
    · cases done
    · cases done

theorem recharge_linked (linked : Linked s) {number : ℤ → String} {input : RechargeInput} (done : recharge number s input = .ok s') :
    Linked s' := by
  obtain ⟨plan, -, recorded⟩ := bind_ok done
  unfold recordRecharge at recorded
  split_ifs at recorded
  obtain ⟨⟨stock, batchId⟩, -, rest⟩ := bind_ok recorded
  cases rest
  exact ⟨linked.recharges.records rfl rfl, linked.giveBacks.grows (keepsTypes_insert _ _)⟩

theorem giveBackCredit_linked (linked : Linked s) {input : GiveBackInput} (done : giveBackCredit s input = .ok s') : Linked s' := by
  obtain ⟨⟨line, plan⟩, -, recorded⟩ := bind_ok done
  unfold recordGiveBack at recorded
  split_ifs at recorded
  obtain ⟨⟨stock, batchId⟩, -, rest⟩ := bind_ok recorded
  cases rest
  exact ⟨linked.recharges.grows (keepsTypes_insert _ _), linked.giveBacks.records rfl rfl⟩

theorem exec_linked (number : ℤ → String) (linked : Linked s) (action : Action) : Linked (exec number s action) := by
  cases action with
  | recharge input => exact leaves_invariant linked fun _ done => recharge_linked linked done
  | giveBack input => exact leaves_invariant linked fun _ done => giveBackCredit_linked linked done
  | undo kind id => exact leaves_invariant linked fun _ done => undo_linked linked done
  | sell input =>
    refine leaves_invariant linked fun sold done => ?_
    unfold sell at done
    split at done
    · cases done
    · split_ifs at done
      cases done
      exact ⟨linked.recharges.grows (keepsTypes_insert _ _), linked.giveBacks.grows (keepsTypes_insert _ _)⟩
  | refundSale productId saleItemId quantity =>
    exact ⟨linked.recharges.grows (keepsTypes_insert _ _), linked.giveBacks.grows (keepsTypes_insert _ _)⟩
  | editProduct productId costPriceUsd sellingPriceUsd => exact ⟨linked.recharges, linked.giveBacks⟩

/-- No change of another type has the transaction. -/
theorem Owned.foreign {α : Type} {changes : Table α} {transactionOf : α → Nat} {type : TransactionType} {transactions : Table Transaction}
    (owned : Owned changes transactionOf type transactions) {transaction : Transaction} (found : transactions.get id = some transaction)
    (other : transaction.type ≠ type) {r : Nat} {row : α} (there : changes.get r = some row) : transactionOf row ≠ id := by
  rintro rfl
  obtain ⟨own, ownThere, isType⟩ := owned.there r row there
  rw [found] at ownThere
  cases ownThere
  exact other isType

theorem reverseRecharge_undone (linked : Linked s) {transaction : Transaction} (found : s.transactions.get id = some transaction)
    (isRecharge : transaction.type = .lineRecharge) (done : reverseRecharge s id = .ok s') (p : Nat) (key : Nat ⊕ Nat) :
    ¬ChangeAt s' p key id := by
  have notGiveBack : ∀ g row, s.giveBacks.get g = some row → row.transactionId ≠ id := fun g row there =>
    linked.giveBacks.foreign found (by rw [isRecharge]; exact TransactionType.noConfusion) there
  unfold reverseRecharge at done
  split at done
  · rename_i none'
    cases done
    rintro here
    rcases key with r | g
    · obtain ⟨row, there, -, -, isIt⟩ := here
      have member : (r, row) ∈ s.recharges.select fun row => row.transactionId = id := Table.mem_select.mpr ⟨there, decide_eq_true isIt⟩
      rw [List.head?_eq_none_iff.mp none'] at member
      cases member
    · obtain ⟨row, there, -, -, isIt⟩ := here
      exact notGiveBack g row there isIt
  · rename_i rowId row first
    obtain ⟨rowThere, isOf⟩ := Table.mem_select.mp (List.mem_of_mem_head? (Option.mem_def.mpr first))
    have ownId : row.transactionId = id := of_decide_eq_true isOf
    by_cases reversed : row.isReversed = true
    · rw [if_pos reversed] at done
      cases done
      rintro here
      rcases key with r | g
      · obtain ⟨other, there, -, active, isIt⟩ := here
        obtain rfl := linked.recharges.once r rowId other row there rowThere (isIt.trans ownId.symm)
        rw [rowThere] at there
        cases there
        rw [active] at reversed
        cases reversed
      · obtain ⟨other, there, -, -, isIt⟩ := here
        exact notGiveBack g other there isIt
    · rw [if_neg reversed] at done
      obtain ⟨_, -, rest⟩ := bind_ok done
      obtain ⟨_, -, rest⟩ := bind_ok rest
      split_ifs at rest
      cases rest
      intro stands
      obtain ⟨here, notIt⟩ := (changeAt_rechargeUndone (s := s) (by exact rfl) (by exact rfl) p key id).mp stands
      rcases key with r | g
      · obtain ⟨other, there, -, -, isIt⟩ := here
        exact notIt (congrArg Sum.inl (linked.recharges.once r rowId other row there rowThere (isIt.trans ownId.symm)))
      · obtain ⟨other, there, -, -, isIt⟩ := here
        exact notGiveBack g other there isIt

theorem reverseGiveBack_undone (linked : Linked s) {transaction : Transaction} (found : s.transactions.get id = some transaction)
    (isGiveBack : transaction.type = .lineCreditGiveBack) (done : reverseGiveBack s id = .ok s') (p : Nat) (key : Nat ⊕ Nat) :
    ¬ChangeAt s' p key id := by
  have notRecharge : ∀ r row, s.recharges.get r = some row → row.transactionId ≠ id := fun r row there =>
    linked.recharges.foreign found (by rw [isGiveBack]; exact TransactionType.noConfusion) there
  unfold reverseGiveBack at done
  split at done
  · rename_i none'
    cases done
    rintro here
    rcases key with r | g
    · obtain ⟨row, there, -, -, isIt⟩ := here
      exact notRecharge r row there isIt
    · obtain ⟨row, there, -, -, isIt⟩ := here
      have member : (g, row) ∈ s.giveBacks.select fun row => row.transactionId = id := Table.mem_select.mpr ⟨there, decide_eq_true isIt⟩
      rw [List.head?_eq_none_iff.mp none'] at member
      cases member
  · rename_i rowId row first
    obtain ⟨rowThere, isOf⟩ := Table.mem_select.mp (List.mem_of_mem_head? (Option.mem_def.mpr first))
    have ownId : row.transactionId = id := of_decide_eq_true isOf
    by_cases reversed : row.isReversed = true
    · rw [if_pos reversed] at done
      cases done
      rintro here
      rcases key with r | g
      · obtain ⟨other, there, -, -, isIt⟩ := here
        exact notRecharge r other there isIt
      · obtain ⟨other, there, -, active, isIt⟩ := here
        obtain rfl := linked.giveBacks.once g rowId other row there rowThere (isIt.trans ownId.symm)
        rw [rowThere] at there
        cases there
        rw [active] at reversed
        cases reversed
    · rw [if_neg reversed] at done
      obtain ⟨_, -, rest⟩ := bind_ok done
      obtain ⟨_, -, rest⟩ := bind_ok rest
      split_ifs at rest
      cases rest
      intro stands
      obtain ⟨here, notIt⟩ := (changeAt_giveBackUndone (s := s) (by exact rfl) (by exact rfl) p key id).mp stands
      rcases key with r | g
      · obtain ⟨other, there, -, -, isIt⟩ := here
        exact notRecharge r other there isIt
      · obtain ⟨other, there, -, -, isIt⟩ := here
        exact notIt (congrArg Sum.inr (linked.giveBacks.once g rowId other row there rowThere (isIt.trans ownId.symm)))

/-- What is undone is no active change of any line any more. -/
theorem undo_undone (linked : Linked s) {kind : UndoKind} (done : undo s kind id = .ok s') (p : Nat) : id ∉ activeLineChanges s' p := by
  rw [mem_activeLineChanges]
  rintro ⟨key, here⟩
  unfold undo at done
  split at done
  · cases done
  · rename_i original found
    split_ifs at done
    have keeps := undoTransactions_keepsTypes s kind original id
    have marked := linked.transactions keeps
    obtain ⟨after, afterThere, sameType⟩ := keeps id original found
    unfold reverseLineChange at done
    split at done
    · rename_i isRecharge
      exact reverseRecharge_undone marked afterThere (sameType.trans isRecharge) done p key here
    · rename_i isGiveBack
      exact reverseGiveBack_undone marked afterThere (sameType.trans isGiveBack) done p key here
    · cases done
    · cases done

end

/-! Runs. -/

/-- A shop with the log of its changes and of the manual edits. -/
structure Trace where
  shop : Shop
  changes : List Entry := []
  edits : List Edit := []

def follow (number : ℤ → String) (t : Trace) (action : Action) : Trace where
  shop := exec number t.shop action
  changes := t.changes ++ recorded number t.shop action
  edits := t.edits ++ edited t.shop action

def InWholeCents : Action → Prop
  | .editProduct _ costPriceUsd sellingPriceUsd => Cents costPriceUsd ∧ Cents sellingPriceUsd
  | _ => True

def batchOf (s : Shop) : Nat ⊕ Nat → Option Nat
  | .inl r => (s.recharges.get r).bind (·.batchId)
  | .inr g => (s.giveBacks.get g).bind (·.batchId)

/-- A change that a step undoes is the newest active one of a line that is not sold. -/
def UndoneOpenly (s s' : Shop) : Prop :=
  ∀ p key id, ChangeAt s p key id → ¬ChangeAt s' p key id → Undoable s p p id (batchOf s key)

section
variable {number : ℤ → String} {start s s' : Shop} {p : Nat}

theorem follow_shop (t : Trace) (actions : List Action) :
    (run (follow number) t actions).shop = run (exec number) t.shop actions := by
  induction actions generalizing t with
  | nil => rfl
  | cons action rest ih => exact ih (follow number t action)

theorem edits_inCents (inCents : InCents s) {action : Action} (whole : InWholeCents action) :
    EditsInCents (edited s action) := by
  unfold EditsInCents edited
  split
  · rename_i productId costPriceUsd sellingPriceUsd
    rcases found : s.lines.get productId with _ | line
    · exact fun edit member => absurd member List.not_mem_nil
    · intro edit member
      rw [List.mem_singleton.mp member]
      obtain ⟨cost, price⟩ := inCents.lines productId line found
      exact ⟨whole.1.sub cost, whole.2.sub price⟩
  · exact fun edit member => absurd member List.not_mem_nil

theorem undoneOpenly {entries : List Entry} {edits : List Edit} (inCents : InCents s)
    (stepped : Stepped s s' entries edits) : UndoneOpenly s s' := by
  intro p key id here gone
  cases stepped with
  | quiet nothing => exact absurd ((changeAt_same nothing.recharges nothing.giveBacks p key id).mpr here) gone
  | recharged row change moves own cents prev state recharges giveBacks next =>
    exact absurd ((changeAt_recharged own.2.2 recharges giveBacks p key id).mpr (Or.inl here)) gone
  | gaveBack row moves own cents prev state recharges giveBacks next =>
    exact absurd ((changeAt_gaveBack own.2.2 recharges giveBacks p key id).mpr (Or.inl here)) gone
  | rechargeUndone rowId row found active undoable moves recharges giveBacks grows =>
    rw [changeAt_rechargeUndone recharges giveBacks, not_and_not_right] at gone
    have sameKey := gone here
    subst sameKey
    obtain ⟨row', there, line, -, transaction⟩ := here
    rw [found] at there
    cases there
    have product := (inCents.recharges rowId row found).2
    dsimp only [batchOf]
    rw [found, Option.bind_some, ← transaction, ← line]
    exact product ▸ undoable
  | giveBackUndone rowId row found active undoable moves recharges giveBacks grows =>
    rw [changeAt_giveBackUndone recharges giveBacks, not_and_not_right] at gone
    have sameKey := gone here
    subst sameKey
    obtain ⟨row', there, line, -, transaction⟩ := here
    rw [found] at there
    cases there
    have product := (inCents.giveBacks rowId row found).2
    dsimp only [batchOf]
    rw [found, Option.bind_some, ← transaction, ← line]
    exact product ▸ undoable
  | edited q found moved same others stock recharges giveBacks next =>
    exact absurd ((changeAt_same recharges giveBacks p key id).mpr here) gone

theorem lineDelta_fresh (fresh : activeLineChanges s p = []) : lineDelta s p = 0 := by
  have none : ∀ key id, ¬ChangeAt s p key id := by
    intro key id here
    have member := mem_activeLineChanges.mpr ⟨key, here⟩
    rw [fresh] at member
    cases member
  unfold lineDelta groupSum
  rw [Table.total_eq_zero, Table.total_eq_zero, sub_zero]
  · intro g row found
    apply if_neg
    intro ⟨line, stands⟩
    exact none (.inr g) _ ⟨row, found, Option.some.inj line, (Bool.not_eq_true' _).mp stands, rfl⟩
  · intro r row found
    apply if_neg
    intro ⟨line, stands⟩
    exact none (.inl r) _ ⟨row, found, Option.some.inj line, (Bool.not_eq_true' _).mp stands, rfl⟩

theorem details_fresh (fresh : activeLineChanges s p = []) {line : ResaleLineRow} (found : s.lines.get p = some line) :
    DetailsStand (lineState line) p s [] := by
  have none : ∀ key id, ¬ChangeAt s p key id := by
    intro key id here
    have member := mem_activeLineChanges.mpr ⟨key, here⟩
    rw [fresh] at member
    cases member
  exact ⟨List.Pairwise.nil, fun entry member => absurd member List.not_mem_nil,
    fun key id here => absurd here (none key id), fun key id here => absurd here (none key id),
    fun key key' id here => absurd here (none key id), line, found, rfl⟩

/-- What holds of every shop on the way. -/
structure Stands (start : Shop) (t : Trace) : Prop where
  inCents : InCents t.shop
  prices : PricesStand start t.shop t.edits
  costs : CostsStand start t.shop
  details : ∀ p opening, start.lines.get p = some opening → activeLineChanges start p = [] →
    DetailsStand (lineState opening) p t.shop t.changes

theorem stands_start (inCents : InCents start) : Stands start { shop := start } where
  inCents := inCents
  prices p opening found := ⟨opening, found, by rw [sub_self, add_zero]; exact (add_zero _).symm⟩
  costs b := by simp only [sub_self, add_zero, Option.map_id']
  details _ _ found fresh := details_fresh fresh found

theorem Stands.step {t : Trace} (stands : Stands start t) {action : Action} (whole : InWholeCents action) :
    Stands start (follow number t action) := by
  have stepped := exec_steps number t.shop action
  exact ⟨stands.inCents.step stepped (edits_inCents stands.inCents whole), stands.prices.step stands.inCents stepped,
    stands.costs.step stands.inCents stepped, fun p opening found fresh =>
      (stands.details p opening found fresh).step stands.inCents stepped⟩

theorem stands_run (inCents : InCents start) {actions : List Action} (whole : ∀ action ∈ actions, InWholeCents action) :
    Stands start (run (follow number) { shop := start } actions) := by
  have keeps : ∀ t action, Stands start t → InWholeCents action → Stands start (follow number t action) :=
    fun t action stands whole => stands.step whole
  exact run_invariant keeps (stands_start inCents) (meets_of_forall whole _)

end

/-- In whole cents, from any shop: the cost and the price of a line that had no standing change are what they were, with the
changes that are not undone and the manual edits; its credit and its expiry are those that these changes alone produce;
each batch keeps the deltas of its own changes; only the newest change of an unsold line is ever undone; and a change whose
undo is done stands no more. -/
theorem line_changes_undone (number : ℤ → String) {start : Shop} (inCents : InCents start) {actions : List Action}
    (whole : ∀ action ∈ actions, InWholeCents action) (t : Trace) (ran : run (follow number) { shop := start } actions = t) :
    t.shop = run (exec number) start actions ∧
      (∀ p opening, start.lines.get p = some opening → activeLineChanges start p = [] →
        ∃ line, t.shop.lines.get p = some line ∧
          figures line = figures opening + lineDelta t.shop p + editsOf t.edits p ∧
          lineState line = replay (lineState opening) (standing t.shop t.changes p)) ∧
      CostsStand start t.shop ∧
      (∀ before action after, actions = before ++ action :: after →
        UndoneOpenly (run (exec number) start before) (exec number (run (exec number) start before) action)) ∧
      (Linked start → ∀ kind id s', undo t.shop kind id = .ok s' → ∀ p, id ∉ activeLineChanges s' p) := by
  subst ran
  refine ⟨follow_shop _ _, ?_, (stands_run inCents whole).costs, ?_, fun linked kind id s' done p => ?_⟩
  · intro p opening found fresh
    have stands : Stands start (run (follow number) { shop := start } actions) := stands_run inCents whole
    obtain ⟨line, there, sums⟩ := stands.prices p opening found
    obtain ⟨line', there', state⟩ := (stands.details p opening found fresh).line
    rw [there] at there'
    cases there'
    rw [lineDelta_fresh fresh, sub_zero] at sums
    exact ⟨line, there, sums, state⟩
  · intro before action after split
    have wholeBefore : ∀ action ∈ before, InWholeCents action :=
      fun action member => whole action (split ▸ List.mem_append_left _ member)
    have stands : Stands start (run (follow number) { shop := start } before) := stands_run inCents wholeBefore
    have cents := follow_shop { shop := start } before ▸ stands.inCents
    exact undoneOpenly cents (exec_steps number _ action)
  · rw [follow_shop] at done
    exact undo_undone (run_always Linked (fun _ action linked => exec_linked number linked action) linked actions) done p

/-- One line for sale, in one batch. -/
def shopWithLine : Shop where
  lines := ⟨[some
    { costPriceUsd := 10, sellingPriceUsd := 15, stockQuantity := 1, carrier := some .mtc, credits := 7
      validityExpiresAt := some 130 }]⟩
  stock :=
    { batches := ⟨[some
        { productId := 0, supplierId := none, quantity := 1, quantityRemaining := 1, unitCostUsd := 10, booksDebt := false
          ledgerEntryId := none, transactionId := none, isOpening := true, createdBy := none, createdAt := "2026-01-01" }]⟩ }

def shopLine : ShopLine :=
  { phoneNumber := "03123456", carrier := .mtc, isActive := true, validityExpiresAt := some 200 }

/-- The give-back is undone once the line is back from a sale and was edited. -/
def changedAndUndone : List Action :=
  [.recharge { productId := 0, payFrom := .shopLineCredit (some shopLine) 3, day := 100, exchangeRate := 90000, creditCostRateLbp := 85000 },
    .giveBack { productId := 0, creditsKept := 2, creditSellPriceLbp := 100000, creditCostRateLbp := 85000, exchangeRate := 90000, day := 100, shopLine := some shopLine },
    .sell { productId := 0, saleItemId := 1, quantity := 1, now := "2026-01-02" },
    .undo .refund 1, .refundSale 0 1 1, .editProduct 0 12 20, .undo .void 0, .undo .refund 1]

theorem shopWithLine_inCents : InCents shopWithLine where
  lines p line found := by
    rw [Table.get_only found]
    exact ⟨⟨1000, by norm_num⟩, ⟨1500, by norm_num⟩⟩
  batches b cost found := by
    obtain ⟨batch, there, rfl⟩ := Option.map_eq_some_iff.mp found
    rw [Table.get_only there]
    exact ⟨1000, by norm_num⟩
  recharges r row found := nomatch (Table.get_empty r).symm.trans found
  giveBacks g row found := nomatch (Table.get_empty g).symm.trans found

theorem shopWithLine_linked : Linked shopWithLine where
  recharges :=
    { there := fun r _ found => nomatch (Table.get_empty r).symm.trans found
      once := fun r _ _ _ found => nomatch (Table.get_empty r).symm.trans found }
  giveBacks :=
    { there := fun g _ found => nomatch (Table.get_empty g).symm.trans found
      once := fun g _ _ _ found => nomatch (Table.get_empty g).symm.trans found }

/-- The give-back is gone with its undo, and the recharge with one more. -/
theorem line_changedAndUndone :
    let t := run (follow fun _ => "") { shop := shopWithLine } changedAndUndone
    t.edits ≠ [] ∧ activeLineChanges t.shop 0 = [0] ∧
      (∃ line, t.shop.lines.get 0 = some line ∧
        figures line = (10, 15) + lineDelta t.shop 0 + editsOf t.edits 0 ∧
        lineState line = replay (7, some 130) (standing t.shop t.changes 0)) ∧
      ∃ s', undo t.shop .void 0 = .ok s' ∧ 0 ∉ activeLineChanges s' 0 := by
  have whole : ∀ action ∈ changedAndUndone, InWholeCents action := by
    intro action member
    simp only [changedAndUndone, List.mem_cons, List.not_mem_nil, or_false] at member
    rcases member with rfl | rfl | rfl | rfl | rfl | rfl | rfl | rfl
    all_goals first | trivial | exact ⟨⟨1200, by norm_num⟩, ⟨2000, by norm_num⟩⟩
  intro t
  have undone := line_changes_undone (fun _ => "") shopWithLine_inCents whole t rfl
  have answers : (undo t.shop .void 0).toOption.isSome = true := by decide +kernel
  refine ⟨by decide +kernel, by decide +kernel, undone.2.1 0 _ rfl (by decide +kernel), ?_⟩
  cases done : undo t.shop .void 0 with
  | error refused =>
    rw [done] at answers
    cases answers
  | ok s' => exact ⟨s', rfl, undone.2.2.2.2 shopWithLine_linked .void 0 s' done 0⟩

end Liratek.Carrier.ResaleChanges
