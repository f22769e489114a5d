import Liratek.Carrier.Validity
import Liratek.Lib.Calls
import Liratek.Lib.Rounding
import Liratek.Stock.Batches
import Mathlib.Data.Rat.Floor

/-! Phone lines held for sale. An internal recharge adds its cost to the line, credit given back takes some off, and both
can be undone, the newest first. -/

namespace Liratek.Carrier.ResaleLines
open Lib Lib.Calls Lib.Rounding Stock.Batches Validity

/-- `Math.round(x * 100) / 100` -/
def round2 (x : ℚ) : ℚ :=
  roundTo 100 x

/-- `ROUND(x, 2)`, which rounds halves away from zero. -/
def sqlRound2 (x : ℚ) : ℚ :=
  if x < 0 then -roundTo 100 (-x) else roundTo 100 x

theorem sqlRound2_cents {x : ℚ} (cents : Whole 100 x) : sqlRound2 x = x := by
  have positive : (0 : ℚ) < 100 := by decide +kernel
  unfold sqlRound2
  split_ifs
  · rw [cents.neg.roundTo positive, neg_neg]
  · exact cents.roundTo positive

def toCents (x : ℚ) : ℤ :=
  round (x * 100)

inductive ResaleLineCarrier where
  | mtc | alfa
  deriving DecidableEq, Repr

def ResaleLineCarrier.code : ResaleLineCarrier → String
  | .mtc => "mtc"
  | .alfa => "alfa"

def ResaleLineCarrier.label : ResaleLineCarrier → String
  | .mtc => "MTC"
  | .alfa => "Alfa"

/-- A line product with its details row, which there is once the carrier is saved. A product has one details row at
most, so the product's id stands for both. -/
structure ResaleLineRow where
  costPriceUsd : ℚ
  sellingPriceUsd : ℚ
  stockQuantity : ℤ
  isActive : Bool := true
  isDeleted : Bool := false
  carrier : Option ResaleLineCarrier
  credits : ℚ
  validityExpiresAt : Option Day
  deriving DecidableEq

inductive RechargeSource where
  | card | shopLineCredit | days
  deriving DecidableEq, Repr

/-- A row of `resale_line_recharges`. -/
structure ResaleLineRecharge where
  transactionId : Nat
  resaleLineId : Nat
  productId : Nat
  source : RechargeSource
  daysAdded : ℤ
  creditsAdded : ℚ
  costUsd : ℚ
  prevCostUsd : ℚ
  prevPriceUsd : ℚ
  prevValidityExpiresAt : Option Day
  prevCredits : ℚ
  batchId : Option Nat
  isReversed : Bool := false
  deriving DecidableEq

/-- A row of `resale_line_give_backs`. -/
structure ResaleLineGiveBack where
  transactionId : Nat
  resaleLineId : Nat
  productId : Nat
  creditsSent : ℚ
  smsFeeUsd : ℚ
  priceDropUsd : ℚ
  costDropUsd : ℚ
  prevCredits : ℚ
  batchId : Option Nat
  isReversed : Bool := false
  deriving DecidableEq

inductive TransactionType where
  | lineRecharge | lineCreditGiveBack | sale | refund
  deriving DecidableEq, Repr

inductive Status where
  | active | voided
  deriving DecidableEq, Repr

structure Transaction where
  type : TransactionType
  status : Status := .active
  reversesId : Option Nat := none
  deriving DecidableEq, Repr

structure Shop where
  lines : Table ResaleLineRow := {}
  stock : Book := {}
  recharges : Table ResaleLineRecharge := {}
  giveBacks : Table ResaleLineGiveBack := {}
  transactions : Table Transaction := {}
  deriving DecidableEq

abbrev Result := Except String Shop

def notInStock : String := "This line is not in stock."

def burnedLine : String := "This line has expired past its grace period and can no longer be recharged."

def newerLineChangeError : String := "Undo the newer recharge of this line first."

/-- `UNSOLD_LINE_SQL` -/
def isUnsold (line : ResaleLineRow) : Bool :=
  !line.isDeleted && line.isActive && 0 < line.stockQuantity

/-! The figures of a recharge and of a give-back. -/

def maxCreditPerSmsUsd : ℚ := 3

def smsTransferFeeUsd : ℚ := 4 / 25

/-- `feeUsd` of `planSmsTransfer` -/
def smsFeeUsd (amountUsd : ℚ) : ℚ :=
  if amountUsd ≤ 0 then 0 else ⌈amountUsd / maxCreditPerSmsUsd⌉ * smsTransferFeeUsd

structure LineGiveBackInput where
  creditsBefore : ℚ
  creditsKept : ℚ
  creditSellPriceLbp : ℚ
  creditCostRateLbp : ℚ
  exchangeRate : ℚ

structure LineGiveBackPlan where
  creditsSent : ℚ
  smsFeeUsd : ℚ
  creditsAfter : ℚ
  priceDropUsd : ℚ
  costDropUsd : ℚ

/-- The most that can be sent in some number of messages. -/
def sentCents (giveC perC feeC : ℤ) : ℤ :=
  (List.range (⌈(giveC : ℚ) / perC⌉ + 1).toNat).foldl (fun sentC k =>
    let n : ℤ := k + 1
    let x := min (perC * n) (giveC - feeC * n)
    if perC * (n - 1) < x ∧ sentC < x then x else sentC) 0

def planLineGiveBack (input : LineGiveBackInput) : Except String LineGiveBackPlan :=
  let beforeC := toCents input.creditsBefore
  let keptC := toCents input.creditsKept
  if beforeC ≤ 0 then .error "This line has no credit to give back."
  else if keptC < 0 ∨ beforeC ≤ keptC then .error "The buyer must keep less credit than the line has."
  else if input.exchangeRate ≤ 0 ∨ input.creditSellPriceLbp ≤ 0 ∨ input.creditCostRateLbp ≤ 0 then
    .error "Enter the credit price and the exchange rate."
  else
    let perC := toCents maxCreditPerSmsUsd
    let feeC := toCents smsTransferFeeUsd
    let sentC := sentCents (beforeC - keptC) perC feeC
    if sentC ≤ 0 then .error "Too little credit to cover the SMS fee."
    else
      let smsFeeC := ⌈(sentC : ℚ) / perC⌉ * feeC
      let leftC := sentC + smsFeeC
      .ok
        { creditsSent := sentC / 100
          smsFeeUsd := smsFeeC / 100
          creditsAfter := (beforeC - leftC) / 100
          priceDropUsd := round2 (leftC / 100 * input.creditSellPriceLbp / input.exchangeRate)
          costDropUsd := round2 (sentC / 100 * input.creditCostRateLbp / input.exchangeRate) }

structure RechargeCardItem where
  provider : String
  category : String
  costLbp : ℚ
  credits : Option ℚ
  validityDays : Option ℤ

/-- What a recharge and a give-back read of a shop line. -/
structure ShopLine where
  phoneNumber : String
  carrier : ResaleLineCarrier
  isActive : Bool
  validityExpiresAt : Option Day

/-- `LINE_CHARGE_PROVIDERS` -/
def isLineChargeProvider (provider : String) : Bool :=
  ["iPick", "Katsh", "WHISH_APP"].contains provider

def lineChargeProviderError : String := "Pick an MTC or Alfa card from iPick, Katsh or Whish App."

inductive RechargeFrom where
  | card (card : Option RechargeCardItem)
  | days (source : Option ShopLine) (days : ℤ) (daysCostUsd : ℚ)
  | shopLineCredit (source : Option ShopLine) (credits : ℚ)

structure RechargeInput where
  productId : Nat
  payFrom : RechargeFrom
  day : Day
  exchangeRate : ℚ
  creditCostRateLbp : ℚ
  /-- the shop line gave what the recharge takes from it -/
  moved : Bool := true

/-- What one source brings and costs. -/
structure SourceFigures where
  source : RechargeSource
  costUsd : ℚ
  daysAdded : ℤ := 0
  creditsAdded : ℚ := 0

def carrierMismatch (carrier : ResaleLineCarrier) : String :=
  "Use an " ++ carrier.label ++ " card or line for this " ++ carrier.label ++ " number."

def enterCost : String := "Enter what this recharge cost before saving."

/-- An active shop line of the line's carrier. -/
def activeShopLine (carrier : ResaleLineCarrier) (source : Option ShopLine) : Except String ShopLine :=
  match source with
  | none => .error ("Pick an active " ++ carrier.label ++ " shop line.")
  | some shop =>
    if !shop.isActive then .error ("Pick an active " ++ carrier.label ++ " shop line.")
    else if shop.carrier ≠ carrier then .error (carrierMismatch carrier)
    else .ok shop

def sourceFigures (number : ℤ → String) (carrier : ResaleLineCarrier) (input : RechargeInput) : Except String SourceFigures :=
  match input.payFrom with
  | .card none => .error lineChargeProviderError
  | .card (some card) =>
    if !isLineChargeProvider card.provider then .error lineChargeProviderError
    else if card.category.toLower ≠ carrier.code then .error (carrierMismatch carrier)
    else if card.costLbp ≤ 0 then .error enterCost
    else .ok
      { source := .card
        costUsd := round2 (card.costLbp / input.exchangeRate)
        daysAdded := card.validityDays.getD 0
        creditsAdded := card.credits.getD 0 }
  | .days source days daysCostUsd =>
    (activeShopLine carrier source).bind fun shop =>
      let v := classifyLineValidity shop.validityExpiresAt input.day
      if v.state = .noExpiry then
        .error ("Set the expiry of shop line " ++ shop.phoneNumber ++ " first (Phone Lines → Shop lines).")
      else if v.state ≠ .valid ∨ v.daysRemaining < days then
        .error ("Shop line " ++ shop.phoneNumber ++ " has only " ++ number (max v.daysRemaining 0) ++ " days left.")
      else .ok { source := .days, costUsd := round2 daysCostUsd, daysAdded := days }
  | .shopLineCredit source credits =>
    (activeShopLine carrier source).bind fun _ =>
      let fee := round2 (smsFeeUsd credits)
      .ok
        { source := .shopLineCredit
          costUsd := round2 (credits * input.creditCostRateLbp / input.exchangeRate + fee)
          creditsAdded := credits }

/-- The line, its carrier saved, that may be recharged or give credit back. -/
def openLine (s : Shop) (productId : Nat) (day : Day) : Except String (ResaleLineRow × ResaleLineCarrier) :=
  match s.lines.get productId with
  | none => .error notInStock
  | some line =>
    if !isUnsold line then .error notInStock
    else
      match line.carrier with
      | none => .error "Save this line's carrier on the Phone Lines page first."
      | some carrier =>
        if (classifyLineValidity line.validityExpiresAt day).state = .burned then .error burnedLine
        else .ok (line, carrier)

/-- `RecordRechargeInput` -/
structure RechargePlan where
  line : ResaleLineRow
  figures : SourceFigures
  newCredits : ℚ
  newExpiry : Option Day

def extendedExpiry (expiry : Option Day) (daysAdded : ℤ) (day : Day) : ValidityProjection :=
  projectValidityExpiry expiry daysAdded day 0

def planRecharge (number : ℤ → String) (s : Shop) (input : RechargeInput) : Except String RechargePlan :=
  (openLine s input.productId input.day).bind fun (line, carrier) =>
    (sourceFigures number carrier input).bind fun figures =>
      if figures.costUsd ≤ 0 then .error enterCost
      else
        let newCredits := round2 (line.credits + figures.creditsAdded)
        if 0 < figures.daysAdded then
          let projected := extendedExpiry line.validityExpiresAt figures.daysAdded input.day
          if projected.burned then .error burnedLine
          else .ok { line, figures, newCredits, newExpiry := projected.expiry }
        else .ok { line, figures, newCredits, newExpiry := line.validityExpiresAt }

/-! Writing and undoing. -/

/-- `applyPriceCostDelta` -/
def applyPriceCostDelta (costDelta priceDelta : ℚ) (line : ResaleLineRow) : ResaleLineRow :=
  { line with
    costPriceUsd := sqlRound2 (line.costPriceUsd + costDelta)
    sellingPriceUsd := sqlRound2 (line.sellingPriceUsd + priceDelta) }

/-- `applyCapitalization` -/
def applyCapitalization (deltaUsd : ℚ) (line : ResaleLineRow) : ResaleLineRow :=
  applyPriceCostDelta deltaUsd deltaUsd line

def addUnitCost (b : Book) (batchId : Nat) (deltaUsd : ℚ) : Book :=
  { b with batches := b.batches.update batchId fun batch => { batch with unitCostUsd := sqlRound2 (batch.unitCostUsd + deltaUsd) } }

/-- The batch whose cost was changed, if the product has an open one. -/
def addToOpenBatchUnitCost (b : Book) (productId : Nat) (deltaUsd : ℚ) : Except String (Book × Option Nat) :=
  match listOpenByProduct b productId with
  | [] => .ok (b, none)
  | (batchId, batch) :: others =>
    if others ≠ [] ∨ 1 < batch.quantityRemaining then
      .error "This line has more than one unit in stock; fix its stock first."
    else .ok (addUnitCost b batchId deltaUsd, some batchId)

def recordRecharge (s : Shop) (input : RechargeInput) (plan : RechargePlan) : Result :=
  if !input.moved then .error "Could not update the shop line."
  else
    (addToOpenBatchUnitCost s.stock input.productId plan.figures.costUsd).bind fun (stock, batchId) =>
      .ok
        { lines := s.lines.update input.productId fun line =>
            { applyCapitalization plan.figures.costUsd line with
              credits := plan.newCredits
              validityExpiresAt := plan.newExpiry }
          stock := stock
          recharges := s.recharges.insert
            { transactionId := s.transactions.nextId
              resaleLineId := input.productId
              productId := input.productId
              source := plan.figures.source
              daysAdded := plan.figures.daysAdded
              creditsAdded := plan.figures.creditsAdded
              costUsd := plan.figures.costUsd
              prevCostUsd := plan.line.costPriceUsd
              prevPriceUsd := plan.line.sellingPriceUsd
              prevValidityExpiresAt := plan.line.validityExpiresAt
              prevCredits := plan.line.credits
              batchId := batchId }
          giveBacks := s.giveBacks
          transactions := s.transactions.insert { type := .lineRecharge } }

def recharge (number : ℤ → String) (s : Shop) (input : RechargeInput) : Result :=
  (planRecharge number s input).bind (recordRecharge s input)

structure GiveBackInput where
  productId : Nat
  creditsKept : ℚ
  creditSellPriceLbp : ℚ
  creditCostRateLbp : ℚ
  exchangeRate : ℚ
  day : Day
  shopLine : Option ShopLine
  /-- the shop line took the credit -/
  moved : Bool := true

/-- The line and the figures that are recorded. -/
def planGiveBack (s : Shop) (input : GiveBackInput) : Except String (ResaleLineRow × LineGiveBackPlan) :=
  (openLine s input.productId input.day).bind fun (line, carrier) =>
    (activeShopLine carrier input.shopLine).bind fun _ =>
      (planLineGiveBack
        { creditsBefore := line.credits
          creditsKept := input.creditsKept
          creditSellPriceLbp := input.creditSellPriceLbp
          creditCostRateLbp := input.creditCostRateLbp
          exchangeRate := input.exchangeRate }).bind fun plan =>
        if round2 (line.sellingPriceUsd - plan.priceDropUsd) < 0 then .error "This line's price would go below zero."
        else if round2 (line.costPriceUsd - plan.costDropUsd) < 0 then .error "This line's cost would go below zero."
        else .ok (line, plan)

def recordGiveBack (s : Shop) (input : GiveBackInput) (line : ResaleLineRow) (plan : LineGiveBackPlan) : Result :=
  if !input.moved then .error "Could not update the shop line."
  else
    (addToOpenBatchUnitCost s.stock input.productId (-plan.costDropUsd)).bind fun (stock, batchId) =>
      .ok
        { lines := s.lines.update input.productId fun line =>
            { applyPriceCostDelta (-plan.costDropUsd) (-plan.priceDropUsd) line with credits := plan.creditsAfter }
          stock := stock
          recharges := s.recharges
          giveBacks := s.giveBacks.insert
            { transactionId := s.transactions.nextId
              resaleLineId := input.productId
              productId := input.productId
              creditsSent := plan.creditsSent
              smsFeeUsd := plan.smsFeeUsd
              priceDropUsd := plan.priceDropUsd
              costDropUsd := plan.costDropUsd
              prevCredits := line.credits
              batchId := batchId }
          transactions := s.transactions.insert { type := .lineCreditGiveBack } }

def giveBackCredit (s : Shop) (input : GiveBackInput) : Result :=
  (planGiveBack s input).bind fun (line, plan) => recordGiveBack s input line plan

/-- The line is sold when it has no stock, or the batch the change was added to has none. -/
def assertLineNotSold (s : Shop) (productId : Nat) (batchId : Option Nat) : Except String Unit :=
  if (s.lines.get productId).all (·.stockQuantity ≤ 0) ||
      batchId.any fun id => (s.stock.batches.get id).all (·.quantityRemaining ≤ 0) then
    .error "Refund the sale of this line first."
  else .ok ()

/-- The active changes of a line, as the transactions that made them. -/
def activeLineChanges (s : Shop) (resaleLineId : Nat) : List Nat :=
  ((s.recharges.select fun row => row.resaleLineId = resaleLineId && !row.isReversed).map (·.2.transactionId)) ++
    (s.giveBacks.select fun row => row.resaleLineId = resaleLineId && !row.isReversed).map (·.2.transactionId)

def getLatestActiveLineChangeTransactionId (s : Shop) (resaleLineId : Nat) : Option Nat :=
  (activeLineChanges s resaleLineId).max?

def assertNewestLineChange (s : Shop) (resaleLineId transactionId : Nat) : Except String Unit :=
  match getLatestActiveLineChangeTransactionId s resaleLineId with
  | none => .ok ()
  | some latest => if latest ≠ transactionId then .error newerLineChangeError else .ok ()

def undoUnitCost (b : Book) (batchId : Option Nat) (deltaUsd : ℚ) : Book :=
  match batchId with
  | none => b
  | some id => addUnitCost b id deltaUsd

def reverseRecharge (s : Shop) (transactionId : Nat) : Result :=
  match (s.recharges.select fun row => row.transactionId = transactionId).head? with
  | none => .ok s
  | some (rowId, row) =>
    if row.isReversed then .ok s
    else
      (assertLineNotSold s row.productId row.batchId).bind fun _ =>
        (assertNewestLineChange s row.resaleLineId row.transactionId).bind fun _ =>
          if (s.lines.get row.productId).isNone then .error notInStock
          else .ok
            { s with
              lines := (s.lines.update row.productId (applyCapitalization (-row.costUsd))).update row.resaleLineId fun line =>
                { line with credits := row.prevCredits, validityExpiresAt := row.prevValidityExpiresAt }
              stock := undoUnitCost s.stock row.batchId (-row.costUsd)
              recharges := s.recharges.update rowId fun row => { row with isReversed := true } }

def reverseGiveBack (s : Shop) (transactionId : Nat) : Result :=
  match (s.giveBacks.select fun row => row.transactionId = transactionId).head? with
  | none => .ok s
  | some (rowId, row) =>
    if row.isReversed then .ok s
    else
      (assertLineNotSold s row.productId row.batchId).bind fun _ =>
        (assertNewestLineChange s row.resaleLineId row.transactionId).bind fun _ =>
          if (s.lines.get row.productId).isNone then .error notInStock
          else .ok
            { s with
              lines := (s.lines.update row.productId (applyPriceCostDelta row.costDropUsd row.priceDropUsd)).update
                row.resaleLineId fun line => { line with credits := row.prevCredits }
              stock := undoUnitCost s.stock row.batchId row.costDropUsd
              giveBacks := s.giveBacks.update rowId fun row => { row with isReversed := true } }

/-- The reversal owner of the original's type. A sale is given back by `refundSale`, not here. -/
def reverseLineChange (s : Shop) (original : Transaction) (id : Nat) : Result :=
  match original.type with
  | .lineRecharge => reverseRecharge s id
  | .lineCreditGiveBack => reverseGiveBack s id
  | .sale | .refund => .error "Not a recharge or a give-back"

inductive UndoKind where
  | void | refund
  deriving DecidableEq, Repr

def refundsOf (s : Shop) (id : Nat) : List (Nat × Transaction) :=
  s.transactions.select fun row => row.reversesId = some id && row.type = .refund

/-- A void marks the original and reverses it, a refund adds a row of its own. -/
def undoTransactions (s : Shop) (kind : UndoKind) (original : Transaction) (id : Nat) : Table Transaction :=
  match kind with
  | .void =>
    (s.transactions.update id fun row => { row with status := .voided }).insert
      { original with status := .active, reversesId := some id }
  | .refund => s.transactions.insert { type := .refund, reversesId := some id }

def undo (s : Shop) (kind : UndoKind) (id : Nat) : Result :=
  match s.transactions.get id with
  | none => .error "Transaction not found"
  | some original =>
    if original.status = .voided then .error "Transaction is already voided"
    else if original.reversesId.isSome then .error "Cannot void or refund a reversal transaction"
    else if refundsOf s id ≠ [] then .error "Transaction has already been refunded"
    else reverseLineChange { s with transactions := undoTransactions s kind original id } original id

/-! Sales of the line, and edits of its product. -/

structure SaleInput where
  productId : Nat
  saleItemId : Nat
  quantity : ℤ
  now : String

def saleOptions (line : ResaleLineRow) (input : SaleInput) : ConsumeOptions :=
  { owners := { saleItemId := some input.saleItemId }
    reason := .sale
    fallbackUnitCostUsd := line.costPriceUsd
    now := input.now }

def sell (s : Shop) (input : SaleInput) : Result :=
  match s.lines.get input.productId with
  | none => .error "Not enough stock"
  | some line =>
    if line.stockQuantity < input.quantity then .error "Not enough stock"
    else .ok
      { s with
        lines := s.lines.update input.productId fun line => { line with stockQuantity := line.stockQuantity - input.quantity }
        stock := (consume s.stock input.productId input.quantity (saleOptions line input)).1
        transactions := s.transactions.insert { type := .sale } }

def refundSale (s : Shop) (productId saleItemId : Nat) (quantity : ℤ) : Shop :=
  { s with
    lines := s.lines.update productId fun line => { line with stockQuantity := line.stockQuantity + quantity }
    stock := restoreForSaleItem s.stock saleItemId (some quantity)
    transactions := s.transactions.insert { type := .refund } }

def editProduct (s : Shop) (productId : Nat) (costPriceUsd sellingPriceUsd : ℚ) : Shop :=
  { s with lines := s.lines.update productId fun line => { line with costPriceUsd, sellingPriceUsd } }

inductive Action where
  | recharge (input : RechargeInput)
  | giveBack (input : GiveBackInput)
  | undo (kind : UndoKind) (transactionId : Nat)
  | sell (input : SaleInput)
  | refundSale (productId saleItemId : Nat) (quantity : ℤ)
  | editProduct (productId : Nat) (costPriceUsd sellingPriceUsd : ℚ)

def exec (number : ℤ → String) (s : Shop) : Action → Shop
  | .recharge input => leaves s (recharge number s input)
  | .giveBack input => leaves s (giveBackCredit s input)
  | .undo kind transactionId => leaves s (undo s kind transactionId)
  | .sell input => leaves s (sell s input)
  | .refundSale productId saleItemId quantity => refundSale s productId saleItemId quantity
  | .editProduct productId costPriceUsd sellingPriceUsd => editProduct s productId costPriceUsd sellingPriceUsd

end Liratek.Carrier.ResaleLines
