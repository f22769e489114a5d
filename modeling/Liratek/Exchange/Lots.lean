import Liratek.Lib.Table
import Liratek.Money.LargestRemainder
import Mathlib.Data.String.Basic

/-! Exchange lots of one shop: quantities of a currency bought, and the settlements that consume them. Quantities
are exact. -/

namespace Liratek.Exchange.Lots
open Lib Money.LargestRemainder

inductive LotSourceType where
  | exchangeBuy | drawerTopup | adjustment
  deriving DecidableEq, Repr

inductive LotBasisSource where
  | lot | market
  deriving DecidableEq, Repr

structure ExchangeLot where
  currencyCode : String
  drawerName : String
  sourceType : LotSourceType
  sourceTable : String
  sourceId : Nat
  originalQty : ℚ
  remainingQty : ℚ
  unitCostUsd : ℚ
  /-- compared as a string -/
  acquiredAt : String
  isVoided : Bool := false
  deriving DecidableEq, Repr

structure ExchangeLotSettlement where
  /-- `none`: nothing backs it -/
  lotId : Option Nat
  basisSource : LotBasisSource
  settledByTable : String
  settledById : Nat
  qty : ℚ
  unitCostUsd : ℚ
  unitProceedsUsd : ℚ
  profitUsd : ℚ
  isRefunded : Bool := false
  deriving DecidableEq, Repr

structure ExchangePositionAdjustment where
  currencyCode : String
  qty : ℚ
  unitCostUsd : Option ℚ
  note : Option String
  createdBy : String
  deriving DecidableEq, Repr

structure Book where
  lots : Table ExchangeLot := {}
  settlements : Table ExchangeLotSettlement := {}
  adjustments : Table ExchangePositionAdjustment := {}
  deriving DecidableEq, Repr

inductive LotError where
  | qtyNotPositive
  | currencyNotTracked (currencyCode : String)
  | qtyZero
  | unitCostNotPositive
  | writeOffTooLarge (writeOffQty : ℚ) (currencyCode : String) (openQty : ℚ)
  deriving DecidableEq, Repr

def LotError.message (number : ℚ → String) : LotError → String
  | .qtyNotPositive => "consumeFifo: qty must be greater than 0"
  | .currencyNotTracked code =>
    "Exchange lot adjustments only apply to exotic currencies — " ++ code ++ " uses the spread model, not lots"
  | .qtyZero => "adjust: qty must not be 0 — pass a positive qty to add or a negative qty to write off"
  | .unitCostNotPositive => "adjust: unitCostUsd must be greater than 0 when adding to a position"
  | .writeOffTooLarge qty code openQty =>
    "adjust: cannot write off " ++ number qty ++ " " ++ code ++ " — only " ++ number openQty ++ " is open"

def lotQtyEpsilon : ℚ :=
  5 / 1000

def lotExemptCurrencies : List String :=
  ["USD", "LBP"]

def isLotTrackedCurrency (code : String) : Bool :=
  code ∉ lotExemptCurrencies

def roundMoney (amount : ℚ) : ℚ :=
  mathRound (amount * 100) / 100

/-- A new lot. Every caller has a quantity above zero to add. -/
structure CreateLotInput where
  currencyCode : String
  drawerName : Option String := none
  sourceType : LotSourceType
  sourceTable : String
  sourceId : Nat
  qty : ℚ
  unitCostUsd : ℚ
  acquiredAt : String
  positive : 0 < qty

def createLot (b : Book) (input : CreateLotInput) : Book :=
  { b with
    lots := b.lots.insert
      { currencyCode := input.currencyCode
        drawerName := input.drawerName.getD "General"
        sourceType := input.sourceType
        sourceTable := input.sourceTable
        sourceId := input.sourceId
        originalQty := input.qty
        remainingQty := input.qty
        unitCostUsd := input.unitCostUsd
        acquiredAt := input.acquiredAt } }

/-- `OPEN_LOT_PREDICATE` -/
def isOpen (lot : ExchangeLot) : Bool :=
  !lot.isVoided && lotQtyEpsilon < lot.remainingQty

/-- `FIFO_ORDER`, as `<=` -/
def fifoOrder (a b : Nat × ExchangeLot) : Bool :=
  if a.2.acquiredAt ≠ b.2.acquiredAt then a.2.acquiredAt < b.2.acquiredAt else a.1 ≤ b.1

def openLots (b : Book) (currencyCode : String) : List (Nat × ExchangeLot) :=
  (b.lots.select fun lot => lot.currencyCode = currencyCode && isOpen lot).insertionSort fun x y => fifoOrder x y = true

inductive WalkMode where
  | settle | writeOff
  deriving DecidableEq, Repr

structure WalkParams where
  currencyCode : String
  qty : ℚ
  mode : WalkMode
  unitProceedsUsd : ℚ := 0
  marketUnitCostUsd : ℚ := 0
  settledByTable : String
  settledById : Nat
  deriving DecidableEq, Repr

/-- The rows written so far, and the quantity still to settle. -/
structure Walk where
  book : Book
  remaining : ℚ
  written : List ExchangeLotSettlement := []

def settlementOf (params : WalkParams) (lotId : Nat) (lot : ExchangeLot) (take : ℚ) : ExchangeLotSettlement :=
  let unitProceeds := match params.mode with
    | .writeOff => lot.unitCostUsd
    | .settle => params.unitProceedsUsd
  { lotId := some lotId
    basisSource := .lot
    settledByTable := params.settledByTable
    settledById := params.settledById
    qty := take
    unitCostUsd := lot.unitCostUsd
    unitProceedsUsd := unitProceeds
    profitUsd := roundMoney (take * (unitProceeds - lot.unitCostUsd)) }

def takeFromLot (params : WalkParams) (w : Walk) (lotId : Nat) (lot : ExchangeLot) (take : ℚ) : Walk where
  book :=
    { w.book with
      settlements := w.book.settlements.insert (settlementOf params lotId lot take)
      lots := w.book.lots.update lotId fun l => { l with remainingQty := l.remainingQty - take } }
  remaining := w.remaining - take
  written := w.written ++ [settlementOf params lotId lot take]

def walkLots (params : WalkParams) : Walk → List (Nat × ExchangeLot) → Walk
  | w, [] => w
  | w, (lotId, lot) :: rest =>
    if w.remaining ≤ lotQtyEpsilon then w
    else
      let take := min w.remaining lot.remainingQty
      if take ≤ lotQtyEpsilon then walkLots params w rest
      else walkLots params (takeFromLot params w lotId lot take) rest

def marketSettlement (params : WalkParams) (marketQty : ℚ) : ExchangeLotSettlement where
  lotId := none
  basisSource := .market
  settledByTable := params.settledByTable
  settledById := params.settledById
  qty := marketQty
  unitCostUsd := params.marketUnitCostUsd
  unitProceedsUsd := params.unitProceedsUsd
  profitUsd := roundMoney (marketQty * (params.unitProceedsUsd - params.marketUnitCostUsd))

/-- What the open lots did not cover, priced at the market. -/
def takeFromMarket (params : WalkParams) (w : Walk) : Walk :=
  if params.mode = .settle && lotQtyEpsilon < w.remaining then
    { book := { w.book with settlements := w.book.settlements.insert (marketSettlement params w.remaining) }
      remaining := w.remaining
      written := w.written ++ [marketSettlement params w.remaining] }
  else w

def walkFifo (b : Book) (params : WalkParams) : Walk :=
  takeFromMarket params
    (walkLots params { book := b, remaining := params.qty } (openLots b params.currencyCode))

structure FifoConsumeResult where
  settlements : List ExchangeLotSettlement
  realizedProfitUsd : ℚ
  coveredQty : ℚ
  marketQty : ℚ
  deriving DecidableEq, Repr

def quantityOf (basis : LotBasisSource) (written : List ExchangeLotSettlement) : ℚ :=
  ((written.filter fun s => s.basisSource = basis).map (·.qty)).sum

def consumeResult (w : Walk) : FifoConsumeResult where
  settlements := w.written
  realizedProfitUsd := roundMoney ((w.written.map (·.profitUsd)).sum)
  coveredQty := quantityOf .lot w.written
  marketQty := quantityOf .market w.written

structure ConsumeFifoInput where
  currencyCode : String
  qty : ℚ
  unitProceedsUsd : ℚ
  settledByTable : String
  settledById : Nat
  marketUnitCostUsd : ℚ
  deriving DecidableEq, Repr

def settleParams (input : ConsumeFifoInput) : WalkParams where
  currencyCode := input.currencyCode
  qty := input.qty
  mode := .settle
  unitProceedsUsd := input.unitProceedsUsd
  marketUnitCostUsd := input.marketUnitCostUsd
  settledByTable := input.settledByTable
  settledById := input.settledById

def consumeFifo (b : Book) (input : ConsumeFifoInput) : Except LotError (Book × FifoConsumeResult) :=
  if ¬ 0 < input.qty then .error .qtyNotPositive
  else
    let w := walkFifo b (settleParams input)
    .ok (w.book, consumeResult w)

/-- One active settlement goes back onto its lot. -/
def restoreOne (b : Book) (settlementId : Nat) (s : ExchangeLotSettlement) : Book :=
  { b with
    lots := match s.lotId with
      | none => b.lots
      | some lotId => b.lots.update lotId fun l => { l with remainingQty := l.remainingQty + s.qty }
    settlements := b.settlements.update settlementId fun s => { s with isRefunded := true } }

def restoreSettlements (b : Book) (settledByTable : String) (settledById : Nat) : Book :=
  (b.settlements.select fun s =>
    s.settledByTable = settledByTable && s.settledById = settledById && !s.isRefunded).foldl
      (fun acc entry => restoreOne acc entry.1 entry.2) b

def isFrom (sourceTable : String) (sourceId : Nat) (lot : ExchangeLot) : Bool :=
  lot.sourceTable = sourceTable && lot.sourceId = sourceId

def voidLotsBySource (b : Book) (sourceTable : String) (sourceId : Nat) : Book :=
  { b with lots := b.lots.updateWhere (isFrom sourceTable sourceId) fun l => { l with isVoided := true } }

def hasActiveSettlementsAgainstSource (b : Book) (sourceTable : String) (sourceId : Nat) : Bool :=
  (b.settlements.select fun s => !s.isRefunded).any fun entry =>
    ((entry.2.lotId.bind b.lots.get).map (isFrom sourceTable sourceId)).getD false

def getOpenQtyForCurrency (b : Book) (currencyCode : String) : ℚ :=
  ((b.lots.select fun lot => lot.currencyCode = currencyCode && isOpen lot).map (·.2.remainingQty)).sum

structure AdjustInput where
  currencyCode : String
  /-- positive adds to the position, negative writes it off -/
  qty : ℚ
  unitCostUsd : Option ℚ := none
  note : Option String := none
  createdBy : String
  /-- the request's time -/
  now : String
  deriving DecidableEq, Repr

def adjustmentsTable : String :=
  "exchange_position_adjustments"

def addToPosition (b : Book) (input : AdjustInput) (positive : 0 < input.qty) (unitCostUsd : ℚ) : Book :=
  createLot
    { b with
      adjustments := b.adjustments.insert
        { currencyCode := input.currencyCode
          qty := input.qty
          unitCostUsd := some unitCostUsd
          note := input.note
          createdBy := input.createdBy } }
    { currencyCode := input.currencyCode
      sourceType := .adjustment
      sourceTable := adjustmentsTable
      sourceId := b.adjustments.nextId
      qty := input.qty
      unitCostUsd := unitCostUsd
      acquiredAt := input.now
      positive := positive }

def writeOffParams (b : Book) (input : AdjustInput) : WalkParams where
  currencyCode := input.currencyCode
  qty := |input.qty|
  mode := .writeOff
  settledByTable := adjustmentsTable
  settledById := b.adjustments.nextId

def writeOff (b : Book) (input : AdjustInput) : Book :=
  (walkFifo
    { b with
      adjustments := b.adjustments.insert
        { currencyCode := input.currencyCode
          qty := input.qty
          unitCostUsd := none
          note := input.note
          createdBy := input.createdBy } }
    (writeOffParams b input)).book

def adjust (b : Book) (input : AdjustInput) : Except LotError Book :=
  if !isLotTrackedCurrency input.currencyCode then .error (.currencyNotTracked input.currencyCode)
  else if input.qty = 0 then .error .qtyZero
  else if positive : 0 < input.qty then
    if 0 < input.unitCostUsd.getD 0 then .ok (addToPosition b input positive (input.unitCostUsd.getD 0))
    else .error .unitCostNotPositive
  else
    let openQty := getOpenQtyForCurrency b input.currencyCode
    if openQty + lotQtyEpsilon < |input.qty| then .error (.writeOffTooLarge |input.qty| input.currencyCode openQty)
    else .ok (writeOff b input)

inductive Action where
  | createLot (input : CreateLotInput)
  | consumeFifo (input : ConsumeFifoInput)
  | restoreSettlements (settledByTable : String) (settledById : Nat)
  | voidLotsBySource (sourceTable : String) (sourceId : Nat)
  | adjust (input : AdjustInput)

/-- A refused call is rolled back. The caller of a void asks for active settlements first. -/
def exec (b : Book) : Action → Book
  | .createLot input => createLot b input
  | .consumeFifo input =>
    match consumeFifo b input with
    | .ok r => r.1
    | .error _ => b
  | .restoreSettlements settledByTable settledById => restoreSettlements b settledByTable settledById
  | .voidLotsBySource sourceTable sourceId =>
    if hasActiveSettlementsAgainstSource b sourceTable sourceId then b else voidLotsBySource b sourceTable sourceId
  | .adjust input =>
    match adjust b input with
    | .ok b' => b'
    | .error _ => b

end Liratek.Exchange.Lots
