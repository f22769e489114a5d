import Liratek.Lib.Table
import Liratek.Lib.Trim
import Liratek.Till.Payouts

/-! Held money: cash that the shop keeps for a named client and returns in one or several pickups. -/

namespace Liratek.Hold.HeldMoney
open Lib Lib.Calls Till.KeptChange Till.CustomerLegs Till.Payouts
open Voucher.Vouchers (Currency UsdLbp Rate binanceDrawerName)

inductive HoldMoneyStatus where
  | held | collected
  deriving DecidableEq, Repr

structure HoldMoneyRow where
  clientName : String
  phoneNumber : Option String := none
  clientId : Option ℕ := none
  amount : UsdLbp
  status : HoldMoneyStatus := .held
  deriving DecidableEq, Repr

structure Pickup where
  holdMoneyId : ℕ
  /-- pickups from before the unified transactions have none -/
  transactionId : Option ℕ
  amount : UsdLbp
  isVoided : Bool := false
  deriving DecidableEq, Repr

inductive TransactionType where
  | holdMoney | holdMoneyCollect | holdMoneyCollectVoid
  deriving DecidableEq, Repr

structure Transaction where
  type : TransactionType
  /-- a hold, or the pickup that is voided -/
  sourceId : ℕ
  amount : UsdLbp
  profit : UsdLbp := 0
  exchangeRate : ℚ
  clientId : Option ℕ
  clientName : String
  clientPhone : Option String
  reversesId : Option ℕ := none
  deriving DecidableEq, Repr

structure Payment where
  transactionId : ℕ
  method : String
  drawerName : String
  currencyCode : CurrencyCode
  amount : ℚ
  deriving DecidableEq, Repr

/-- An expense on the books only, linked to the pickup that was rounded up. -/
structure RoundingExpense where
  pickupId : ℕ
  amount : UsdLbp
  isRefunded : Bool := false
  deriving DecidableEq, Repr

structure Store where
  holds : Table HoldMoneyRow := {}
  pickups : Table Pickup := {}
  transactions : Table Transaction := {}
  payments : Table Payment := {}
  expenses : Table RoundingExpense := {}
  balance : String → CurrencyCode → ℚ

abbrev Result := Except String Store

/-- The payment methods, the rates and the texts at the time of a call. -/
structure Setting where
  drawerName : String → String
  isDrawerAffectingMethod : String → Bool
  sellRate : Rate
  marketRate : ℚ
  formatMoneyAmount : ℚ → Currency → String
  numberText : ℚ → String
  derivedText : Currency → ℚ → String
  /-- two digits after the point -/
  fixed : ℚ → String
  /-- whole, with separators -/
  whole : ℚ → String

/-! Posting. -/

/-- Binance holds USDT only. -/
def postingCurrency (drawerName : String) (currencyCode : CurrencyCode) : Except String CurrencyCode :=
  if drawerName ≠ binanceDrawerName then .ok currencyCode
  else
    match currencyCode with
    | .known .usd => .ok (.other "USDT")
    | .known .lbp => .error "Binance only takes USDT — enter the Binance line in dollars."
    | .other code => .ok (.other code)

/-- A row of payments before it is written. -/
structure Posting where
  method : String
  drawerName : String
  currencyCode : CurrencyCode
  amount : ℚ

/-- What a row moves in a drawer. -/
def moves (drawer : String) (cur : CurrencyCode) (row : Payment) : ℚ :=
  if row.drawerName = drawer ∧ row.currencyCode = cur then row.amount else 0

def Store.apply (s : Store) (row : Payment) : Store :=
  { s with
    payments := s.payments.insert row
    balance := fun drawer cur => s.balance drawer cur + moves drawer cur row }

/-- `insertPaymentRow` and `applyDrawerDelta`, which agree on the currency. -/
def post (transactionId : ℕ) (s : Store) (posting : Posting) : Result :=
  (postingCurrency posting.drawerName posting.currencyCode).map fun currencyCode =>
    s.apply { transactionId, method := posting.method, drawerName := posting.drawerName, currencyCode, amount := posting.amount }

def postAll (transactionId : ℕ) (s : Store) (postings : List Posting) : Result :=
  each (post transactionId) s postings

structure HoldMoneyPaymentLeg where
  method : String
  currencyCode : Currency
  amount : ℚ
  isOut : Bool := false
  deriving DecidableEq, Repr

def toReconciliationLeg (leg : HoldMoneyPaymentLeg) : ReconciliationLeg where
  method := leg.method
  currencyCode := .known leg.currencyCode
  amount := leg.amount
  isOut := leg.isOut

section
variable (env : Setting)

def posting (method : String) (currencyCode : CurrencyCode) (amount : ℚ) : Posting where
  method
  drawerName := env.drawerName method
  currencyCode
  amount

/-- No lines were sent: cash for the whole amount, `sign` into or out of its drawer. -/
def fallbackCashLegs (amount : UsdLbp) (sign : ℚ) : List Posting :=
  (if 0 < amount.1 then [posting env "CASH" (.known .usd) (sign * amount.1)] else []) ++
    if 0 < amount.2 then [posting env "CASH" (.known .lbp) (sign * amount.2)] else []

/-! Dropping off. -/

structure CreateHoldInput where
  clientName : String
  phoneNumber : Option String := none
  clientId : Option ℕ := none
  usdAmount : Option ℚ := none
  lbpAmount : Option ℚ := none
  payments : Option (List HoldMoneyPaymentLeg) := none
  exchangeRate : Option ℚ := none

def CreateHoldInput.amount (data : CreateHoldInput) : UsdLbp :=
  (|data.usdAmount.getD 0|, |data.lbpAmount.getD 0|)

def CreateHoldInput.legs (data : CreateHoldInput) : List ReconciliationLeg :=
  (data.payments.getD []).map toReconciliationLeg

/-- Every line once: change goes out, anything else comes in. -/
def dropOffPosting (leg : ReconciliationLeg) : Posting :=
  posting env leg.method leg.currencyCode (if leg.isOut then -|leg.amount| else |leg.amount|)

def dropOffPostings (data : CreateHoldInput) : List Posting :=
  if data.legs = [] then fallbackCashLegs env data.amount 1 else (nonEmpty data.legs).map (dropOffPosting env)

def CreateHoldInput.common (data : CreateHoldInput) : KeptChangeCommon where
  context := "Hold Money"
  exchangeRate := env.sellRate
  tenderExchangeRate := data.exchangeRate

def trimmed (text : String) : String :=
  String.ofList (Lib.Trim.trim text.toList)

def CreateHoldInput.row (data : CreateHoldInput) : HoldMoneyRow where
  clientName := trimmed data.clientName
  phoneNumber := (data.phoneNumber.map trimmed).filter (· ≠ "")
  clientId := data.clientId
  amount := data.amount

/-- Nothing is earned by a drop-off. -/
def CreateHoldInput.transaction (data : CreateHoldInput) (holdId : ℕ) : Transaction where
  type := .holdMoney
  sourceId := holdId
  amount := data.amount
  exchangeRate := (data.common env).rate.value
  clientId := data.clientId
  clientName := data.row.clientName
  clientPhone := data.row.phoneNumber

def createHold (data : CreateHoldInput) (s : Store) : Result :=
  (refuseIf (data.amount.1 ≤ 0 && data.amount.2 ≤ 0) "At least one of USD or LBP amount is required").bind fun _ =>
  (refuseIf (data.row.clientName = "") "Client name is required").bind fun _ =>
  (if data.legs = [] then .ok ()
  else reconcileLegs (data.common env) (data.legs.filter (!·.isOut)) (data.legs.filter (·.isOut)) 0 data.amount).bind fun _ =>
  postAll s.transactions.nextId
    { s with
      holds := s.holds.insert data.row
      transactions := s.transactions.insert (data.transaction env s.holds.nextId) }
    (dropOffPostings env data)

/-! Picking up. -/

structure CollectHoldInput where
  id : ℕ
  usdAmount : Option ℚ := none
  lbpAmount : Option ℚ := none
  payments : Option (List HoldMoneyPaymentLeg) := none
  exchangeRate : Option ℚ := none
  keptChange : UsdLbp := 0
  roundingGiven : UsdLbp := 0
  addedChange : UsdLbp := 0
  customerPayments : List ReconciliationLeg := []

def CollectHoldInput.legs (data : CollectHoldInput) : List ReconciliationLeg :=
  (data.payments.getD []).map toReconciliationLeg

def CollectHoldInput.common (data : CollectHoldInput) : KeptChangeCommon where
  context := "Hold Money pickup"
  exchangeRate := env.sellRate
  tenderExchangeRate := data.exchangeRate
  claimedKept := some data.keptChange

end

def liveOf (holdId : ℕ) (pickup : Pickup) : UsdLbp :=
  if pickup.holdMoneyId = holdId ∧ pickup.isVoided = false then pickup.amount else 0

/-- What has been returned of a hold. -/
def Store.returned (s : Store) (holdId : ℕ) : UsdLbp :=
  s.pickups.total (liveOf holdId)

/-- Derived, never stored. -/
def Store.remaining (s : Store) (holdId : ℕ) (hold : HoldMoneyRow) : UsdLbp :=
  hold.amount - s.returned holdId

/-- Something of this currency is returned. -/
def returns (portion : UsdLbp) (currency : Currency) : Bool :=
  holdPickupEpsilon currency < part portion currency

def returnsBoth (portion : UsdLbp) : Bool :=
  returns portion .usd && returns portion .lbp

/-- The currency of a pickup in one. -/
def pickupCurrency (portion : UsdLbp) : Currency :=
  if returns portion .lbp then .lbp else .usd

/-- In two currencies each has its own leftover. -/
def pickupPayer (portion : UsdLbp) (owed : ℚ) (legs : List ReconciliationLeg) : KeptChangePayer :=
  if returnsBoth portion then .payoutPerCurrency portion legs [] else .payout owed (.known (pickupCurrency portion)) legs []

/-- Nothing is left in either currency. -/
def isCleared (remaining : UsdLbp) : Bool :=
  remaining.1 ≤ holdPickupEpsilon .usd && remaining.2 ≤ holdPickupEpsilon .lbp

/-- What a pickup was checked to keep, to round up by, and to take from the customer. -/
structure Terms where
  kept : UsdLbp := 0
  rounding : UsdLbp := 0
  added : AddedChange := {}

section
variable (env : Setting)

def checkPortion (remaining portion : UsdLbp) : Except String Unit :=
  (refuseIf (portion.1 < 0 || portion.2 < 0) "Amounts to return cannot be negative").bind fun _ =>
  (refuseIf (remaining.1 + holdPickupEpsilon .usd < portion.1)
    ("Cannot return $" ++ env.fixed portion.1 ++ " — only $" ++ env.fixed remaining.1 ++ " remains held")).bind fun _ =>
  (refuseIf (remaining.2 + holdPickupEpsilon .lbp < portion.2)
    ("Cannot return " ++ env.whole portion.2 ++ " LBP — only " ++ env.whole remaining.2 ++ " LBP remains held")).bind fun _ =>
  refuseIf (isCleared portion) "Nothing to collect — the amount is zero"

def resolvePickup (data : CollectHoldInput) (portion : UsdLbp) : Except String Terms :=
  let common := data.common env
  let currency := pickupCurrency portion
  (resolveAddedChange env.isDrawerAffectingMethod env.numberText env.derivedText common
    { legs := data.customerPayments, expected := ⟨0, .known currency⟩, payoutCurrency := .known currency
      claimed := data.addedChange, notAllowed := returnsBoth portion }).bind fun added =>
  (refuseIf (added.measured.isSome && (nonEmpty data.legs).isEmpty) (refusal addedChangeNotAllowedMessage common.context
    "change the customer adds needs the payout lines — the cash fallback pays out only the portion")).bind fun _ =>
  let owed := part portion currency + part added.amount currency
  if any data.roundingGiven then
    (resolveRoundingGiven env.isDrawerAffectingMethod common
      { owed, owedCurrency := .known currency, payoutLegs := data.legs, claimed := data.roundingGiven
        notAllowed := returnsBoth portion }).map fun rounding => { rounding, added }
  else if !data.legs.isEmpty || any data.keptChange then
    (resolveKeptChange env.isDrawerAffectingMethod env.formatMoneyAmount common (pickupPayer portion owed data.legs)).map
      fun result => { kept := result.kept, added }
  else .ok { added }

/-- The customer's lines come in. -/
def addedPostings (measured : Option MeasuredCustomerLegs) : Except String (List Posting) :=
  match measured with
  | none => .ok []
  | some measured =>
    (writeCustomerLegs { drawerFor := fun leg => env.drawerName leg.method } measured).map fun writes =>
      writes.payments.map fun row =>
        { method := row.method, drawerName := row.drawerName, currencyCode := row.currencyCode, amount := row.amount }

/-- Every line of the payout goes out. -/
def payoutPostings (data : CollectHoldInput) (portion : UsdLbp) : List Posting :=
  if data.legs = [] then fallbackCashLegs env portion (-1)
  else (nonEmpty data.legs).map fun leg => posting env leg.method leg.currencyCode (-|leg.amount|)

/-- What is kept is the profit of the pickup's own row. -/
def CollectHoldInput.transaction (data : CollectHoldInput) (hold : HoldMoneyRow) (portion kept : UsdLbp) : Transaction where
  type := .holdMoneyCollect
  sourceId := data.id
  amount := portion
  profit := kept
  exchangeRate := (data.common env).rate.value
  clientId := hold.clientId
  clientName := hold.clientName
  clientPhone := hold.phoneNumber

/-- What is asked for, else all that remains of the currency. -/
def CollectHoldInput.portion (data : CollectHoldInput) (remaining : UsdLbp) : UsdLbp :=
  (data.usdAmount.getD remaining.1, data.lbpAmount.getD remaining.2)

/-- The books once the money of a pickup is posted. -/
def recordPickup (s posted : Store) (holdId : ℕ) (remaining portion rounding : UsdLbp) : Store :=
  { posted with
    pickups := s.pickups.insert { holdMoneyId := holdId, transactionId := s.transactions.nextId, amount := portion }
    expenses := if any rounding then s.expenses.insert { pickupId := s.pickups.nextId, amount := rounding } else s.expenses
    holds :=
      if isCleared (remaining - portion) then s.holds.update holdId fun row => { row with status := .collected } else s.holds }

def collectHold (data : CollectHoldInput) (s : Store) : Result :=
  (refuseIf (!data.legs.isEmpty && (nonEmpty data.legs).isEmpty)
    "Hold Money pickup: no payout amount entered — enter what you hand to the customer").bind fun _ =>
  match s.holds.get data.id with
  | none => .error "Hold not found"
  | some hold =>
    (refuseIf (hold.status ≠ .held) "Hold has already been fully collected").bind fun _ =>
    let remaining := s.remaining data.id hold
    let portion := data.portion remaining
    (checkPortion env remaining portion).bind fun _ =>
    (resolvePickup env data portion).bind fun terms =>
    (addedPostings env terms.added.measured).bind fun added =>
    (postAll s.transactions.nextId
      { s with transactions := s.transactions.insert (data.transaction env hold portion terms.kept) }
      (added ++ payoutPostings env data portion)).map fun posted =>
    recordPickup s posted data.id remaining portion terms.rounding

/-! Voiding a pickup. -/

/-- The mirror of a row. -/
def mirror (row : Payment) : Posting where
  method := row.method
  drawerName := row.drawerName
  currencyCode := row.currencyCode
  amount := -row.amount

def Store.rowsOf (s : Store) (transactionId : ℕ) : List Payment :=
  (s.payments.select fun row => row.transactionId = transactionId).map (·.2)

/-- The profit and the rate of the pickup's own row, where it has one. -/
def voidTransaction (id : ℕ) (pickup : Pickup) (hold : HoldMoneyRow) (original : Option Transaction) : Transaction where
  type := .holdMoneyCollectVoid
  sourceId := id
  amount := pickup.amount
  profit := 0 - (original.map (·.profit)).getD 0
  exchangeRate := (original.map (·.exchangeRate)).getD env.marketRate
  clientId := hold.clientId
  clientName := hold.clientName
  clientPhone := hold.phoneNumber
  reversesId := pickup.transactionId

/-- The books once the rows of a pickup are mirrored. -/
def recordVoid (s posted : Store) (id : ℕ) (pickup : Pickup) (hold : HoldMoneyRow) : Store :=
  { posted with
    pickups := s.pickups.update id fun row => { row with isVoided := true }
    expenses := s.expenses.updateWhere (fun row => row.pickupId = id && !row.isRefunded) fun row => { row with isRefunded := true }
    holds :=
      if hold.status = .collected then s.holds.update pickup.holdMoneyId fun row => { row with status := .held } else s.holds }

def voidPickup (id : ℕ) (s : Store) : Result :=
  match s.pickups.get id with
  | none => .error "Pickup not found"
  | some pickup =>
    (refuseIf pickup.isVoided "Pickup already voided").bind fun _ =>
    match s.holds.get pickup.holdMoneyId with
    | none => .error "Hold not found"
    | some hold =>
      let transaction := voidTransaction env id pickup hold (pickup.transactionId.bind s.transactions.get)
      (postAll s.transactions.nextId { s with transactions := s.transactions.insert transaction }
        (((pickup.transactionId.map s.rowsOf).getD []).map mirror)).map fun posted =>
      recordVoid s posted id pickup hold

end

inductive Action where
  | create (env : Setting) (data : CreateHoldInput)
  | collect (env : Setting) (data : CollectHoldInput)
  | void (env : Setting) (pickupId : ℕ)

/-- A refused call is rolled back. -/
def exec (s : Store) : Action → Store
  | .create env data => leaves s (createHold env data s)
  | .collect env data => leaves s (collectHold env data s)
  | .void env pickupId => leaves s (voidPickup env pickupId s)

end Liratek.Hold.HeldMoney
