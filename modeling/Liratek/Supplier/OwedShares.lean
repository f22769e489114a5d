import Liratek.Lib.Calls
import Liratek.Lib.Table
import Liratek.Money.AccountSettle
import Mathlib.Algebra.Order.Ring.Rat

/-! The commission shares OMT still owes the shop. A settlement leaves some owed, and a later one collects them. -/

namespace Liratek.Supplier.OwedShares
open Lib Lib.Calls Money.AccountSettle Money.LargestRemainder

def roundMoney (v : ℚ) (currency : Currency) : ℚ :=
  mathRound (v * minorFactor currency) / minorFactor currency

/-- A share a settlement leaves owed. -/
structure ShareToCreate where
  financialServiceId : Nat
  omtServiceType : Option String
  currency : Currency
  amount : ℚ
  positive : 0 < amount
  /-- in whole minor units -/
  whole : roundMoney amount currency = amount

/-- A row of `omt_owed_shares`. -/
structure OwedShare where
  financialServiceId : Nat
  omtServiceType : Option String
  currency : Currency
  amount : ℚ
  createdSettlement : Nat
  clearedSettlement : Option Nat := none
  isReversed : Bool := false
  reliefLedgerId : Option Nat := none

/-- `owedShareLiveSql` -/
def isLive (share : OwedShare) : Bool :=
  !share.isReversed && share.clearedSettlement.isNone

inductive LedgerNote where
  | written (text : String)
  | sharesAhead (settlementId : Nat)
  deriving DecidableEq, Repr

def LedgerNote.text (number : Nat → String) : LedgerNote → String
  | .written text => text
  | .sharesAhead settlementId =>
    "Auto: OMT paid shares ahead — settlement #" ++ number settlementId ++ " was undone"

/-- A row of `supplier_ledger`. -/
structure LedgerRow where
  supplierId : Nat
  entryType : String
  amount : Currency → ℚ
  note : LedgerNote
  isAuto : Bool := false
  isRefunded : Bool := false

inductive Status where
  | active | voided | refunded
  deriving DecidableEq, Repr

structure Settlement where
  /-- its own ledger row -/
  anchorLedgerId : Nat
  status : Status := .active
  /-- the shares it collected -/
  collected : List Nat := []

structure Account where
  shares : Table OwedShare := {}
  ledger : Table LedgerRow := {}
  settlements : Table Settlement := {}

inductive SettleError where
  | noLongerOwed (name : String) (shareId : Nat)
  | notFound (settlementId : Nat)
  | alreadyVoided
  | refundedNotVoided
  | cannotRefundVoided
  | alreadyRefunded
  deriving DecidableEq, Repr

def SettleError.message (number : Nat → String) (stale : String → String) : SettleError → String
  | .noLongerOwed name shareId =>
    stale name ++ " (Account settlement: owed share #" ++ number shareId ++ " is no longer owed)"
  | .notFound settlementId => "transactions with id " ++ number settlementId ++ " not found"
  | .alreadyVoided => "Transaction is already voided"
  | .refundedNotVoided => "Transaction has already been refunded — cannot void it too"
  | .cannotRefundVoided => "Cannot refund a voided transaction"
  | .alreadyRefunded => "Transaction has already been refunded"

/-! A settlement. -/

def clearShare (settlementId : Nat) (share : OwedShare) : OwedShare :=
  { share with clearedSettlement := some settlementId }

def clearOne (name : String) (settlementId : Nat) (shares : Table OwedShare) (shareId : Nat) :
    Except SettleError (Table OwedShare) :=
  if (shares.get shareId).any isLive then .ok (shares.update shareId (clearShare settlementId))
  else .error (.noLongerOwed name shareId)

def clearShares (name : String) (settlementId : Nat) :
    Table OwedShare → List Nat → Except SettleError (Table OwedShare)
  | shares, [] => .ok shares
  | shares, shareId :: rest =>
    (clearOne name settlementId shares shareId).bind fun next => clearShares name settlementId next rest

def createdShare (settlementId : Nat) (share : ShareToCreate) : OwedShare where
  financialServiceId := share.financialServiceId
  omtServiceType := share.omtServiceType
  currency := share.currency
  amount := share.amount
  createdSettlement := settlementId

def createShares (settlementId : Nat) (shares : Table OwedShare) (toCreate : List ShareToCreate) : Table OwedShare :=
  toCreate.foldl (fun shares share => shares.insert (createdShare settlementId share)) shares

/-- One currency's part of a settlement. -/
structure SectionPlan where
  sharesToClear : List Nat
  sharesToCreate : List ShareToCreate

/-- The owed shares of a settlement. -/
def applyPlans (name : String) (settlementId : Nat) :
    Table OwedShare → List SectionPlan → Except SettleError (Table OwedShare)
  | shares, [] => .ok shares
  | shares, plan :: rest =>
    (clearShares name settlementId shares plan.sharesToClear).bind fun cleared =>
      applyPlans name settlementId (createShares settlementId cleared plan.sharesToCreate) rest

/-- The row that stands for the settlement on its first member. -/
structure AnchorRow where
  supplierId : Nat
  entryType : String
  amount : Currency → ℚ
  note : String

def anchorRow (anchor : AnchorRow) : LedgerRow where
  supplierId := anchor.supplierId
  entryType := anchor.entryType
  amount := anchor.amount
  note := .written anchor.note

def settle (s : Account) (name : String) (anchor : AnchorRow) (plans : List SectionPlan) : Except SettleError Account :=
  (applyPlans name s.settlements.nextId s.shares plans).map fun shares =>
    { shares := shares
      ledger := s.ledger.insert (anchorRow anchor)
      settlements := s.settlements.insert
        { anchorLedgerId := s.ledger.nextId, collected := plans.flatMap (·.sharesToClear) } }

/-! The undo of a settlement, a void or a refund. -/

def collectedBy (settlementId : Nat) (share : OwedShare) : Bool :=
  share.clearedSettlement = some settlementId

def refundRow (row : LedgerRow) : LedgerRow :=
  { row with isRefunded := true }

def unclearShare (share : OwedShare) : OwedShare :=
  { share with clearedSettlement := none, reliefLedgerId := none }

/-- The relief rows of what the settlement collected are given back. -/
def refundReliefs (ledger : Table LedgerRow) (cleared : List (Nat × OwedShare)) : Table LedgerRow :=
  cleared.foldl
    (fun ledger entry =>
      match entry.2.reliefLedgerId with
      | none => ledger
      | some rowId => ledger.update rowId refundRow)
    ledger

/-- What the settlement collected is owed again. -/
def reopenCollected (s : Account) (settlementId : Nat) : Account :=
  { s with
    ledger := refundReliefs s.ledger (s.shares.select (collectedBy settlementId))
    shares := s.shares.updateWhere (collectedBy settlementId) unclearShare }

def isCreatedBy (settlementId : Nat) (share : OwedShare) : Bool :=
  share.createdSettlement = settlementId && !share.isReversed

/-- What later settlements already collected of the settlement's shares. -/
def collectedAmount (shares : Table OwedShare) (settlementId : Nat) (currency : Currency) : ℚ :=
  shares.total fun share =>
    if isCreatedBy settlementId share && share.clearedSettlement.isSome && share.currency = currency then share.amount
    else 0

def reliefRow (supplierId settlementId : Nat) (currency : Currency) (amount : ℚ) : LedgerRow where
  supplierId := supplierId
  entryType := "SUPPLIER_PAYS_US"
  amount := fun c => if c = currency then roundMoney amount currency else 0
  note := .sharesAhead settlementId
  isAuto := true

/-- The row is returned, unless nothing was collected. -/
def insertRelief (shares : Table OwedShare) (supplierId : Option Nat) (settlementId : Nat) (ledger : Table LedgerRow)
    (currency : Currency) : Table LedgerRow × Option Nat :=
  let amount := collectedAmount shares settlementId currency
  if amount ≤ 0 then (ledger, none)
  else
    match supplierId with
    | none => (ledger, none)
    | some supplierId => (ledger.insert (reliefRow supplierId settlementId currency amount), some ledger.nextId)

def reverseShare (ids : Currency → Option Nat) (share : OwedShare) : OwedShare :=
  { share with
    isReversed := true
    reliefLedgerId := if share.clearedSettlement.isSome then ids share.currency else none }

def reliefIds (usd lbp : Option Nat) : Currency → Option Nat
  | .usd => usd
  | .lbp => lbp

/-- The shares the settlement left owed stop existing. -/
def reverseCreated (s : Account) (settlementId : Nat) (supplierId : Option Nat) : Account :=
  let usd := insertRelief s.shares supplierId settlementId s.ledger .usd
  let lbp := insertRelief s.shares supplierId settlementId usd.1 .lbp
  { s with
    ledger := lbp.1
    shares := s.shares.updateWhere (isCreatedBy settlementId) (reverseShare (reliefIds usd.2 lbp.2)) }

/-- `_reverseOmtOwedShares` -/
def reverseOmtOwedShares (s : Account) (settlementId anchorLedgerId : Nat) : Account :=
  let reopened := reopenCollected s settlementId
  reverseCreated reopened settlementId ((reopened.ledger.get anchorLedgerId).map (·.supplierId))

inductive UndoKind where
  | void | refund
  deriving DecidableEq, Repr

def UndoKind.leaves : UndoKind → Status
  | .void => .voided
  | .refund => .refunded

def refusal : UndoKind → Status → Option SettleError
  | _, .active => none
  | .void, .voided => some .alreadyVoided
  | .void, .refunded => some .refundedNotVoided
  | .refund, .voided => some .cannotRefundVoided
  | .refund, .refunded => some .alreadyRefunded

def setStatus (status : Status) (settlement : Settlement) : Settlement :=
  { settlement with status := status }

/-- The settlement's own row is refunded with it. -/
def undone (s : Account) (kind : UndoKind) (settlementId : Nat) (settlement : Settlement) : Account :=
  reverseOmtOwedShares
    { s with
      ledger := s.ledger.update settlement.anchorLedgerId refundRow
      settlements := s.settlements.update settlementId (setStatus kind.leaves) }
    settlementId settlement.anchorLedgerId

def undo (s : Account) (kind : UndoKind) (settlementId : Nat) : Except SettleError Account :=
  match s.settlements.get settlementId with
  | none => .error (.notFound settlementId)
  | some settlement =>
    match refusal kind settlement.status with
    | some refused => .error refused
    | none => .ok (undone s kind settlementId settlement)

inductive Action where
  | settle (name : String) (anchor : AnchorRow) (plans : List SectionPlan)
  | undo (kind : UndoKind) (settlementId : Nat)

/-- A call that throws changes nothing. -/
def exec (s : Account) : Action → Account
  | .settle name anchor plans => leaves s (settle s name anchor plans)
  | .undo kind settlementId => leaves s (undo s kind settlementId)

end Liratek.Supplier.OwedShares
