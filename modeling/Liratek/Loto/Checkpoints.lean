import Liratek.Lib.Calls
import Liratek.Lib.Table
import Mathlib.Algebra.Order.Ring.Rat

/-! Loto tickets and cash prizes, and the checkpoints that gather them. The totals of a checkpoint are taken once,
when it is created. -/

namespace Liratek.Loto.Checkpoints
open Lib Lib.Calls

/-- A row of `loto_tickets`. -/
structure LotoTicket where
  saleAmount : ℚ
  commissionRate : ℚ
  commissionAmount : ℚ
  /-- `is_winner`, stored as 0 or 1 -/
  isWinner : Bool := false
  prizeAmount : ℚ := 0
  prizePaidDate : Option String := none
  checkpointId : Option Nat := none
  isRefunded : Bool := false
  deriving DecidableEq, Repr

/-- A row of `loto_cash_prizes`. -/
structure LotoCashPrize where
  prizeAmount : ℚ
  isReimbursed : Bool := false
  checkpointId : Option Nat := none
  voided : Bool := false
  deriving DecidableEq, Repr

/-- A row of `loto_checkpoints`. -/
structure LotoCheckpoint where
  totalSales : ℚ
  totalCommission : ℚ
  totalTickets : ℤ
  totalPrizes : ℚ
  totalCashPrizes : ℚ
  totalCashPrizesCount : ℤ
  isSettled : Bool := false
  deriving DecidableEq, Repr

inductive TransactionType where
  | loto | lotoCashPrize | refund
  deriving DecidableEq, Repr

inductive Status where
  | active | voided
  deriving DecidableEq, Repr

structure Transaction where
  type : TransactionType
  /-- the ticket of a `LOTO` row, the prize of a `LOTO_CASH_PRIZE` row -/
  sourceId : Nat
  status : Status := .active
  reversesId : Option Nat := none
  /-- a row of `customer_session_transactions` links it to a basket -/
  inSession : Bool := false
  deriving DecidableEq, Repr

structure Store where
  tickets : Table LotoTicket := {}
  cashPrizes : Table LotoCashPrize := {}
  checkpoints : Table LotoCheckpoint := {}
  transactions : Table Transaction := {}
  deriving DecidableEq

inductive LotoError where
  | soldAmountsFixed
  | ticketNotFound (id : Nat)
  | prizeNotPositive
  | notFound (id : Nat)
  | alreadyVoided
  | cannotRefundVoided
  | nonReversible (type : TransactionType)
  | reversalRow
  | sessionMember
  | ticketSettled (checkpointId : Nat)
  | prizeSettled
  | refundedNotVoided
  | alreadyRefunded
  deriving DecidableEq, Repr

abbrev Result := Except LotoError Store

/-! Tickets and prizes. -/

structure SellTicketData where
  saleAmount : ℚ
  commissionRate : ℚ
  isWinner : Bool := false
  prizeAmount : ℚ := 0
  inSession : Bool := false

def sellTicket (s : Store) (data : SellTicketData) : Store :=
  { s with
    tickets := s.tickets.insert
      { saleAmount := data.saleAmount
        commissionRate := data.commissionRate
        commissionAmount := data.saleAmount * data.commissionRate
        isWinner := data.isWinner
        prizeAmount := data.prizeAmount }
    transactions := s.transactions.insert
      { type := .loto, sourceId := s.tickets.nextId, inSession := data.inSession } }

def recordCashPrize (s : Store) (prizeAmount : ℚ) (inSession : Bool) : Result :=
  if prizeAmount ≤ 0 then .error .prizeNotPositive
  else .ok
    { s with
      cashPrizes := s.cashPrizes.insert { prizeAmount }
      transactions := s.transactions.insert
        { type := .lotoCashPrize, sourceId := s.cashPrizes.nextId, inSession } }

structure LotoTicketUpdate where
  saleAmount : Option ℚ := none
  commissionRate : Option ℚ := none
  commissionAmount : Option ℚ := none
  isWinner : Option Bool := none
  prizeAmount : Option ℚ := none
  prizePaidDate : Option String := none

def LotoTicketUpdate.apply (data : LotoTicketUpdate) (ticket : LotoTicket) : LotoTicket :=
  { ticket with
    isWinner := data.isWinner.getD ticket.isWinner
    prizeAmount := data.prizeAmount.getD ticket.prizeAmount
    prizePaidDate := data.prizePaidDate.or ticket.prizePaidDate }

def LotoTicketUpdate.editsSale (data : LotoTicketUpdate) : Bool :=
  data.saleAmount.isSome || data.commissionRate.isSome || data.commissionAmount.isSome

def updateTicket (s : Store) (id : Nat) (data : LotoTicketUpdate) : Result :=
  if data.editsSale then .error .soldAmountsFixed
  else .ok { s with tickets := s.tickets.update id data.apply }

/-- A ticket that is not there was not changed either. -/
def mustExist (s : Store) (id : Nat) : Result :=
  match s.tickets.get id with
  | none => .error (.ticketNotFound id)
  | some _ => .ok s

def markWinner (s : Store) (id : Nat) (prizeAmount : ℚ) : Result :=
  (updateTicket s id { isWinner := some true, prizeAmount := some prizeAmount }).bind fun updated => mustExist updated id

def payPrize (s : Store) (id : Nat) (paidDate : String) : Result :=
  (updateTicket s id { prizePaidDate := some paidDate }).bind fun updated => mustExist updated id

/-! Checkpoints. -/

def LotoTicket.winnerPrize (ticket : LotoTicket) : ℚ :=
  if ticket.isWinner then ticket.prizeAmount else 0

/-- The condition of `getUncheckpointedTickets` and of `getUncheckpointedTotals`. -/
def uncheckpointed (ticket : LotoTicket) : Bool :=
  ticket.checkpointId.isNone && !ticket.isRefunded

/-- The condition of `getUnassigned`. -/
def unassigned (prize : LotoCashPrize) : Bool :=
  prize.checkpointId.isNone && !prize.isReimbursed && !prize.voided

def assignTicket (checkpointId : Nat) (tickets : Table LotoTicket) (id : Nat) : Table LotoTicket :=
  tickets.update id fun ticket => { ticket with checkpointId := some checkpointId }

def assignPrize (checkpointId : Nat) (prizes : Table LotoCashPrize) (id : Nat) : Table LotoCashPrize :=
  prizes.update id fun prize => { prize with checkpointId := some checkpointId }

def createCheckpoint (s : Store) : Store :=
  let uncheckpointedTickets := s.tickets.select uncheckpointed
  let unassignedPrizes := s.cashPrizes.select unassigned
  let checkpointId := s.checkpoints.nextId
  { s with
    checkpoints := s.checkpoints.insert
      { totalSales := (uncheckpointedTickets.map (·.2.saleAmount)).sum
        totalCommission := (uncheckpointedTickets.map (·.2.commissionAmount)).sum
        totalTickets := uncheckpointedTickets.length
        totalPrizes := (uncheckpointedTickets.map (·.2.winnerPrize)).sum
        totalCashPrizes := (unassignedPrizes.map (·.2.prizeAmount)).sum
        totalCashPrizesCount := unassignedPrizes.length }
    tickets := (uncheckpointedTickets.map (·.1)).foldl (assignTicket checkpointId) s.tickets
    cashPrizes := (unassignedPrizes.map (·.1)).foldl (assignPrize checkpointId) s.cashPrizes }

/-- The members are unlinked before the checkpoint is looked at. -/
def deleteCheckpoint (s : Store) (id : Nat) : Store × Bool :=
  let unlinked :=
    { s with
      cashPrizes := s.cashPrizes.updateWhere (·.checkpointId = some id) fun prize => { prize with checkpointId := none }
      tickets := s.tickets.updateWhere (·.checkpointId = some id) fun ticket => { ticket with checkpointId := none } }
  match s.checkpoints.get id with
  | some checkpoint =>
    if checkpoint.isSettled then (unlinked, false) else ({ unlinked with checkpoints := s.checkpoints.delete id }, true)
  | none => (unlinked, false)

/-! Voids and refunds. -/

/-- `NON_REVERSIBLE_TRANSACTION_TYPES` -/
def nonReversible : TransactionType → Bool
  | .loto => false
  | .lotoCashPrize | .refund => true

/-- `SESSION_BASKET_BYPASSABLE_NON_REVERSIBLE_TYPES` -/
def basketBypassable : TransactionType → Bool
  | .lotoCashPrize => true
  | .loto | .refund => false

def assertReversible (original : Transaction) (allowSessionMember : Bool) : Except LotoError Unit :=
  if nonReversible original.type && !(allowSessionMember && basketBypassable original.type) then
    .error (.nonReversible original.type)
  else if original.reversesId.isSome then .error .reversalRow
  else if !allowSessionMember && original.inSession then .error .sessionMember
  else .ok ()

def settledCheckpoint (s : Store) (checkpointId : Option Nat) : Option Nat :=
  checkpointId.filter fun id => (s.checkpoints.get id).any (·.isSettled)

def assertLotoTicketVoidable (s : Store) (original : Transaction) : Except LotoError Unit :=
  match original.type, s.tickets.get original.sourceId with
  | .loto, some ticket =>
    match settledCheckpoint s ticket.checkpointId with
    | some checkpointId => .error (.ticketSettled checkpointId)
    | none => .ok ()
  | _, _ => .ok ()

def assertLotoCashPrizeVoidable (s : Store) (original : Transaction) : Except LotoError Unit :=
  match original.type, s.cashPrizes.get original.sourceId with
  | .lotoCashPrize, some prize =>
    if prize.isReimbursed || (settledCheckpoint s prize.checkpointId).isSome then .error .prizeSettled else .ok ()
  | _, _ => .ok ()

/-- An update of the totals that a settled checkpoint does not take. -/
def adjustOpen (checkpoints : Table LotoCheckpoint) (id : Nat) (change : LotoCheckpoint → LotoCheckpoint) :
    Table LotoCheckpoint :=
  checkpoints.update id fun checkpoint => if checkpoint.isSettled then checkpoint else change checkpoint

/-- `_markSourceRefunded` for the tickets -/
def markSourceRefunded (s : Store) (original : Transaction) : Store :=
  match original.type with
  | .loto => { s with tickets := s.tickets.update original.sourceId fun ticket => { ticket with isRefunded := true } }
  | _ => s

/-- The checkpoint's side of `_reverseLotoSupplierLedger`. -/
def reverseLotoSupplierLedger (s : Store) (original : Transaction) : Store :=
  match original.type, s.tickets.get original.sourceId with
  | .loto, some ticket =>
    match ticket.checkpointId with
    | some checkpointId =>
      { s with
        checkpoints := adjustOpen s.checkpoints checkpointId fun checkpoint =>
          { checkpoint with
            totalSales := checkpoint.totalSales - ticket.saleAmount
            totalCommission := checkpoint.totalCommission - ticket.commissionAmount
            totalTickets := checkpoint.totalTickets - 1
            totalPrizes := checkpoint.totalPrizes - ticket.winnerPrize } }
    | none => s
  | _, _ => s

def reverseLotoCashPrize (s : Store) (original : Transaction) : Store :=
  match original.type, s.cashPrizes.get original.sourceId with
  | .lotoCashPrize, some prize =>
    let marked := { s with cashPrizes := s.cashPrizes.update original.sourceId fun prize => { prize with voided := true } }
    match prize.checkpointId with
    | some checkpointId =>
      { marked with
        checkpoints := adjustOpen s.checkpoints checkpointId fun checkpoint =>
          { checkpoint with
            totalCashPrizes := checkpoint.totalCashPrizes - prize.prizeAmount
            totalCashPrizesCount := checkpoint.totalCashPrizesCount - 1 } }
    | none => marked
  | _, _ => s

/-- What a void and a refund do beside their own rows. -/
def applyReversal (s : Store) (original : Transaction) : Store :=
  reverseLotoCashPrize (reverseLotoSupplierLedger (markSourceRefunded s original) original) original

/-- The guards that a void and a refund share. -/
def assertVoidable (s : Store) (original : Transaction) (allowSessionMember : Bool) : Except LotoError Unit :=
  (assertReversible original allowSessionMember).bind fun _ =>
    (assertLotoTicketVoidable s original).bind fun _ => assertLotoCashPrizeVoidable s original

def refundsOf (s : Store) (id : Nat) : List (Nat × Transaction) :=
  s.transactions.select fun row => row.reversesId = some id && row.type = .refund

def voidTransaction (s : Store) (id : Nat) (allowSessionMember : Bool) : Result :=
  match s.transactions.get id with
  | none => .error (.notFound id)
  | some original =>
    if original.status = .voided then .error .alreadyVoided
    else (assertVoidable s original allowSessionMember).bind fun _ =>
      if (refundsOf s id).any (·.2.status = .active) then .error .refundedNotVoided
      else
        let marked := s.transactions.update id fun row => { row with status := .voided }
        let reversal := { original with status := .active, reversesId := some id, inSession := false }
        .ok (applyReversal { s with transactions := marked.insert reversal } original)

def refundTransaction (s : Store) (id : Nat) (allowSessionMember : Bool) : Result :=
  match s.transactions.get id with
  | none => .error (.notFound id)
  | some original =>
    if original.status = .voided then .error .cannotRefundVoided
    else (assertVoidable s original allowSessionMember).bind fun _ =>
      if refundsOf s id ≠ [] then .error .alreadyRefunded
      else
        let refund := { original with type := .refund, status := .active, reversesId := some id, inSession := false }
        .ok (applyReversal { s with transactions := s.transactions.insert refund } original)

/-! Runs. -/

inductive Action where
  | sellTicket (data : SellTicketData)
  | recordCashPrize (prizeAmount : ℚ) (inSession : Bool)
  | updateTicket (id : Nat) (data : LotoTicketUpdate)
  | markWinner (id : Nat) (prizeAmount : ℚ)
  | payPrize (id : Nat) (paidDate : String)
  | createCheckpoint
  | deleteCheckpoint (id : Nat)
  | voidTransaction (id : Nat) (allowSessionMember : Bool)
  | refundTransaction (id : Nat) (allowSessionMember : Bool)

def exec (s : Store) : Action → Store
  | .sellTicket data => sellTicket s data
  | .recordCashPrize prizeAmount inSession => leaves s (recordCashPrize s prizeAmount inSession)
  | .updateTicket id data => leaves s (updateTicket s id data)
  | .markWinner id prizeAmount => leaves s (markWinner s id prizeAmount)
  | .payPrize id paidDate => leaves s (payPrize s id paidDate)
  | .createCheckpoint => createCheckpoint s
  | .deleteCheckpoint id => (deleteCheckpoint s id).1
  | .voidTransaction id allowSessionMember => leaves s (voidTransaction s id allowSessionMember)
  | .refundTransaction id allowSessionMember => leaves s (refundTransaction s id allowSessionMember)

end Liratek.Loto.Checkpoints
