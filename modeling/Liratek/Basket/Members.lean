import Liratek.Lib.Calls
import Liratek.Lib.Table
import Mathlib.Algebra.Order.Ring.Rat
import Mathlib.Data.String.Basic

/-! The items of a session basket and the one debt row a basket on account becomes. Amounts are exact. -/

namespace Liratek.Basket.Members
open Lib Lib.Calls

inductive CoverageCurrency where
  | usd | lbp
  deriving DecidableEq, Repr

/-- One column per currency. -/
abbrev Amounts := CoverageCurrency → ℚ

/-- A row of `customer_session_transactions`. -/
structure SessionTransaction where
  sessionId : Nat
  unifiedTransactionId : Option Nat
  transactionType : String
  amount : Amounts
  owed : Amounts := fun _ => 0
  covered : Amounts := fun _ => 0

structure UnifiedTransaction where
  type : String
  reversesId : Option Nat := none
  /-- of the financial service it is about -/
  provider : Option String := none
  deriving DecidableEq, Repr

/-- A row of `debt_ledger`. -/
structure DebtRow where
  clientId : Nat
  sessionId : Option Nat
  transactionType : String
  transactionId : Option Nat
  amount : Amounts
  covered : Amounts := fun _ => 0

structure Shop where
  items : Table SessionTransaction := {}
  transactions : Table UnifiedTransaction := {}
  debts : Table DebtRow := {}

inductive BasketError where
  | itemNotFound (memberId : Nat)
  | noBasketDebt (memberId : Nat)
  | alreadyPaid
  deriving DecidableEq, Repr

def BasketError.message (number : Nat → String) : BasketError → String
  | .itemNotFound memberId => "Basket item " ++ number memberId ++ " not found"
  | .noBasketDebt memberId => "Basket item " ++ number memberId ++ " has no basket debt"
  | .alreadyPaid => "This item was already paid by another repayment — reload and try again."

def sessionDebtType : String := "Session Debt"

def sessionItemRefundCreditType : String := "Session Item Refund"

def coverageEps : CoverageCurrency → ℚ
  | .usd => 1 / 100
  | .lbp => 1

/-! What is still open, as the queries read it. -/

def typeOf (s : Shop) (transactionId : Option Nat) : Option String :=
  (transactionId.bind s.transactions.get).map (·.type)

/-- The item a refund credit is about. -/
def refundedBy (s : Shop) (credit : DebtRow) : Option Nat :=
  (credit.transactionId.bind s.transactions.get).bind (·.reversesId)

/-- `sessionItemRefundNetCreditSql` -/
def sessionItemRefundNetCredit (s : Shop) (row : DebtRow) (currency : CoverageCurrency) : ℚ :=
  if row.transactionType = sessionDebtType then
    -s.debts.total fun credit =>
      if credit.sessionId.isSome && credit.sessionId = row.sessionId &&
          credit.transactionType = sessionItemRefundCreditType &&
          (typeOf s (refundedBy s credit)).any (· ≠ "SALE") then credit.amount currency else 0
  else 0

/-- `refundReversedSql` -/
def refundReversed (s : Shop) (row : DebtRow) (currency : CoverageCurrency) : ℚ :=
  -s.debts.total fun reversal =>
    if reversal.transactionId.isSome && reversal.transactionId = row.transactionId &&
        reversal.transactionType = "Refund Reversal" && reversal.amount currency < 0 then reversal.amount currency else 0

/-- `coverageOutstandingSql` -/
def coverageOutstanding (s : Shop) (row : DebtRow) (currency : CoverageCurrency) : ℚ :=
  row.amount currency - row.covered currency - sessionItemRefundNetCredit s row currency - refundReversed s row currency

/-- `memberItemRefundCreditSql` -/
def memberItemRefundCredit (s : Shop) (item : SessionTransaction) (currency : CoverageCurrency) : ℚ :=
  -s.debts.total fun credit =>
    if credit.sessionId = some item.sessionId && credit.transactionType = sessionItemRefundCreditType &&
        (refundedBy s credit).isSome && refundedBy s credit = item.unifiedTransactionId then credit.amount currency
    else 0

/-- `memberOutstandingSql` -/
def memberOutstanding (s : Shop) (item : SessionTransaction) (currency : CoverageCurrency) : ℚ :=
  item.owed currency - item.covered currency - memberItemRefundCredit s item currency

def isNonSaleMember (s : Shop) (sessionId : Nat) (item : SessionTransaction) : Bool :=
  item.sessionId = sessionId && item.transactionType ≠ "session_item_refund" &&
    (typeOf s item.unifiedTransactionId).any (· ≠ "SALE")

/-- The open amounts of the basket's non-sale members. -/
def membersOutstanding (s : Shop) (sessionId : Nat) (currency : CoverageCurrency) : ℚ :=
  s.items.total fun item => if isNonSaleMember s sessionId item then memberOutstanding s item currency else 0

/-! The writers of a member's coverage. -/

/-- The basket row of a session. -/
def basketRow (s : Shop) (sessionId : Nat) : Option (Nat × DebtRow) :=
  (s.debts.select fun row => row.sessionId = some sessionId && row.transactionType = sessionDebtType &&
    row.transactionId = none).head?

def coverItem (amount : Amounts) (item : SessionTransaction) : SessionTransaction :=
  { item with covered := item.covered + amount }

def coverRow (amount : Amounts) (row : DebtRow) : DebtRow :=
  { row with covered := row.covered + amount }

/-- The row it covered is part of the answer. -/
def coverBasketMember (s : Shop) (memberId : Nat) (amount : Amounts) : Except BasketError (Shop × Nat) :=
  match s.items.get memberId with
  | none => .error (.itemNotFound memberId)
  | some member =>
    match basketRow s member.sessionId with
    | none => .error (.noBasketDebt memberId)
    | some (rowId, _) =>
      if member.covered .usd + amount .usd ≤ member.owed .usd + coverageEps .usd ∧
          member.covered .lbp + amount .lbp ≤ member.owed .lbp + coverageEps .lbp then
        .ok ({ s with
          items := s.items.update memberId (coverItem amount)
          debts := s.debts.update rowId (coverRow amount) }, rowId)
      else .error .alreadyPaid

/-- `MAX(0, covered - amount)` -/
def lowered (covered amount : Amounts) : Amounts :=
  fun currency => max 0 (covered currency - amount currency)

def uncoverItem (amount : Amounts) (item : SessionTransaction) : SessionTransaction :=
  { item with covered := lowered item.covered amount }

def uncoverRow (amount : Amounts) (row : DebtRow) : DebtRow :=
  { row with covered := lowered row.covered amount }

def uncoverBasketMember (s : Shop) (memberId rowId : Nat) (amount : Amounts) : Shop :=
  { s with
    items := s.items.update memberId (uncoverItem amount)
    debts := s.debts.update rowId (uncoverRow amount) }

/-- The non-sale charge members of a basket, newest first. -/
def reopenableMembers (s : Shop) (sessionId : Nat) : List (Nat × SessionTransaction) :=
  (s.items.select fun item =>
    isNonSaleMember s sessionId item && (0 < item.amount .usd || 0 < item.amount .lbp)).reverse

def reopenTake (left covered : Amounts) : Amounts :=
  fun currency => min (left currency) (max 0 (covered currency))

def reopenItem (taken extra : Amounts) (item : SessionTransaction) : SessionTransaction :=
  { item with covered := item.covered - taken, owed := item.owed + extra }

/-- Un-covering the members in turn; what no member had is left. -/
def reopenMembers : Table SessionTransaction → List (Nat × SessionTransaction) → Amounts → Table SessionTransaction × Amounts
  | items, [], left => (items, left)
  | items, (id, item) :: rest, left =>
    let taken := reopenTake left item.covered
    let items := if 0 < taken .usd ∨ 0 < taken .lbp then items.update id (reopenItem taken 0) else items
    reopenMembers items rest (left - taken)

def leftoverEps : ℚ := 1 / 10 ^ 9

/-- What is left raises the newest member's share. -/
def reopenSession (s : Shop) (sessionId : Nat) (amount : Amounts) : Shop :=
  match reopenableMembers s sessionId with
  | [] => s
  | newest :: rest =>
    let walk := reopenMembers s.items (newest :: rest) amount
    { s with
      items :=
        if leftoverEps < walk.2 .usd ∨ leftoverEps < walk.2 .lbp then
          walk.1.update newest.1 (reopenItem 0 fun currency => max 0 (walk.2 currency))
        else walk.1 }

/-- The session of a basket row. -/
def basketSession (s : Shop) (rowId : Nat) : Option Nat :=
  ((s.debts.get rowId).filter fun row => row.transactionType = sessionDebtType).bind (·.sessionId)

def reopenBasketMembers (s : Shop) (rowId : Nat) (amount : Amounts) : Shop :=
  if amount .usd ≤ 0 ∧ amount .lbp ≤ 0 then s
  else
    match basketSession s rowId with
    | none => s
    | some sessionId => reopenSession s sessionId amount

/-- The void of a repayment that recorded only the row it covered. -/
def giveBackRow (s : Shop) (rowId : Nat) (amount : Amounts) : Shop :=
  reopenBasketMembers { s with debts := s.debts.update rowId (uncoverRow amount) } rowId amount

end Liratek.Basket.Members
