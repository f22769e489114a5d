import Liratek.Money.FifoCoverage
import Liratek.Money.LargestRemainder
import Mathlib.Data.String.Basic

/-! Settling an account by amount, one currency at a time. Amounts are exact; every pass runs in whole minor
units. Rows are known by their place: the day rows in order, then the account rows in order. -/

namespace Liratek.Money.AccountSettle
open FifoCoverage LargestRemainder

inductive RowKind where
  | financialService | ledger
  deriving DecidableEq, Repr

inductive Currency where
  | usd | lbp
  deriving DecidableEq, Repr

inductive CoverageSource where
  | netting | payment | commission | waive
  deriving DecidableEq, Repr

structure AllocRow where
  kind : RowKind
  id : Nat
  memberSupplierId : Nat
  /-- compared as a string -/
  createdAt : String
  /-- + the shop owes, − the shop is owed -/
  remaining : ℚ
  commissionModel1 : Bool
  cashoutCommission : ℚ
  commissionEstimate : Option ℚ := none
  commissionTicked : Option Bool := none
  deriving DecidableEq, Repr

structure AllocInput where
  currency : Currency
  rows : List AllocRow
  paid : ℚ
  commission : ℚ
  waive : ℚ
  commissionCovers : Bool := false
  commissionSplit : Option ℚ := none
  eps : ℚ
  accountCredits : List AllocRow := []
  wholeCredit : Bool := false
  creditUsed : ℚ := 0
  deriving DecidableEq, Repr

def kindOrder : RowKind → Nat
  | .financialService => 0
  | .ledger => 1

/-- `compareAccountSettleRows(a, b) <= 0` -/
def rowLe (a b : AllocRow) : Bool :=
  if a.createdAt ≠ b.createdAt then a.createdAt < b.createdAt
  else if a.kind ≠ b.kind then kindOrder a.kind ≤ kindOrder b.kind
  else a.id ≤ b.id

def minorFactor : Currency → ℚ
  | .usd => 100
  | .lbp => 1

def sorted (rows : List AllocRow) : List AllocRow :=
  rows.insertionSort fun a b => rowLe a b = true

/-! What one call fixes at its start. -/

section
variable (input : AllocInput)

def toMinor (x : ℚ) : ℤ :=
  mathRound (x * minorFactor input.currency)

def fromMinor (m : ℤ) : ℚ :=
  m / minorFactor input.currency

def epsMinor : ℚ :=
  max (1 / 2) (input.eps * minorFactor input.currency)

def isZero (m : ℤ) : Bool :=
  |(m : ℚ)| ≤ epsMinor input

def nRows : Nat :=
  input.rows.length

def all : List AllocRow :=
  sorted input.rows ++ sorted input.accountCredits

def orig (i : Nat) : ℤ :=
  ((all input)[i]?.map fun row => toMinor input row.remaining).getD 0

def member (i : Nat) : Nat :=
  ((all input)[i]?.map (·.memberSupplierId)).getD 0

def indices : List Nat :=
  List.range (all input).length

def rowIdx : List Nat :=
  (indices input).take (nRows input)

def acctIdx : List Nat :=
  (indices input).drop (nRows input)

/-- Positive account rows: debts in scope, queued after every day debt. -/
def acctDebtIdx : List Nat :=
  (acctIdx input).filter fun i => 0 < orig input i

/-- Negative account rows: the account credit pool. -/
def acctCreditIdx : List Nat :=
  (acctIdx input).filter fun i => orig input i < 0

def scopeIdx : List Nat :=
  rowIdx input ++ acctDebtIdx input

/-! What the passes change. -/

structure Take where
  i : Nat
  source : CoverageSource
  m : ℤ
  deriving DecidableEq, Repr

structure NettingPair where
  creditMember : Nat
  debitMember : Nat
  m : ℤ
  deriving DecidableEq, Repr

structure Ledger where
  rem : Nat → ℤ
  taken : Nat → ℤ := fun _ => 0
  takes : List Take := []
  netPairs : List NettingPair := []

def record (l : Ledger) (i : Nat) (source : CoverageSource) (m : ℤ) : Ledger :=
  if m ≤ 0 then l
  else
    { l with
      takes := l.takes ++ [{ i := i, source := source, m := m }]
      taken := Function.update l.taken i (l.taken i + m)
      rem := Function.update l.rem i (l.rem i + if 0 < orig input i then -m else m) }

/-- `0.5`: less than the smallest whole amount. -/
def within (m : ℤ) : Bool :=
  (m : ℚ) ≤ 1 / 2

def addPair (pairs : List NettingPair) (creditMember debitMember : Nat) (m : ℤ) : List NettingPair :=
  if pairs.any fun p => p.creditMember = creditMember && p.debitMember = debitMember then
    pairs.map fun p =>
      if p.creditMember = creditMember && p.debitMember = debitMember then { p with m := p.m + m } else p
  else pairs ++ [{ creditMember := creditMember, debitMember := debitMember, m := m }]

/-- Pair the credit pieces with the debit pieces, oldest against oldest. Every turn ends a piece. -/
def pairTakes : Nat → List (FifoTake Nat ℤ) → List (FifoTake Nat ℤ) → ℤ → ℤ → List NettingPair → List NettingPair
  | fuel + 1, d :: ds, c :: cs, dLeft, cLeft, pairs =>
    let m := min dLeft cLeft
    let next := if 0 < m && member input c.id ≠ member input d.id then
        addPair pairs (member input c.id) (member input d.id) m else pairs
    let debits := if dLeft - m ≤ 0 then ds else d :: ds
    let credits := if cLeft - m ≤ 0 then cs else c :: cs
    pairTakes fuel debits credits
      (if dLeft - m ≤ 0 then (ds.head?.map (·.take)).getD 0 else dLeft - m)
      (if cLeft - m ≤ 0 then (cs.head?.map (·.take)).getD 0 else cLeft - m) next
  | _, _, _, _, _, pairs => pairs

def recordAll (l : Ledger) (source : CoverageSource) (takes : List (FifoTake Nat ℤ)) : Ledger :=
  takes.foldl (fun acc t => record input acc t.id source t.take) l

def openDebts (l : Ledger) (pool : List Nat) : List Nat :=
  pool.filter fun i => epsMinor input < (l.rem i : ℚ)

def openCredits (l : Ledger) (pool : List Nat) : List Nat :=
  pool.filter fun i => (l.rem i : ℚ) < -epsMinor input

/-- `Math.min(m, cap ?? Infinity)` -/
def upTo (cap : Option ℤ) (m : ℤ) : ℤ :=
  match cap with
  | none => m
  | some c => min m c

def withPairs (l : Ledger) (debitTakes creditTakes : List (FifoTake Nat ℤ)) : Ledger :=
  { l with
    netPairs := pairTakes input (debitTakes.length + creditTakes.length) debitTakes creditTakes
      ((debitTakes.head?.map (·.take)).getD 0) ((creditTakes.head?.map (·.take)).getD 0) l.netPairs }

/-- Net open debts against open credits, oldest first, up to `cap`. -/
def net (l : Ledger) (debtPool creditPool : List Nat) (cap : Option ℤ) : Ledger × ℤ :=
  let debtIdx := openDebts input l debtPool
  let creditIdx := openCredits input l creditPool
  let totalDebt := (debtIdx.map l.rem).sum
  let totalCredit := (creditIdx.map fun i => -l.rem i).sum
  let netting := upTo cap (min totalDebt totalCredit)
  if netting ≤ 0 then (l, 0)
  else
    let debitTakes := allocateFifo within (debtIdx.map fun i => { id := i, outstanding := l.rem i }) netting
    let creditTakes := allocateFifo within (creditIdx.map fun i => { id := i, outstanding := -l.rem i }) netting
    let paired := withPairs input l debitTakes creditTakes
    (recordAll input (recordAll input paired .netting debitTakes) .netting creditTakes, netting)

/-! 1. Netting. -/

def opening : Ledger where
  rem := orig input

/-- 1a. Day credits against day debts. -/
def dayNetted : Ledger × ℤ :=
  net input (opening input) (rowIdx input) (rowIdx input) none

/-- 1b. Positive account rows against the account credit pool. -/
def accountNetted : Ledger × ℤ :=
  net input (dayNetted input).1 (acctDebtIdx input) (acctCreditIdx input) none

/-- 1c. Day credits still open against positive account rows still open. -/
def netted : Ledger :=
  (net input (accountNetted input).1 (acctDebtIdx input) (rowIdx input) none).1

/-! 2. Budget. -/

inductive Direction where
  | pay | collect | none
  deriving DecidableEq, Repr

def owedAfterNetting : ℤ :=
  ((scopeIdx input).map (netted input).rem).sum

def directionFromRows : Direction :=
  if epsMinor input < (owedAfterNetting input : ℚ) then .pay
  else if (owedAfterNetting input : ℚ) < -epsMinor input then .collect
  else .none

def creditUsedMinor : ℤ :=
  |toMinor input input.creditUsed|

def creditPoolMinor : ℤ :=
  ((acctCreditIdx input).map fun i => max 0 (-(netted input).rem i)).sum

def creditCap : ℤ :=
  if directionFromRows input = .pay && !input.wholeCredit then min (owedAfterNetting input) (creditPoolMinor input)
  else creditPoolMinor input

def creditUsedTooHigh : Bool :=
  creditCap input < creditUsedMinor input

/-- Shop pays: the chosen account credit covers the oldest open debts. The amount is what was applied. -/
def credited : Ledger × ℤ :=
  if directionFromRows input = .pay && !creditUsedTooHigh input && 0 < creditUsedMinor input then
    net input (netted input) (scopeIdx input) (acctCreditIdx input)
      (some (min (creditUsedMinor input) (owedAfterNetting input)))
  else (netted input, 0)

/-- Credit left for the money received to take. -/
def creditForMoneyMinor : ℤ :=
  if directionFromRows input = .pay then
    if input.wholeCredit then creditUsedMinor input - (credited input).2 else 0
  else creditUsedMinor input

def paidMinor : ℤ :=
  toMinor input input.paid

def waiveSign : ℤ :=
  match directionFromRows input with
  | .pay => 1
  | .collect => -1
  | .none => if paidMinor input < 0 then -1 else 1

def commissionMinor : ℤ :=
  |toMinor input input.commission|

def waiveMinor : ℤ :=
  |toMinor input input.waive| * waiveSign input

def commissionCoverMinor : ℤ :=
  if input.commissionCovers then commissionMinor input else 0

def budget : ℤ :=
  paidMinor input + waiveMinor input + commissionCoverMinor input

def budgetSign : ℤ :=
  if 0 < budget input then 1 else -1

/-- Money only ever reaches the scope here. -/
def scopeTakes : List (FifoTake Nat ℤ) :=
  let l := (credited input).1
  let targets := if 0 < budgetSign input then openDebts input l (scopeIdx input) else openCredits input l (scopeIdx input)
  allocateFifo within (targets.map fun i => { id := i, outstanding := l.rem i * budgetSign input }) |budget input|

/-- Money received takes account credit after every day credit, up to `creditForMoneyMinor`. -/
def creditTakes : List (FifoTake Nat ℤ) :=
  if budgetSign input < 0 && !creditUsedTooHigh input && 0 < creditForMoneyMinor input then
    allocateFifo within
      ((acctCreditIdx input).map fun i => { id := i, outstanding := max 0 (-(credited input).1.rem i) })
      (min (|budget input| - totalTake (scopeTakes input)) (creditForMoneyMinor input))
  else []

structure Tagging where
  ledger : Ledger
  waiveLeft : ℤ
  commissionLeft : ℤ

/-- Waive first, then commission, then money. -/
def tagTake (t : Tagging) (take : FifoTake Nat ℤ) : Tagging :=
  let fromWaive := min take.take t.waiveLeft
  let left := take.take - fromWaive
  let fromCommission := min left t.commissionLeft
  let waived := record input t.ledger take.id .waive fromWaive
  let commissioned := record input waived take.id .commission fromCommission
  { ledger := record input commissioned take.id .payment (left - fromCommission)
    waiveLeft := t.waiveLeft - fromWaive
    commissionLeft := t.commissionLeft - fromCommission }

def budgetTakes : List (FifoTake Nat ℤ) :=
  scopeTakes input ++ creditTakes input

def tagging : Tagging where
  ledger := (credited input).1
  waiveLeft := max 0 (waiveMinor input * budgetSign input)
  -- only on the paying side is the commission a coverage source
  commissionLeft := if 0 < budgetSign input then commissionCoverMinor input else 0

/-- The rows after every pass. -/
def settled : Ledger :=
  if budget input = 0 then (credited input).1 else ((budgetTakes input).foldl (tagTake input) (tagging input)).ledger

def appliedMinor : ℤ :=
  if budget input = 0 then 0 else totalTake (budgetTakes input) * budgetSign input

def extraMinor : ℤ :=
  budget input - appliedMinor input

def accountCreditAppliedMinor : ℤ :=
  if budget input = 0 then (credited input).2 else (credited input).2 + totalTake (creditTakes input)

/-! 3. Classes. -/

structure RowRef where
  kind : RowKind
  id : Nat
  deriving DecidableEq, Repr

structure Partial where
  ref : RowRef
  applied : ℚ
  remaining : ℚ
  deriving DecidableEq, Repr

inductive RowClass where
  | closed | untouched | partly
  deriving DecidableEq, Repr

def rowClass (i : Nat) : RowClass :=
  if isZero input ((settled input).rem i) then .closed
  else if (settled input).taken i = 0 then .untouched
  else .partly

def rowRef (i : Nat) : RowRef :=
  ((all input)[i]?.map fun row => { kind := row.kind, id := row.id }).getD { kind := .ledger, id := 0 }

def refsOf (cls : RowClass) : List RowRef :=
  ((indices input).filter fun i => rowClass input i = cls).map (rowRef input)

/-- The first row of the list left part-covered. A second one is not reported. -/
def firstPartial (rows : List Nat) : Option Partial :=
  (rows.find? fun i => rowClass input i = .partly).map fun i =>
    { ref := rowRef input i
      applied := fromMinor input ((settled input).taken i)
      remaining := fromMinor input ((settled input).rem i) }

/-! 4. Commission. -/

def splitMinor : ℤ :=
  match input.commissionCovers, input.commissionSplit with
  | true, some split => |toMinor input split|
  | _, _ => commissionMinor input

def model1 (i : Nat) : Bool :=
  ((all input)[i]?.map (·.commissionModel1)).getD false

def ticked (i : Nat) : Bool :=
  ((all input)[i]?.map fun row => row.commissionTicked.getD true).getD false

def estimate (i : Nat) : ℤ :=
  ((all input)[i]?.map fun row => |toMinor input (row.commissionEstimate.getD 0)|).getD 0

/-- In-scope transfers of a ticked type. -/
def commissionRows : List Nat :=
  (rowIdx input).filter fun i => model1 input i && orig input i ≠ 0 && ticked input i

def estimatedRows : List Nat :=
  (commissionRows input).filter fun i => 0 < estimate input i

def spread (pool : List Nat) (weight : Nat → ℤ) (total : ℤ) (i : Nat) : ℚ :=
  if total ≤ 0 then 0
  else (((allocateProportional (pool.map fun j => { id := j, weight := some (weight j : ℚ) }) total 1).filter
    fun share => share.id = i).map (·.amount)).sum

/-- Closed rows that carry the commission when it covers nothing. -/
def eligibleRows : List Nat :=
  (indices input).filter fun i => isZero input ((settled input).rem i) && model1 input i && 0 < orig input i

/-- The share of each row in minor units, with the rows that may have one. -/
def commissionShares : List Nat × (Nat → ℚ) :=
  if input.commissionCovers && 0 < commissionMinor input && splitMinor input = 0 then ([], fun _ => 0)
  else if 0 < splitMinor input && input.commissionCovers then
    let sumEst := ((estimatedRows input).map (estimate input)).sum
    if (estimatedRows input).isEmpty then
      (commissionRows input, spread (commissionRows input) (fun i => |orig input i|) (splitMinor input))
    else if splitMinor input ≤ sumEst then
      (estimatedRows input, spread (estimatedRows input) (estimate input) (splitMinor input))
    else
      (estimatedRows input, fun i =>
        estimate input i + spread (estimatedRows input) (estimate input) (splitMinor input - sumEst) i)
  else if 0 < commissionMinor input then
    (eligibleRows input, spread (eligibleRows input) (orig input) (commissionMinor input))
  else ([], fun _ => 0)

/-- Covering commissions list their positive shares only. -/
def commissionAlloc : List (Nat × ℚ) :=
  let shares := commissionShares input
  let listed := if input.commissionCovers then shares.1.filter fun i => 0 < shares.2 i else shares.1
  listed.map fun i => ((rowRef input i).id, shares.2 i / minorFactor input.currency)

def commissionWithoutClosedModel1 : Bool :=
  if input.commissionCovers && 0 < commissionMinor input && splitMinor input = 0 then false
  else if 0 < splitMinor input && input.commissionCovers then (commissionRows input).isEmpty
  else 0 < commissionMinor input && (eligibleRows input).isEmpty

/-! 5. Deferred cash-out commission on closed credits. -/

def cashoutMinor : ℤ :=
  ((indices input).map fun i =>
    if isZero input ((settled input).rem i) && orig input i < 0 then
      ((all input)[i]?.map fun row => toMinor input row.cashoutCommission).getD 0
    else 0).sum

structure ReportedTake where
  ref : RowRef
  memberSupplierId : Nat
  source : CoverageSource
  amount : ℚ
  deriving DecidableEq, Repr

structure AllocResult where
  takes : List ReportedTake
  closed : List RowRef
  partialRow : Option Partial
  untouched : List RowRef
  nettingPairs : List (Nat × Nat × ℚ)
  extra : ℚ
  remainingAfter : ℚ
  commissionAlloc : List (Nat × ℚ)
  commissionWithoutClosedModel1 : Bool
  cashoutCommissionRecognised : ℚ
  directionFromRows : Direction
  creditUsedTooHigh : Bool
  accountCreditApplied : ℚ
  accountPartial : Option Partial
  deriving DecidableEq, Repr

def reportedTake (t : Take) : ReportedTake where
  ref := rowRef input t.i
  memberSupplierId := member input t.i
  source := t.source
  amount := fromMinor input t.m

def allocateAccountSettlement : AllocResult where
  takes := (settled input).takes.map (reportedTake input)
  closed := refsOf input .closed
  partialRow := firstPartial input (rowIdx input)
  untouched := refsOf input .untouched
  nettingPairs := (settled input).netPairs.map fun p => (p.creditMember, p.debitMember, fromMinor input p.m)
  extra := fromMinor input (extraMinor input)
  remainingAfter := fromMinor input ((scopeIdx input).map (settled input).rem).sum
  commissionAlloc := commissionAlloc input
  commissionWithoutClosedModel1 := commissionWithoutClosedModel1 input
  cashoutCommissionRecognised := fromMinor input (cashoutMinor input)
  directionFromRows := directionFromRows input
  creditUsedTooHigh := creditUsedTooHigh input
  accountCreditApplied := fromMinor input (accountCreditAppliedMinor input)
  accountPartial := firstPartial input (acctIdx input)

end

end Liratek.Money.AccountSettle
