import Liratek.Money.AccountSettle

/-! Settling the OMT account from the amount on OMT's SMS. Every amount is in OMT's sign: + the shop owes OMT. -/

namespace Liratek.Money.OmtSmsSettlement
open AccountSettle LargestRemainder

inductive OmtServiceType where
  | intra | westernUnion | cashToBusiness | cashToGov | omtWallet | omtCard | ogeroMecanique | onlineBrokerage
  deriving DecidableEq, Repr

inductive OmtCoveredType where
  | service (type : OmtServiceType)
  | unspecified
  deriving DecidableEq, Repr

structure AccountUnsettledRow where
  kind : RowKind
  id : Nat
  supplierId : Nat
  createdAt : String
  remainingUsd : ℚ
  remainingLbp : ℚ
  commissionModel : Option ℤ := none
  sourceProvider : Option String := none
  omtServiceType : Option OmtCoveredType := none
  expectedCommissionUsd : Option ℚ := none
  expectedCommissionLbp : Option ℚ := none
  commissionAccountedUsd : Option ℚ := none
  commissionAccountedLbp : Option ℚ := none
  /-- the deferred cash-out commission -/
  commissionUsd : ℚ := 0
  commissionLbp : ℚ := 0
  deriving DecidableEq, Repr

structure OwedShareView where
  omtServiceType : OmtCoveredType
  currency : Currency
  amount : ℚ
  deriving DecidableEq, Repr

/-! The figure. -/

def toMinor (v : ℚ) (c : Currency) : ℤ :=
  mathRound (v * minorFactor c)

def fromMinor (m : ℤ) (c : Currency) : ℚ :=
  m / minorFactor c

def pick {α : Type*} (usd lbp : α) (c : Currency) : α :=
  match c with
  | .usd => usd
  | .lbp => lbp

def omtRowCoveredType (row : AccountUnsettledRow) : OmtCoveredType :=
  row.omtServiceType.getD .unspecified

/-- No choice covers every type, and only OMT's rows have types. -/
def isOmtRowCovered (row : AccountUnsettledRow) (covered : Option (List OmtCoveredType)) : Bool :=
  match covered with
  | none => true
  | some types => if row.sourceProvider ≠ some "OMT" then true else types.contains (omtRowCoveredType row)

def outstandingMinor (row : AccountUnsettledRow) (c : Currency) : ℤ :=
  if row.kind ≠ .financialService ∨ row.commissionModel ≠ some 1 then 0
  else
    let estimate := toMinor ((pick row.expectedCommissionUsd row.expectedCommissionLbp c).getD 0) c
    let accounted := toMinor ((pick row.commissionAccountedUsd row.commissionAccountedLbp c).getD 0) c
    max 0 (estimate - accounted)

/-- What is still to come of a transfer's commission. -/
def outstandingEstimate (row : AccountUnsettledRow) (c : Currency) : ℚ :=
  fromMinor (outstandingMinor row c) c

def remaining (row : AccountUnsettledRow) (c : Currency) : ℚ :=
  pick row.remainingUsd row.remainingLbp c

structure ExpectedSmsFigure where
  owed : ℚ
  expectedCommission : ℚ
  owedSharesIncluded : ℚ
  expected : ℚ
  deriving DecidableEq, Repr

def isShareCovered (c : Currency) (covered : Option (List OmtCoveredType)) (share : OwedShareView) : Bool :=
  share.currency = c && covered.all fun types => types.contains share.omtServiceType

def owedMinor (rows : List AccountUnsettledRow) (c : Currency) : ℤ :=
  (rows.map fun row => toMinor (remaining row c) c).sum

def commissionMinorOf (rows : List AccountUnsettledRow) (c : Currency) (covered : Option (List OmtCoveredType)) : ℤ :=
  (rows.map fun row => if isOmtRowCovered row covered then outstandingMinor row c else 0).sum

def sharesMinor (shares : List OwedShareView) (c : Currency) (covered : Option (List OmtCoveredType)) : ℤ :=
  ((shares.filter (isShareCovered c covered)).map fun share => toMinor share.amount c).sum

def expectedSmsFigure (rows : List AccountUnsettledRow) (c : Currency) (covered : Option (List OmtCoveredType))
    (owedShares : List OwedShareView) : ExpectedSmsFigure :=
  let owed := owedMinor rows c
  let commission := commissionMinorOf rows c covered
  let shares := sharesMinor owedShares c covered
  { owed := fromMinor owed c
    expectedCommission := fromMinor commission c
    owedSharesIncluded := fromMinor shares c
    expected := fromMinor (owed - commission - shares) c }

structure SmsDerivation where
  commission : ℚ
  expectedPart : ℚ
  extraPart : ℚ
  lessThanExpected : Bool
  shortOfExpected : ℚ
  omtAsksMore : Bool
  difference : ℚ
  deriving DecidableEq, Repr

def deriveSmsCommission (figure : ExpectedSmsFigure) (sms : ℚ) (c : Currency) : SmsDerivation :=
  let raw := toMinor figure.owed c - toMinor sms c
  let expectedTotal := toMinor figure.expectedCommission c + toMinor figure.owedSharesIncluded c
  let commission := max 0 raw
  let expectedPart := min commission expectedTotal
  { commission := fromMinor commission c
    expectedPart := fromMinor expectedPart c
    extraPart := fromMinor (commission - expectedPart) c
    lessThanExpected := commission < expectedTotal
    shortOfExpected := fromMinor (expectedTotal - expectedPart) c
    omtAsksMore := raw < 0
    difference := fromMinor (max 0 (-raw)) c }

structure SmsCommissionWeight where
  commissionTicked : Bool
  commissionEstimate : ℚ
  deriving DecidableEq, Repr

def smsCommissionWeight (row : AccountUnsettledRow) (c : Currency) (covered : Option (List OmtCoveredType)) : SmsCommissionWeight :=
  let ticked := isOmtRowCovered row covered
  { commissionTicked := ticked
    commissionEstimate := if ticked then outstandingEstimate row c else 0 }

def tickedOwedShares (shares : List OwedShareView) (c : Currency) (covered : Option (List OmtCoveredType)) : List OwedShareView :=
  shares.filter (isShareCovered c covered)

structure OwedSharesCollected where
  collected : List OwedShareView
  split : ℚ
  deriving DecidableEq, Repr

/-- Whole shares while they fit, and the minor units left. -/
def collect (c : Currency) : List OwedShareView → ℤ → List OwedShareView × ℤ
  | [], left => ([], left)
  | share :: rest, left =>
    let m := toMinor share.amount c
    if left < m then ([], left)
    else
      let (collected, remaining) := collect c rest (left - m)
      (share :: collected, remaining)

def owedSharesCollected (ticked : List OwedShareView) (commission : ℚ) (c : Currency) : OwedSharesCollected :=
  let (collected, left) := collect c ticked (toMinor commission c)
  { collected, split := fromMinor (max 0 left) c }

/-! The settlement. -/

def toAllocRow (c : Currency) (covered : Option (List OmtCoveredType)) (row : AccountUnsettledRow) : AllocRow where
  kind := row.kind
  id := row.id
  memberSupplierId := row.supplierId
  createdAt := row.createdAt
  remaining := remaining row c
  commissionModel1 := row.kind = .financialService && row.commissionModel = some 1
  cashoutCommission := pick row.commissionUsd row.commissionLbp c
  commissionEstimate := some (smsCommissionWeight row c covered).commissionEstimate
  commissionTicked := some (smsCommissionWeight row c covered).commissionTicked

def amountFirstEps (c : Currency) : ℚ :=
  match c with
  | .usd => 5 / 1000
  | .lbp => 1 / 2

/-- What the settlement of the account from an SMS looks at, in one currency. -/
structure SmsScope where
  currency : Currency
  /-- the day rows -/
  rows : List AccountUnsettledRow
  accountRows : List AccountUnsettledRow
  coveredTypes : Option (List OmtCoveredType)
  owedShares : List OwedShareView
  /-- a financial service is always a day row -/
  onDays : ∀ row ∈ accountRows, row.kind = .ledger
  /-- a row that carries commission is open in the currency -/
  isOpen : ∀ row ∈ rows, 0 < outstandingMinor row currency → amountFirstEps currency < |remaining row currency|
  nonneg : ∀ share ∈ owedShares, 0 ≤ share.amount

section
variable (scope : SmsScope)

/-- A run without money, which only nets. -/
def probe : AllocInput where
  currency := scope.currency
  rows := scope.rows.map (toAllocRow scope.currency scope.coveredTypes)
  accountCredits := scope.accountRows.map (toAllocRow scope.currency scope.coveredTypes)
  paid := 0
  commission := 0
  waive := 0
  eps := amountFirstEps scope.currency

/-- The account credit that is open after the netting. -/
def creditLeft : ℚ :=
  AccountSettle.fromMinor (probe scope) (creditPoolMinor (probe scope))

def smsFigure : ExpectedSmsFigure :=
  expectedSmsFigure (scope.rows ++ scope.accountRows) scope.currency scope.coveredTypes scope.owedShares

def ticked : List OwedShareView :=
  tickedOwedShares scope.owedShares scope.currency scope.coveredTypes

/-- The commission that an SMS of the expected figure implies. -/
def smsCommission : ℚ :=
  (deriveSmsCommission (smsFigure scope) (smsFigure scope).expected scope.currency).commission

def smsShares : OwedSharesCollected :=
  owedSharesCollected (ticked scope) (smsCommission scope) scope.currency

def smsInput : AllocInput :=
  { probe scope with
    paid := (smsFigure scope).expected
    commission := smsCommission scope
    commissionCovers := true
    commissionSplit := some (smsShares scope).split
    wholeCredit := true
    creditUsed := creditLeft scope }

end

end Liratek.Money.OmtSmsSettlement
