import Liratek.Money.LargestRemainder
import Mathlib.Data.String.Basic

/-! A customer's debt repayment: which open items it pays, and how much of its cash goes to the primary cash drawer.
Amounts are exact. -/

namespace Liratek.Money.DebtRepayment
open LargestRemainder

inductive DebtItemKind where
  | sale | charge | member | balance
  deriving DecidableEq, Repr

inductive Currency where
  | usd | lbp
  deriving DecidableEq, Repr

structure Amounts where
  usd : ℚ
  lbp : ℚ
  deriving DecidableEq, Repr

namespace Amounts

def get (a : Amounts) : Currency → ℚ
  | .usd => a.usd
  | .lbp => a.lbp

def of (amount : Currency → ℚ) : Amounts where
  usd := amount .usd
  lbp := amount .lbp

def zero : Amounts :=
  of fun _ => 0

/-- One currency lowered by `m`. -/
def lower (a : Amounts) (c : Currency) (m : ℚ) : Amounts :=
  of fun c' => if c' = c then a.get c' - m else a.get c'

@[simp] theorem get_of (amount : Currency → ℚ) (c : Currency) : (of amount).get c = amount c := by
  cases c <;> rfl

@[simp] theorem get_zero (c : Currency) : zero.get c = 0 :=
  get_of _ c

end Amounts

/-- How the walks name an item: ``kind:id``. -/
structure Key where
  kind : DebtItemKind
  id : Nat
  deriving DecidableEq, Repr

structure DebtItemRef extends Key where
  /-- ticked by the amount, not by the cashier -/
  auto : Bool := false
  deriving DecidableEq, Repr

structure AllocationItem extends Key where
  /-- compared as a string -/
  createdAt : String
  rowId : Nat
  owed : Amounts
  routingCap : Option Amounts := none
  deriving DecidableEq, Repr

structure AllocateRepaymentInput where
  items : List AllocationItem
  targets : List DebtItemRef := []
  reduction : Amounts
  applied : Amounts
  cash : Amounts
  rate : ℚ
  deriving DecidableEq, Repr

structure CoverageTake extends Key where
  amounts : Amounts
  deriving DecidableEq, Repr

structure RoutingTake extends Key where
  debtCurrency : Currency
  value : ℚ
  tenderCurrency : Currency
  tenderAmount : ℚ
  deriving DecidableEq, Repr

def eps : Currency → ℚ
  | .usd => 5 / 1000
  | .lbp => 1

/-- Sales keep their own tolerance in dollars. -/
def epsSale : Currency → ℚ
  | .usd => 1 / 100
  | .lbp => 1

def factor : Currency → ℚ
  | .usd => 100
  | .lbp => 1

def roundIn (c : Currency) (x : ℚ) : ℚ :=
  mathRound (x * factor c) / factor c

def sameRef (a b : Key) : Bool :=
  a = b

/-- `byAge(a, b) <= 0` -/
def byAge (a b : AllocationItem) : Bool :=
  if a.createdAt ≠ b.createdAt then a.createdAt < b.createdAt
  else if a.rowId ≠ b.rowId then a.rowId < b.rowId
  else a.id ≤ b.id

def isCashDrawerItem (it : AllocationItem) : Bool :=
  it.routingCap.isSome

/-- `byTickedPriority(a, b) <= 0`: cash drawer first, then oldest first. -/
def byTickedPriority (a b : AllocationItem) : Bool :=
  if isCashDrawerItem a ≠ isCashDrawerItem b then isCashDrawerItem a else byAge a b

/-- A stable sort by a comparator. -/
def sortBy (le : AllocationItem → AllocationItem → Bool) (items : List AllocationItem) : List AllocationItem :=
  items.insertionSort fun a b => le a b = true

/-! Coverage. -/

/-- What the coverage walks share. -/
structure Walk where
  /-- still open, by item -/
  left : Key → Amounts
  takes : List CoverageTake := []
  budget : Amounts
  tickedTakes : List CoverageTake := []

def positive (a : Amounts) : Bool :=
  0 < a.usd || 0 < a.lbp

/-- A key keeps the place of its first take. -/
def putTake (takes : List CoverageTake) (key : Key) (amounts : Amounts) : List CoverageTake :=
  if takes.any fun t => t.toKey = key then
    takes.map fun t =>
      if t.toKey = key then { t with amounts := .of fun c => roundIn c (t.amounts.get c + amounts.get c) } else t
  else takes ++ [{ toKey := key, amounts := .of fun c => roundIn c (0 + amounts.get c) }]

def addTake (w : Walk) (key : Key) (amounts : Amounts) : Walk :=
  if !positive amounts then w
  else
    { w with
      takes := putTake w.takes key amounts
      left := Function.update w.left key (.of fun c => max 0 ((w.left key).get c - amounts.get c)) }

/-- What a ticked item takes of one currency. -/
def tickedShare (c : Currency) (budget owed : ℚ) : ℚ :=
  let offered := if eps c < budget then min budget owed else 0
  if eps c < offered then roundIn c offered else 0

/-- What an item takes in today's order, with its own tolerance. -/
def restShare (tolerance : Currency → ℚ) (c : Currency) (budget owed : ℚ) : ℚ :=
  let offered := if tolerance c < budget then roundIn c (min budget owed) else 0
  if tolerance c < offered then offered else 0

/-- One item of a walk takes its share of both budgets. -/
def cover (share : Currency → ℚ → ℚ → ℚ) (w : Walk) (key : Key) : Walk :=
  let taken := Amounts.of fun c => share c (w.budget.get c) ((w.left key).get c)
  if positive taken then
    { addTake w key taken with budget := .of fun c => w.budget.get c - taken.get c }
  else w

/-- A ticked item also notes its take, for the routing. -/
def coverTicked (w : Walk) (it : AllocationItem) : Walk :=
  let taken := Amounts.of fun c => tickedShare c (w.budget.get c) ((w.left it.toKey).get c)
  if positive taken then
    { cover tickedShare w it.toKey with
      tickedTakes := w.tickedTakes ++ [{ toKey := it.toKey, amounts := taken }] }
  else w

def coverSales : Walk → List AllocationItem → Walk
  | w, [] => w
  | w, it :: rest =>
    if w.budget.usd ≤ epsSale .usd && w.budget.lbp ≤ eps .lbp then w
    else coverSales (cover (restShare epsSale) w it.toKey) rest

def coverOthers (w : Walk) (rest : List AllocationItem) : Walk :=
  rest.foldl (fun acc it => cover (restShare eps) acc it.toKey) w

section
variable (input : AllocateRepaymentInput)

def opening : Walk where
  left := input.items.foldl
    (fun left it => Function.update left it.toKey (.of fun c => max 0 (it.owed.get c))) fun _ => .zero
  budget := .of fun c => max 0 (input.reduction.get c)

/-- The cashier's ticks, cash drawer first, then oldest. -/
def cashierTicked : List AllocationItem :=
  sortBy byTickedPriority
    (input.items.filter fun it => input.targets.any fun t => !t.auto && sameRef t.toKey it.toKey)

/-- The amount's own ticks. A reference sent both ways is the cashier's. -/
def autoTicked : List AllocationItem :=
  sortBy byTickedPriority
    (input.items.filter fun it =>
      it ∉ cashierTicked input && input.targets.any fun t => t.auto && sameRef t.toKey it.toKey)

/-- Step 1: the ticked items. -/
def tickedCovered : Walk :=
  (cashierTicked input ++ autoTicked input).foldl coverTicked (opening input)

/-- The earlier balance is paid only when ticked. -/
def rest : List AllocationItem :=
  sortBy byAge (input.items.filter fun it => it.kind ≠ .balance)

/-- Step 2: sales first, then charges and basket members, oldest first. -/
def covered : Walk :=
  coverOthers (coverSales (tickedCovered input) ((rest input).filter fun it => it.kind = .sale))
    ((rest input).filter fun it => it.kind ≠ .sale)

end

/-! Routing. -/

structure Routing where
  cash : Amounts
  /-- `none`: not a transfer of the primary system -/
  caps : Key → Option Amounts
  takes : List RoutingTake := []
  routed : Amounts := .zero

def other : Currency → Currency
  | .usd => .lbp
  | .lbp => .usd

section
variable (rate : ℚ)

/-- `amount` of currency `a` in currency `b`, at the stamped rate. -/
def convert (a b : Currency) (amount : ℚ) : ℚ :=
  match a, b with
  | .usd, .lbp => amount * rate
  | .lbp, .usd => amount / rate
  | _, _ => amount

/-- One turn of `route` with cash of one tender currency, and the value routed in `debt` currency. -/
def routeTender (key : Key) (debt tender : Currency) (r : Routing) (want : ℚ) : Routing × ℚ :=
  if want ≤ eps debt || r.cash.get tender ≤ eps tender then (r, 0)
  else
    let tenderAmount := roundIn tender (min (r.cash.get tender) (convert rate debt tender want))
    if tenderAmount ≤ 0 then (r, 0)
    else
      let value := roundIn debt (min (convert rate tender debt tenderAmount) want)
      ({ cash := r.cash.lower tender tenderAmount
         caps := Function.update r.caps key ((r.caps key).map fun cap => cap.lower debt value)
         takes := r.takes ++
           [{ toKey := key, debtCurrency := debt, value := value, tenderCurrency := tender, tenderAmount := tenderAmount }]
         routed := .of fun c => if c = tender then roundIn c (r.routed.get c + tenderAmount) else r.routed.get c },
        value)

/-- Up to `wantValue` of a transfer's cap, in its own currency first, and the value routed. -/
def route (r : Routing) (key : Key) (debt : Currency) (wantValue : ℚ) : Routing × ℚ :=
  match r.caps key with
  | none => (r, 0)
  | some cap =>
    let want := min wantValue (cap.get debt)
    if want ≤ eps debt then (r, 0)
    else
      let same := routeTender rate key debt debt r want
      let across := routeTender rate key debt (other debt) same.1 (want - same.2)
      (across.1, same.2 + across.2)

/-- Step 1: the share of a ticked item. Nothing is routed for an item that is no transfer. -/
def routeTicked (r : Routing) (t : CoverageTake) : Routing :=
  let inUsd := if 0 < t.amounts.usd then (route rate r t.toKey .usd t.amounts.usd).1 else r
  if 0 < t.amounts.lbp then (route rate inUsd t.toKey .lbp t.amounts.lbp).1 else inUsd

/-- Step 2: one transfer takes its part of the remainder, a value in dollars. -/
def routeTransfer (r : Routing) (it : AllocationItem) (remainderValue : ℚ) : Routing × ℚ :=
  let capOf (r : Routing) (c : Currency) : ℚ := ((r.caps it.toKey).map (·.get c)).getD 0
  let inUsd : Routing × ℚ :=
    if eps .usd < capOf r .usd then
      let got := route rate r it.toKey .usd (min remainderValue (capOf r .usd))
      (got.1, remainderValue - got.2)
    else (r, remainderValue)
  if eps .usd < inUsd.2 && eps .lbp < capOf inUsd.1 .lbp then
    let got := route rate inUsd.1 it.toKey .lbp (min (inUsd.2 * rate) (capOf inUsd.1 .lbp))
    (got.1, inUsd.2 - got.2 / rate)
  else inUsd

def routeTransfers : Routing → List AllocationItem → ℚ → Routing
  | r, [], _ => r
  | r, it :: rest, remainderValue =>
    if remainderValue ≤ eps .usd then r
    else routeTransfers (routeTransfer rate r it remainderValue).1 rest (routeTransfer rate r it remainderValue).2

end

section
variable (input : AllocateRepaymentInput)

def stampedRate : ℚ :=
  if 0 < input.rate then input.rate else 1

def putCap (caps : Key → Option Amounts) (it : AllocationItem) : Key → Option Amounts :=
  match it.routingCap with
  | none => caps
  | some cap => Function.update caps it.toKey (some (.of fun c => max 0 (cap.get c)))

def unrouted : Routing where
  cash := .of fun c => max 0 (min (input.cash.get c) (input.applied.get c))
  caps := input.items.foldl putCap fun _ => none

def valueOf (a : Amounts) : ℚ :=
  a.usd + a.lbp / stampedRate input

def tickedValue : ℚ :=
  ((tickedCovered input).tickedTakes.map fun t => valueOf input t.amounts).sum

def transfers : List AllocationItem :=
  sortBy byAge (input.items.filter fun it => ((unrouted input).caps it.toKey).isSome)

def tickedRouted : Routing :=
  (tickedCovered input).tickedTakes.foldl (routeTicked (stampedRate input)) (unrouted input)

def routed : Routing :=
  routeTransfers (stampedRate input) (tickedRouted input) (transfers input)
    (max 0 (valueOf input (.of fun c => max 0 (input.applied.get c)) - tickedValue input))

structure AllocateRepaymentResult where
  coverage : List CoverageTake
  routing : List RoutingTake
  routed : Amounts
  deriving DecidableEq, Repr

def allocateRepayment : AllocateRepaymentResult where
  coverage := (covered input).takes
  routing := (routed input).takes
  routed := (routed input).routed

end

/-! The plan shown to the cashier. -/

structure PlanRepaymentTargetsInput where
  items : List AllocationItem
  /-- what the cashier ticked; an `auto` mark on these is ignored -/
  ticked : List DebtItemRef
  reduction : Amounts
  rate : ℚ
  deriving DecidableEq, Repr

section
variable (input : PlanRepaymentTargetsInput)

/-- The cashier's ticks that name an item, in the cashier's own order. -/
def tickedRefs : List DebtItemRef :=
  ((input.items.filter fun it => input.ticked.any fun t => sameRef t.toKey it.toKey).map
    fun it => { toKey := it.toKey }).insertionSort fun a b =>
      input.ticked.findIdx (fun t => sameRef t.toKey a.toKey) ≤ input.ticked.findIdx fun t => sameRef t.toKey b.toKey

def others : List AllocationItem :=
  input.items.filter fun it => !(tickedRefs input).any fun t => sameRef t.toKey it.toKey

def autoRef (it : AllocationItem) : DebtItemRef where
  toKey := it.toKey
  auto := true

/-- Every item not ticked is offered as the amount's own tick. -/
def planInput : AllocateRepaymentInput where
  items := input.items
  targets := tickedRefs input ++ (others input).map autoRef
  reduction := input.reduction
  applied := .zero
  cash := .zero
  rate := input.rate

def planCoverage : List CoverageTake :=
  (allocateRepayment (planInput input)).coverage

def reached : List DebtItemRef :=
  (sortBy byTickedPriority
    ((others input).filter fun it =>
      (planCoverage input).any fun c => sameRef c.toKey it.toKey && positive c.amounts)).map autoRef

structure PlanRepaymentTargetsResult where
  targets : List DebtItemRef
  coverage : List CoverageTake
  deriving DecidableEq, Repr

def planRepaymentTargets : PlanRepaymentTargetsResult where
  targets := tickedRefs input ++ reached input
  coverage := planCoverage input

end

end Liratek.Money.DebtRepayment
