import Liratek.Lib.Rounding
import Liratek.Settle.SettleDays

/-! A settle box paid in the other currency, converted at the box's rate. -/

namespace Liratek.Settle.SettleLegConversion
open SettleDays (Currency minorFactor)
open Lib.Rounding (roundTo)

/-- To the cent, or to the whole lira. -/
def roundSettleAmount (amount : ℚ) (c : Currency) : ℚ :=
  roundTo (minorFactor c) amount

inductive LegDirection where
  | moneyIn | moneyOut
  deriving DecidableEq, Repr

structure SettleLeg where
  currencyCode : Currency
  amount : ℚ
  direction : Option LegDirection := none
  deriving DecidableEq, Repr

/-- One line's amount in the box's currency, not rounded. -/
def settleLegAmountIn (leg : SettleLeg) (c : Currency) (rate : ℚ) : ℚ :=
  if leg.currencyCode = c then |leg.amount|
  else if rate ≤ 0 then 0
  else
    match c with
    | .usd => |leg.amount| / rate
    | .lbp => |leg.amount| * rate

/-- Each line converted and rounded on its own. -/
def settleLegsInBoxCurrency (legs : List SettleLeg) (c : Currency) (rate : ℚ) : List SettleLeg :=
  legs.map fun leg => { leg with currencyCode := c, amount := roundSettleAmount (settleLegAmountIn leg c rate) c }

/-- What a box's lines pay in its currency, change handed back taken off. -/
def settleLegsNetIn (legs : List SettleLeg) (c : Currency) (rate : ℚ) : ℚ :=
  roundSettleAmount ((settleLegsInBoxCurrency legs c rate).map fun leg =>
    (if leg.direction = some .moneyOut then -1 else 1) * leg.amount).sum c

section
variable {α : Type*}

/-- A line with whatever else it carries. -/
structure Line (α : Type*) where
  currencyCode : Currency
  amount : ℚ
  data : α
  deriving DecidableEq, Repr

def other : Currency → Currency
  | .usd => .lbp
  | .lbp => .usd

def own (paid : List (Line α)) (c : Currency) : List (Line α) :=
  paid.filter fun l => l.currencyCode = c

def lineSum (lines : List (Line α)) : ℚ :=
  (lines.map (·.amount)).sum

structure Cutting (α : Type*) where
  move : ℚ
  keep : List (Line α) := []
  moved : List (Line α) := []

/-- One turn of the loop from the last line backwards. -/
def cutLine (c : Currency) (s : Cutting α) (line : Line α) : Cutting α :=
  let take := roundSettleAmount (min line.amount s.move) c
  let rest := roundSettleAmount (line.amount - take) c
  { move := roundSettleAmount (s.move - take) c
    keep := if 0 < rest then { line with amount := rest } :: s.keep else s.keep
    moved := if 0 < take then { line with amount := take } :: s.moved else s.moved }

/-- What of `c` goes to the other currency: the surplus, up to the other currency's shortfall. -/
def moveAmount (paid : List (Line α)) (owed : Currency → ℚ) (rate : ℚ) (c : Currency) : ℚ :=
  let surplus := lineSum (own paid c) - owed c
  let shortOther := owed (other c) - lineSum (own paid (other c))
  let shortInC :=
    if 0 < shortOther && 0 < rate then
      match c with
      | .usd => shortOther / rate
      | .lbp => shortOther * rate
    else 0
  roundSettleAmount (max 0 (min surplus shortInC)) c

def cutting (paid : List (Line α)) (owed : Currency → ℚ) (rate : ℚ) (c : Currency) : Cutting α :=
  (own paid c).reverse.foldl (cutLine c) { move := moveAmount paid owed rate c }

/-- Which part of each line pays which currency. `owed` of a currency that is not settled: `none`. -/
def splitBoxLinesAcrossCurrencies (lines : List (Line α)) (owed : Currency → Option ℚ) (rate : ℚ) : Currency → List (Line α) :=
  let paid := lines.filter fun l => 0 < l.amount
  match [Currency.usd, Currency.lbp].filter fun c => (owed c).isSome with
  | [] => fun _ => []
  | [c] => fun d => if d = c then paid else []
  | _ =>
    let amounts c := (owed c).getD 0
    let usd := cutting paid amounts rate .usd
    let lbp := cutting paid amounts rate .lbp
    fun
    | .usd => usd.keep ++ lbp.moved
    | .lbp => usd.moved ++ lbp.keep

/-- The lines of a section as they are sent. -/
def toLegs (lines : List (Line α)) : List SettleLeg :=
  (lines.filter fun l => 0 < l.amount).map fun l => { currencyCode := l.currencyCode, amount := l.amount }

end

end Liratek.Settle.SettleLegConversion
