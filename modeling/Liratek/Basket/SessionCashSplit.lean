import Liratek.Settle.SettleDays

/-! "OMT first": a basket's cash pays the transfers of the primary system before anything goes to General. -/

namespace Liratek.Basket.SessionCashSplit
open Settle.SettleDays (Currency minorFactor)

structure BasketCashLegInput where
  currencyCode : Currency
  /-- positive amount handed over -/
  amount : ℚ
  /-- a cash-family leg, the only kind that can go to the primary cash drawer -/
  eligible : Bool
  deriving DecidableEq, Repr

structure BasketCashLegSplit where
  pcdAmount : ℚ
  generalAmount : ℚ
  deriving DecidableEq, Repr

def toMinor (c : Currency) (n : ℚ) : ℤ :=
  round (n * minorFactor c)

def fromMinor (c : Currency) (n : ℤ) : ℚ :=
  n / minorFactor c

def otherCurrency : Currency → Currency
  | .usd => .lbp
  | .lbp => .usd

/-- The other currency's need in a leg's minor units, not rounded. -/
def convertNeed (rate : ℚ) (legCurrency : Currency) (need : ℤ) : ℚ :=
  match legCurrency with
  | .usd => fromMinor .lbp need / rate * 100
  | .lbp => fromMinor .usd need * rate

/-- What a leg's minor units cover of the other currency's need, not rounded. -/
def convertTake (rate : ℚ) (legCurrency : Currency) (take : ℤ) : ℚ :=
  match legCurrency with
  | .usd => fromMinor .usd take * rate
  | .lbp => fromMinor .lbp take / rate * 100

/-- Pass 1 at one leg: the same currency. -/
def sameCurrency (need : Currency → ℤ) (leg : BasketCashLegInput) (pcd : ℤ) : ℤ × (Currency → ℤ) :=
  if !leg.eligible || leg.amount ≤ 0 then (pcd, need)
  else
    let units := toMinor leg.currencyCode leg.amount
    let want := need leg.currencyCode
    let take := min units want
    if 0 < take then (pcd + take, Function.update need leg.currencyCode (want - take)) else (pcd, need)

/-- Pass 2 at one leg: the other currency, at the basket's rate. -/
def crossCurrency (rate : ℚ) (need : Currency → ℤ) (leg : BasketCashLegInput) (pcd : ℤ) : ℤ × (Currency → ℤ) :=
  if !leg.eligible || leg.amount ≤ 0 then (pcd, need)
  else
    let units := toMinor leg.currencyCode leg.amount - pcd
    if units ≤ 0 then (pcd, need)
    else
      let other := otherCurrency leg.currencyCode
      let wantOther := need other
      if wantOther ≤ 0 then (pcd, need)
      else
        let wantHere := round (convertNeed rate leg.currencyCode wantOther)
        let take := min units wantHere
        if take ≤ 0 then (pcd, need)
        else
          let covered := round (convertTake rate leg.currencyCode take)
          (pcd + take, Function.update need other (max 0 (wantOther - covered)))

/-- One pass over the legs. -/
def passOver (step : (Currency → ℤ) → BasketCashLegInput → ℤ → ℤ × (Currency → ℤ)) :
    (Currency → ℤ) → List (BasketCashLegInput × ℤ) → List (BasketCashLegInput × ℤ) × (Currency → ℤ)
  | need, [] => ([], need)
  | need, (leg, pcd) :: rest =>
    let here := step need leg pcd
    let others := passOver step here.2 rest
    ((leg, here.1) :: others.1, others.2)

def finish (leg : BasketCashLegInput) (pcd : ℤ) : BasketCashLegSplit :=
  if !leg.eligible || leg.amount ≤ 0 then { pcdAmount := 0, generalAmount := max 0 leg.amount }
  -- nothing to the transfer drawer: the leg stays exactly as handed over
  else if pcd = 0 then { pcdAmount := 0, generalAmount := leg.amount }
  else
    let pcdAmount := fromMinor leg.currencyCode pcd
    { pcdAmount := pcdAmount, generalAmount := round ((leg.amount - pcdAmount) * 10 ^ 9) / 10 ^ 9 }

structure SplitInput where
  primaryChargeUsd : ℚ
  primaryChargeLbp : ℚ
  legs : List BasketCashLegInput
  rate : ℚ

def primaryCharge (input : SplitInput) : Currency → ℚ
  | .usd => input.primaryChargeUsd
  | .lbp => input.primaryChargeLbp

def splitBasketCashOmtFirst (input : SplitInput) : List BasketCashLegSplit :=
  let rate := if 0 < input.rate then input.rate else 1
  let need c := toMinor c (max 0 (primaryCharge input c))
  let first := passOver sameCurrency need (input.legs.map fun leg => (leg, 0))
  let second := passOver (crossCurrency rate) first.2 first.1
  second.1.map fun (leg, pcd) => finish leg pcd

end Liratek.Basket.SessionCashSplit
