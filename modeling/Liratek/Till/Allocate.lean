import Liratek.Lib.Calls
import Liratek.Lib.Entries
import Liratek.Money.LargestRemainder

/-! Matching payments against totals in several currencies. Codes are ordered as `localeCompare` orders them. -/

namespace Liratek.Till.Allocate
open Lib (Entries)
open Money.LargestRemainder (mathRound)

section
variable {κ : Type} [LinearOrder κ]

/-! Rates. -/

structure Money (κ : Type) where
  amount : ℚ
  currency : κ
  deriving DecidableEq, Repr

inductive RateSide where
  | buy | sell
  deriving DecidableEq, Repr

structure RatePair where
  buy : ℚ
  sell : ℚ
  deriving DecidableEq, Repr

def RatePair.side (pair : RatePair) : RateSide → ℚ
  | .buy => pair.buy
  | .sell => pair.sell

/-- Units of a currency per one unit of the base, which itself needs no entry. -/
structure RateTable (κ : Type) where
  base : κ
  rates : κ → Option RatePair

inductive MoneyError (κ : Type) where
  | badAmount (label : String) (amount : ℚ) (currency : κ)
  | noUsableRate (side : RateSide) (code base : κ)
  deriving DecidableEq, Repr

structure CurrencyInfo where
  decimals : Nat
  /-- amounts below this count as zero -/
  epsilon : ℚ
  deriving DecidableEq, Repr

abbrev CurrencyRegistry (κ : Type) :=
  κ → Option CurrencyInfo

def currencyInfo (code : κ) (registry : CurrencyRegistry κ) : CurrencyInfo :=
  (registry code).getD { decimals := 2, epsilon := 1 / 100 }

def roundForCurrency (m : Money κ) (registry : CurrencyRegistry κ) : Money κ :=
  let factor : ℚ := 10 ^ (currencyInfo m.currency registry).decimals
  { amount := mathRound (m.amount * factor) / factor, currency := m.currency }

def unitsPerBase (code : κ) (rates : RateTable κ) (side : RateSide) : Except (MoneyError κ) ℚ :=
  if code = rates.base then .ok 1
  else
    match rates.rates code with
    | none => .error (.noUsableRate side code rates.base)
    | some pair => if pair.side side ≤ 0 then .error (.noUsableRate side code rates.base) else .ok (pair.side side)

/-- Units of `target` for one unit of `source`. -/
def crossRate (source target : κ) (rates : RateTable κ) (side : RateSide) : Except (MoneyError κ) ℚ :=
  if source = target then .ok 1
  else do
    let targetUnits ← unitsPerBase target rates side
    let sourceUnits ← unitsPerBase source rates side
    return targetUnits / sourceUnits

def convert (m : Money κ) (target : κ) (rates : RateTable κ) (side : RateSide) : Except (MoneyError κ) (Money κ) :=
  if m.currency = target then .ok m
  else do
    let rate ← crossRate m.currency target rates side
    return { amount := m.amount * rate, currency := target }

/-! The native pass. -/

def addAmount (label : String) (byCurrency : Entries κ ℚ) (m : Money κ) : Except (MoneyError κ) (Entries κ ℚ) :=
  if m.amount < 0 then .error (.badAmount label m.amount m.currency)
  else .ok (byCurrency.set m.currency (byCurrency.amount m.currency + m.amount))

/-- Amounts per currency. -/
def consolidate (items : List (Money κ)) (label : String) : Except (MoneyError κ) (Entries κ ℚ) :=
  Lib.Calls.each (addAmount label) .empty items

structure Sides (κ : Type) where
  remaining : Entries κ ℚ
  excess : Entries κ ℚ

def netInto (owed paid : Entries κ ℚ) (sides : Sides κ) (c : κ) : Sides κ :=
  let net := owed.amount c - paid.amount c
  if 0 < net then { sides with remaining := sides.remaining.set c net }
  else if net < 0 then { sides with excess := sides.excess.set c (-net) }
  else sides

/-- Each payment nets against the total in its own currency. -/
def nativePass (owed paid : Entries κ ℚ) : Sides κ :=
  (owed.keys ++ paid.keys.filter fun c => !owed.keys.contains c).foldl (netInto owed paid) { remaining := .empty, excess := .empty }

/-! Spillover. -/

variable (rates : RateTable κ) (side : RateSide)

def baseValue (e : κ × ℚ) : Except (MoneyError κ) (κ × ℚ) := do
  let converted ← convert { amount := e.2, currency := e.1 } rates.base rates side
  return (e.1, converted.amount)

/-- The larger value in base first, then the currency code. -/
def byBaseValueDesc (m : Entries κ ℚ) : Except (MoneyError κ) (List κ) := do
  let based ← Lib.Calls.gather (baseValue rates side) m.list
  return (based.insertionSort fun a b => Lib.Sorting.largestFirst a b = true).map (·.1)

structure CrossApplication (κ : Type) where
  source : Money κ
  target : Money κ
  rateUsed : ℚ
  deriving DecidableEq, Repr

structure Spill (κ : Type) where
  remaining : Entries κ ℚ
  excessLeft : ℚ
  applied : List (CrossApplication κ)

/-- The excess of `src` settles what remains in the other currencies. -/
def spillInto (src : κ) : List κ → Spill κ → Except (MoneyError κ) (Spill κ)
  | [], s => .ok s
  | tgt :: rest, s =>
    if s.excessLeft ≤ 0 then .ok s
    else if tgt = src then spillInto src rest s
    else if s.remaining.amount tgt ≤ 0 then spillInto src rest s
    else do
      let rate ← crossRate src tgt rates side
      let appliedToTarget := min (s.remaining.amount tgt) (s.excessLeft * rate)
      if appliedToTarget ≤ 0 then spillInto src rest s
      else
        let consumedFromSource := appliedToTarget / rate
        spillInto src rest
          { remaining := s.remaining.set tgt (s.remaining.amount tgt - appliedToTarget)
            excessLeft := s.excessLeft - consumedFromSource
            applied := s.applied ++ [{
              source := { amount := consumedFromSource, currency := src }
              target := { amount := appliedToTarget, currency := tgt }
              rateUsed := rate }] }

structure Matching (κ : Type) where
  remaining : Entries κ ℚ
  excess : Entries κ ℚ
  applied : List (CrossApplication κ)

def spillFrom (m : Matching κ) (src : κ) : Except (MoneyError κ) (Matching κ) := do
  let targets ← byBaseValueDesc rates side m.remaining
  let s ← spillInto rates side src targets
    { remaining := m.remaining, excessLeft := m.excess.amount src, applied := m.applied }
  return { remaining := s.remaining, excess := m.excess.set src s.excessLeft, applied := s.applied }

def spillover (sides : Sides κ) : Except (MoneyError κ) (Matching κ) := do
  let sources ← byBaseValueDesc rates side sides.excess
  Lib.Calls.each (spillFrom rates side) { remaining := sides.remaining, excess := sides.excess, applied := [] } sources

end

/-! The result. -/

section
variable {κ : Type} [LinearOrder κ]

/-- Amounts below the tolerance are dropped before rounding. -/
def finalize (round : Bool) (registry : CurrencyRegistry κ) (m : Entries κ ℚ) : List (Money κ) :=
  ((m.list.filter fun e => (currencyInfo e.1 registry).epsilon ≤ |e.2|).map fun e =>
    if round then roundForCurrency { amount := e.2, currency := e.1 } registry
    else { amount := e.2, currency := e.1 }).insertionSort fun a b => a.currency ≤ b.currency

structure AllocationInput (κ : Type) where
  totals : List (Money κ)
  payments : List (Money κ)
  rates : RateTable κ
  side : RateSide
  registry : CurrencyRegistry κ

structure AllocationResult (κ : Type) where
  remaining : List (Money κ)
  crossCurrencyApplied : List (CrossApplication κ)
  change : List (Money κ)
  deriving DecidableEq, Repr

def allocatePayments (input : AllocationInput κ) (round : Bool := true) : Except (MoneyError κ) (AllocationResult κ) := do
  let owed ← consolidate input.totals "totals"
  let paid ← consolidate input.payments "payments"
  let m ← spillover input.rates input.side (nativePass owed paid)
  return { remaining := finalize round input.registry m.remaining
           crossCurrencyApplied := m.applied
           change := finalize round input.registry m.excess }

end

end Liratek.Till.Allocate
