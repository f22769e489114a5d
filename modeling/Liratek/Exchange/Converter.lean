import Liratek.Lib.Calls
import Liratek.Lib.Market
import Mathlib.Data.Rat.Floor
import Mathlib.Tactic.NormNum

/-! The exchange of currencies. Every exchange goes through the dollar; one rate row for each other currency. -/

namespace Liratek.Exchange.Converter
open Lib.Calls Lib.Market

def baseCurrency : String := "USD"

abbrev USDAction := ℤ

/-- We output dollars. -/
def giveUsd : USDAction := 1

/-- We receive dollars. -/
def takeUsd : USDAction := -1

structure CurrencyRate (K : Type*) where
  toCode : String
  marketRate : K
  buyRate : K
  sellRate : K
  /-- 1: units for one dollar; -1: dollars for one unit -/
  isStronger : ℤ
  deriving DecidableEq

structure ExchangeLeg (K : Type*) where
  fromCurrency : String
  toCurrency : String
  amountIn : K
  amountOut : K
  rate : K
  marketRate : K
  profitUsd : K
  deriving DecidableEq

structure CurrencyExchangeResult (K : Type*) where
  legs : List (ExchangeLeg K)
  totalAmountOut : K
  totalProfitUsd : K
  viaCurrency : Option String
  deriving DecidableEq

section
variable {K : Type} [Field K] [LinearOrder K]

def computeRate (currencyRate : CurrencyRate K) (action : USDAction) : K :=
  if currencyRate.isStronger * action < 0 then currencyRate.buyRate else currencyRate.sellRate

structure Converted (K : Type*) where
  amount : K
  rate : K

def convertToUSD (amount : K) (currencyRate : CurrencyRate K) (action : USDAction) : Converted K :=
  let rate := computeRate currencyRate action
  { amount := if currencyRate.isStronger = 1 then amount / rate else amount * rate, rate := rate }

def convertFromUSD (amountUSD : K) (currencyRate : CurrencyRate K) (action : USDAction) : Converted K :=
  let rate := computeRate currencyRate action
  { amount := if currencyRate.isStronger = 1 then amountUSD * rate else amountUSD / rate, rate := rate }

def computeLegProfitUsd (amountIn : K) (currencyRate : CurrencyRate K) (fromCurrencyIsUsd : Bool) : K :=
  let spread := currencyRate.sellRate - currencyRate.buyRate
  if currencyRate.isStronger = 1 then
    if fromCurrencyIsUsd then amountIn * (spread / 2) / currencyRate.marketRate
    else amountIn * (spread / 2) / (currencyRate.marketRate * currencyRate.marketRate)
  else if fromCurrencyIsUsd then amountIn / currencyRate.marketRate * (spread / 2)
  else amountIn * (spread / 2)

def findCurrencyRate (code : String) (rates : List (CurrencyRate K)) : Except String (CurrencyRate K) :=
  match rates.find? fun r => r.toCode = code with
  | some rate => .ok rate
  | none => .error ("No exchange rate found for currency: " ++ code ++ ". Add it in Settings → Rates.")

/-- The noise is that of floating-point numbers; an exact amount has none. -/
def stripFloatNoise (n : K) : K := n

def directExchange (fromCurrency toCurrency : String) (amountIn : K) (currRate : CurrencyRate K) (converted : Converted K)
    (fromCurrencyIsUsd : Bool) : CurrencyExchangeResult K :=
  let profitUsd := computeLegProfitUsd amountIn currRate fromCurrencyIsUsd
  let cleanAmountOut := stripFloatNoise converted.amount
  { legs :=
      [{ fromCurrency, toCurrency, amountIn, amountOut := cleanAmountOut, rate := converted.rate,
         marketRate := currRate.marketRate, profitUsd }]
    totalAmountOut := cleanAmountOut
    totalProfitUsd := profitUsd
    viaCurrency := none }

/-- The second leg goes on from what the first one brought, before its noise was stripped. -/
def crossExchange (fromCurrency toCurrency : String) (amountIn : K) (fromRate toRate : CurrencyRate K) :
    CurrencyExchangeResult K :=
  let leg1Result := convertToUSD amountIn fromRate giveUsd
  let leg1ProfitUsd := computeLegProfitUsd amountIn fromRate false
  let leg2Result := convertFromUSD leg1Result.amount toRate takeUsd
  let leg2ProfitUsd := computeLegProfitUsd leg1Result.amount toRate true
  let cleanLeg2AmountOut := stripFloatNoise leg2Result.amount
  { legs :=
      [{ fromCurrency, toCurrency := baseCurrency, amountIn, amountOut := stripFloatNoise leg1Result.amount,
         rate := leg1Result.rate, marketRate := fromRate.marketRate, profitUsd := leg1ProfitUsd },
       { fromCurrency := baseCurrency, toCurrency, amountIn := leg1Result.amount, amountOut := cleanLeg2AmountOut,
         rate := leg2Result.rate, marketRate := toRate.marketRate, profitUsd := leg2ProfitUsd }]
    totalAmountOut := cleanLeg2AmountOut
    totalProfitUsd := leg1ProfitUsd + leg2ProfitUsd
    viaCurrency := some baseCurrency }

variable (number : K → String)

def calculateExchange (fromCurrency toCurrency : String) (amountIn : K) (rates : List (CurrencyRate K)) :
    Except String (CurrencyExchangeResult K) :=
  if fromCurrency = toCurrency then .error ("Cannot exchange a currency for itself: " ++ fromCurrency)
  else if amountIn ≤ 0 then .error ("Exchange amount must be positive, got: " ++ number amountIn)
  else if fromCurrency = baseCurrency then
    (findCurrencyRate toCurrency rates).map fun currRate =>
      directExchange fromCurrency toCurrency amountIn currRate (convertFromUSD amountIn currRate takeUsd) true
  else if toCurrency = baseCurrency then
    (findCurrencyRate fromCurrency rates).map fun currRate =>
      directExchange fromCurrency toCurrency amountIn currRate (convertToUSD amountIn currRate giveUsd) false
  else
    (findCurrencyRate fromCurrency rates).bind fun fromRate =>
      (findCurrencyRate toCurrency rates).map fun toRate => crossExchange fromCurrency toCurrency amountIn fromRate toRate

def calculateAmountInForTarget (fromCurrency toCurrency : String) (targetOut : K) (rates : List (CurrencyRate K)) :
    Except String K :=
  if fromCurrency = toCurrency then .error ("Cannot exchange a currency for itself: " ++ fromCurrency)
  else if targetOut ≤ 0 then .error ("Target amount must be positive, got: " ++ number targetOut)
  else if fromCurrency = baseCurrency then
    (findCurrencyRate toCurrency rates).map fun currRate => stripFloatNoise (convertToUSD targetOut currRate takeUsd).amount
  else if toCurrency = baseCurrency then
    (findCurrencyRate fromCurrency rates).map fun currRate => stripFloatNoise (convertFromUSD targetOut currRate giveUsd).amount
  else
    (findCurrencyRate fromCurrency rates).bind fun fromRate =>
      (findCurrencyRate toCurrency rates).map fun toRate =>
        stripFloatNoise (convertFromUSD (convertToUSD targetOut toRate takeUsd).amount fromRate giveUsd).amount

/-- The exchanges of a path, each of what the one before brought. -/
def exchangeAlong (rates : List (CurrencyRate K)) : String → K → List String → Except String K
  | _, amount, [] => .ok amount
  | fromCurrency, amount, toCurrency :: rest =>
    (calculateExchange number fromCurrency toCurrency amount rates).bind fun result =>
      exchangeAlong rates toCurrency result.totalAmountOut rest

end

/-! The table as a market. -/

section
variable {K : Type} [Field K] [LinearOrder K]

structure Quoted (rate : CurrencyRate K) : Prop where
  buy_pos : 0 < rate.buyRate
  buy_le_sell : rate.buyRate ≤ rate.sellRate
  strength : rate.isStronger = 1 ∨ rate.isStronger = -1

/-- What a unit brings in dollars. -/
def bidOf (rate : CurrencyRate K) : K :=
  if rate.isStronger = 1 then 1 / rate.sellRate else rate.buyRate

/-- What a unit costs in dollars. -/
def askOf (rate : CurrencyRate K) : K :=
  if rate.isStronger = 1 then 1 / rate.buyRate else rate.sellRate

def priceOf (rates : List (CurrencyRate K)) (price : CurrencyRate K → K) (code : String) : K :=
  if code = baseCurrency then 1 else ((rates.find? fun r => r.toCode = code).map price).getD 1

theorem Quoted.sell_pos {rate : CurrencyRate K} (quoted : Quoted rate) : 0 < rate.sellRate :=
  quoted.buy_pos.trans_le quoted.buy_le_sell

/-- Both prices of a currency come from the row that is found first. -/
theorem priceOf_cases {rates : List (CurrencyRate K)} (quoted : ∀ r ∈ rates, Quoted r) (code : String) :
    (∀ price, priceOf rates price code = 1) ∨ ∃ rate, Quoted rate ∧ ∀ price, priceOf rates price code = price rate := by
  unfold priceOf
  split_ifs with isBase
  · exact .inl fun _ => rfl
  · cases found : rates.find? fun r => r.toCode = code with
    | none => exact .inl fun _ => rfl
    | some rate => exact .inr ⟨rate, quoted rate (List.mem_of_find?_eq_some found), fun _ => rfl⟩

section
variable [IsStrictOrderedRing K]

theorem Quoted.bid_pos {rate : CurrencyRate K} (quoted : Quoted rate) : 0 < bidOf rate := by
  unfold bidOf
  split_ifs
  · exact one_div_pos.mpr quoted.sell_pos
  · exact quoted.buy_pos

theorem Quoted.bid_le_ask {rate : CurrencyRate K} (quoted : Quoted rate) : bidOf rate ≤ askOf rate := by
  unfold bidOf askOf
  split_ifs
  · exact one_div_le_one_div_of_le quoted.buy_pos quoted.buy_le_sell
  · exact quoted.buy_le_sell

/-- What the shop gives for a currency and takes for it. -/
def market {rates : List (CurrencyRate K)} (quoted : ∀ r ∈ rates, Quoted r) : Prices String K where
  bid := priceOf rates bidOf
  ask := priceOf rates askOf
  bid_pos code := by
    rcases priceOf_cases quoted code with one | ⟨rate, quotedRate, same⟩
    · rw [one]
      exact one_pos
    · rw [same]
      exact quotedRate.bid_pos
  bid_le_ask code := by
    rcases priceOf_cases quoted code with one | ⟨rate, quotedRate, same⟩
    · rw [one, one]
    · rw [same, same]
      exact quotedRate.bid_le_ask

theorem market_swap {rates : List (CurrencyRate K)} (quoted : ∀ r ∈ rates, Quoted r) (fromCurrency toCurrency : String) (amount : K) :
    (market quoted).swap fromCurrency toCurrency amount =
      amount * priceOf rates bidOf fromCurrency / priceOf rates askOf toCurrency := rfl

theorem market_swapFor {rates : List (CurrencyRate K)} (quoted : ∀ r ∈ rates, Quoted r) (fromCurrency toCurrency : String) (target : K) :
    (market quoted).swapFor fromCurrency toCurrency target =
      target * priceOf rates askOf toCurrency / priceOf rates bidOf fromCurrency := rfl

end

/-- Which rate is used, and whether it multiplies or divides, comes to one of the two prices. -/
theorem convertToUSD_give (amount : K) {rate : CurrencyRate K} (quoted : Quoted rate) :
    (convertToUSD amount rate giveUsd).amount = amount * bidOf rate := by
  unfold convertToUSD computeRate bidOf giveUsd
  rcases quoted.strength with stronger | weaker
  · simp [stronger, div_eq_mul_inv]
  · simp [weaker]

theorem convertToUSD_take (amount : K) {rate : CurrencyRate K} (quoted : Quoted rate) :
    (convertToUSD amount rate takeUsd).amount = amount * askOf rate := by
  unfold convertToUSD computeRate askOf takeUsd
  rcases quoted.strength with stronger | weaker
  · simp [stronger, div_eq_mul_inv]
  · simp [weaker]

theorem convertFromUSD_take (amount : K) {rate : CurrencyRate K} (quoted : Quoted rate) :
    (convertFromUSD amount rate takeUsd).amount = amount / askOf rate := by
  unfold convertFromUSD computeRate askOf takeUsd
  rcases quoted.strength with stronger | weaker
  · simp [stronger]
  · simp [weaker]

theorem convertFromUSD_give (amount : K) {rate : CurrencyRate K} (quoted : Quoted rate) :
    (convertFromUSD amount rate giveUsd).amount = amount / bidOf rate := by
  unfold convertFromUSD computeRate bidOf giveUsd
  rcases quoted.strength with stronger | weaker
  · simp [stronger]
  · simp [weaker]

/-- The dollar, or a currency with a row. -/
def Known (rates : List (CurrencyRate K)) (code : String) : Prop :=
  code = baseCurrency ∨ ∃ rate ∈ rates, rate.toCode = code

theorem findCurrencyRate_known {rates : List (CurrencyRate K)} (quoted : ∀ r ∈ rates, Quoted r) {code : String}
    (known : Known rates code) (other : code ≠ baseCurrency) :
    ∃ rate, findCurrencyRate code rates = .ok rate ∧ Quoted rate ∧ ∀ price, priceOf rates price code = price rate := by
  obtain ⟨row, member, isCode⟩ := known.resolve_left other
  unfold findCurrencyRate priceOf
  cases found : rates.find? fun r => r.toCode = code with
  | none => exact absurd isCode (by simpa using List.find?_eq_none.mp found row member)
  | some rate => exact ⟨rate, rfl, quoted rate (List.mem_of_find?_eq_some found), fun _ => if_neg other⟩

omit [Field K] [LinearOrder K] in
theorem known_of_findCurrencyRate {rates : List (CurrencyRate K)} {code : String} {rate : CurrencyRate K}
    (found : findCurrencyRate code rates = .ok rate) : Known rates code := by
  unfold findCurrencyRate at found
  split at found
  · next row isRow => exact .inr ⟨row, List.mem_of_find?_eq_some isRow, by simpa using List.find?_some isRow⟩
  · cases found

omit [LinearOrder K] in
theorem priceOf_base (rates : List (CurrencyRate K)) (price : CurrencyRate K → K) : priceOf rates price baseCurrency = 1 :=
  if_pos rfl

variable (number : K → String)

theorem calculateExchange_known {fromCurrency toCurrency : String} {amountIn : K} {rates : List (CurrencyRate K)}
    {result : CurrencyExchangeResult K} (done : calculateExchange number fromCurrency toCurrency amountIn rates = .ok result) :
    fromCurrency ≠ toCurrency ∧ 0 < amountIn ∧ Known rates fromCurrency ∧ Known rates toCurrency := by
  unfold calculateExchange at done
  split_ifs at done with same none fromBase toBase
  · obtain ⟨rate, found, -⟩ := map_ok done
    exact ⟨same, not_le.mp none, .inl fromBase, known_of_findCurrencyRate found⟩
  · obtain ⟨rate, found, -⟩ := map_ok done
    exact ⟨same, not_le.mp none, known_of_findCurrencyRate found, .inl toBase⟩
  · obtain ⟨fromRate, foundFrom, rest⟩ := bind_ok done
    obtain ⟨toRate, foundTo, -⟩ := map_ok rest
    exact ⟨same, not_le.mp none, known_of_findCurrencyRate foundFrom, known_of_findCurrencyRate foundTo⟩

variable [IsStrictOrderedRing K]

/-- Every exchange is a swap on the market. -/
theorem calculateExchange_swap {rates : List (CurrencyRate K)} (quoted : ∀ r ∈ rates, Quoted r) {fromCurrency toCurrency : String}
    (different : fromCurrency ≠ toCurrency) (knownFrom : Known rates fromCurrency) (knownTo : Known rates toCurrency)
    {amountIn : K} (some : 0 < amountIn) :
    ∃ result, calculateExchange number fromCurrency toCurrency amountIn rates = .ok result ∧
      result.totalAmountOut = (market quoted).swap fromCurrency toCurrency amountIn := by
  unfold calculateExchange
  rw [if_neg different, if_neg (not_le.mpr some)]
  simp only [market_swap]
  by_cases fromBase : fromCurrency = baseCurrency
  · obtain ⟨rate, found, quotedRate, price⟩ := findCurrencyRate_known quoted knownTo (fromBase ▸ different.symm)
    rw [if_pos fromBase, found]
    refine ⟨_, rfl, ?_⟩
    rw [price, fromBase, priceOf_base, mul_one]
    exact convertFromUSD_take amountIn quotedRate
  · obtain ⟨fromRate, foundFrom, quotedFrom, priceFrom⟩ := findCurrencyRate_known quoted knownFrom fromBase
    rw [if_neg fromBase, foundFrom]
    by_cases toBase : toCurrency = baseCurrency
    · rw [if_pos toBase]
      refine ⟨_, rfl, ?_⟩
      rw [priceFrom, toBase, priceOf_base, div_one]
      exact convertToUSD_give amountIn quotedFrom
    · obtain ⟨toRate, foundTo, quotedTo, priceTo⟩ := findCurrencyRate_known quoted knownTo toBase
      rw [if_neg toBase, foundTo]
      refine ⟨_, rfl, ?_⟩
      rw [priceFrom, priceTo, ← convertToUSD_give amountIn quotedFrom]
      exact convertFromUSD_take _ quotedTo

theorem calculateAmountInForTarget_swapFor {rates : List (CurrencyRate K)} (quoted : ∀ r ∈ rates, Quoted r)
    {fromCurrency toCurrency : String} (different : fromCurrency ≠ toCurrency) (knownFrom : Known rates fromCurrency)
    (knownTo : Known rates toCurrency) {target : K} (some : 0 < target) :
    calculateAmountInForTarget number fromCurrency toCurrency target rates =
      .ok ((market quoted).swapFor fromCurrency toCurrency target) := by
  unfold calculateAmountInForTarget
  rw [if_neg different, if_neg (not_le.mpr some)]
  rw [market_swapFor]
  by_cases fromBase : fromCurrency = baseCurrency
  · obtain ⟨rate, found, quotedRate, price⟩ := findCurrencyRate_known quoted knownTo (fromBase ▸ different.symm)
    rw [if_pos fromBase, found, price, fromBase, priceOf_base, div_one, ← convertToUSD_take target quotedRate]
    rfl
  · obtain ⟨fromRate, foundFrom, quotedFrom, priceFrom⟩ := findCurrencyRate_known quoted knownFrom fromBase
    rw [if_neg fromBase, foundFrom]
    by_cases toBase : toCurrency = baseCurrency
    · rw [if_pos toBase, priceFrom, toBase, priceOf_base, mul_one, ← convertFromUSD_give target quotedFrom]
      rfl
    · obtain ⟨toRate, foundTo, quotedTo, priceTo⟩ := findCurrencyRate_known quoted knownTo toBase
      rw [if_neg toBase, foundTo, priceFrom, priceTo, ← convertToUSD_take target quotedTo, ← convertFromUSD_give _ quotedFrom]
      rfl

theorem exchangeAlong_along {rates : List (CurrencyRate K)} (quoted : ∀ r ∈ rates, Quoted r) {path : List String}
    {fromCurrency : String} {amount returned : K} (done : exchangeAlong number rates fromCurrency amount path = .ok returned) :
    returned = (market quoted).along fromCurrency amount path := by
  induction path generalizing fromCurrency amount with
  | nil => exact (Except.ok.inj done).symm
  | cons toCurrency rest ih =>
    obtain ⟨result, exchanged, others⟩ := bind_ok done
    obtain ⟨different, some, knownFrom, knownTo⟩ := calculateExchange_known number exchanged
    obtain ⟨result', exchanged', swapped⟩ := calculateExchange_swap number quoted different knownFrom knownTo some
    obtain rfl := Except.ok.inj (exchanged.symm.trans exchanged')
    rw [ih others, swapped]
    rfl

/-- No cycle of exchanges gains, and what is asked for a target pays out the target. -/
theorem exchange_noArbitrage {rates : List (CurrencyRate K)} (quoted : ∀ r ∈ rates, Quoted r) :
    (∀ path fromCurrency amount returned, exchangeAlong number rates fromCurrency amount path = .ok returned →
      path.getLastD fromCurrency = fromCurrency → returned ≤ amount) ∧
    (∀ fromCurrency toCurrency target, fromCurrency ≠ toCurrency → Known rates fromCurrency → Known rates toCurrency →
      0 < target → ∃ amountIn result, calculateAmountInForTarget number fromCurrency toCurrency target rates = .ok amountIn ∧
        calculateExchange number fromCurrency toCurrency amountIn rates = .ok result ∧ result.totalAmountOut = target) := by
  refine ⟨fun path fromCurrency amount returned done cycle => ?_, fun fromCurrency toCurrency target different knownFrom knownTo some => ?_⟩
  · cases path with
    | nil => exact (Except.ok.inj done).ge
    | cons toCurrency rest =>
      obtain ⟨result, exchanged, -⟩ := bind_ok done
      rw [exchangeAlong_along number quoted done]
      exact (market quoted).along_cycle_le cycle (calculateExchange_known number exchanged).2.1
  · have positive := (market quoted).swapFor_pos fromCurrency toCurrency some
    obtain ⟨result, exchanged, swapped⟩ := calculateExchange_swap number quoted different knownFrom knownTo positive
    refine ⟨_, result, calculateAmountInForTarget_swapFor number quoted different knownFrom knownTo some, exchanged, ?_⟩
    rw [swapped, Prices.swap_swapFor]

end

/-- A round trip through pounds and euros. -/
theorem exchange_noArbitrage_roundTrip :
    exchangeAlong (fun _ : ℚ => "")
        [{ toCode := "LBP", marketRate := (89500 : ℚ), buyRate := 89000, sellRate := 90000, isStronger := 1 },
         { toCode := "EUR", marketRate := 1.18, buyRate := 1.16, sellRate := 1.2, isStronger := -1 }]
        "USD" 100 ["LBP", "EUR", "USD"] = .ok (2581 / 27) ∧ (2581 / 27 : ℚ) ≤ 100 := by
  have done : exchangeAlong (fun _ : ℚ => "")
      [{ toCode := "LBP", marketRate := (89500 : ℚ), buyRate := 89000, sellRate := 90000, isStronger := 1 },
       { toCode := "EUR", marketRate := 1.18, buyRate := 1.16, sellRate := 1.2, isStronger := -1 }]
      "USD" 100 ["LBP", "EUR", "USD"] = .ok (2581 / 27) := by decide +kernel
  refine ⟨done, (exchange_noArbitrage (fun _ => "") ?_).1 _ "USD" 100 _ done (by decide)⟩
  refine List.forall_mem_cons.mpr ⟨⟨by norm_num, by norm_num, by decide⟩, ?_⟩
  exact List.forall_mem_cons.mpr ⟨⟨by norm_num, by norm_num, by decide⟩, nofun⟩

end Liratek.Exchange.Converter
