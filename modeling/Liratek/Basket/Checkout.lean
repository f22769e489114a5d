import Liratek.Basket.MemberOwed
import Mathlib.Algebra.Order.Field.Rat

/-! The payment of a whole basket. What is put on the customer's account is owed by its sales and its members. -/

namespace Liratek.Basket.Checkout
open Lib Lib.Calls Members MemberOwed

inductive BaseSystem where
  | omt | whish
  deriving DecidableEq, Repr

def BaseSystem.code : BaseSystem → String
  | .omt => "OMT"
  | .whish => "WHISH"

def isPrimarySystemProvider (provider : Option String) (baseSystem : BaseSystem) : Bool :=
  (provider = some "OMT" || provider = some "WHISH") && provider = some baseSystem.code

structure SessionSaleRow where
  saleId : Nat
  finalUsd : Option ℚ

/-- A non-sale item of the basket, as the checkout reads it. -/
structure ChargeMember where
  id : Nat
  amount : Amounts
  provider : Option String

def due (sale : SessionSaleRow) : ℚ :=
  sale.finalUsd.getD 0

structure SessionBasket where
  sessionId : Nat
  /-- of the payment, or else of the session -/
  clientId : Option Nat
  baseSystem : BaseSystem
  saleRows : List SessionSaleRow
  members : List ChargeMember
  priced : ∀ sale ∈ saleRows, 0 ≤ due sale
  charged : ∀ member ∈ members, 0 < member.amount .usd ∨ 0 < member.amount .lbp
  distinct : (members.map (·.id)).Nodup

structure BasketPaymentLeg where
  method : String
  currencyCode : String
  amount : ℚ
  isOut : Bool := false
  /-- a payout to the customer, else change -/
  isPayout : Bool := false
  /-- trimmed, and empty when there is none -/
  voucherCode : String := ""

inductive CheckoutError where
  | voucherCodeRequired
  | payoutNeedsClient
  | debtNeedsClient
  deriving DecidableEq, Repr

def CheckoutError.message : CheckoutError → String
  | .voucherCodeRequired => "Gift card payment requires a voucher code"
  | .payoutNeedsClient => "Client is required to settle a payout to store credit"
  | .debtNeedsClient => "Cannot create basket debt without a client"

structure RecordBasketPaymentResult where
  drawerIn : Amounts := 0
  drawerOut : Amounts := 0
  drawerPayout : Amounts := 0
  drawerChange : Amounts := 0
  debt : Amounts := 0
  giftCard : Amounts := 0

def currencyCode : CoverageCurrency → String
  | .usd => "USD"
  | .lbp => "LBP"

/-- A leg in a third currency counts for nothing. -/
def counted (leg : BasketPaymentLeg) : Amounts :=
  fun currency => if leg.currencyCode = currencyCode currency then |leg.amount| else 0

def giftCardMethod : String := "GIFT_CARD"

section
variable (isDrawerAffectingMethod : String → Bool)

/-- The loop over the legs. -/
def recordLeg (clientId : Option Nat) (result : RecordBasketPaymentResult) (leg : BasketPaymentLeg) :
    Except CheckoutError RecordBasketPaymentResult :=
  if |leg.amount| ≤ 0 then .ok result
  else if leg.method = giftCardMethod then
    if leg.voucherCode = "" then .error .voucherCodeRequired
    else if leg.isOut then .ok result
    else .ok { result with debt := result.debt + counted leg, giftCard := result.giftCard + counted leg }
  else if !isDrawerAffectingMethod leg.method then
    if leg.isOut then
      if clientId.isSome then .ok result else .error .payoutNeedsClient
    else .ok { result with debt := result.debt + counted leg }
  else if leg.isOut then
    if leg.isPayout then
      .ok { result with drawerOut := result.drawerOut + counted leg, drawerPayout := result.drawerPayout + counted leg }
    else
      .ok { result with drawerOut := result.drawerOut + counted leg, drawerChange := result.drawerChange + counted leg }
  else .ok { result with drawerIn := result.drawerIn + counted leg }

def recordLegs (clientId : Option Nat) :
    RecordBasketPaymentResult → List BasketPaymentLeg → Except CheckoutError RecordBasketPaymentResult
  | result, [] => .ok result
  | result, leg :: rest =>
    (recordLeg isDrawerAffectingMethod clientId result leg).bind fun next => recordLegs clientId next rest

end

def shareInput (baseSystem : BaseSystem) (member : ChargeMember) : BasketMemberShareInput where
  id := member.id
  amount := member.amount
  isPrimary := isPrimarySystemProvider member.provider baseSystem

/-- The pounds that stay on the items charged in pounds, the primary system's transfers apart. -/
def getBasketOnAccountLbpCapacity (basket : SessionBasket) : ℚ :=
  ((basket.members.filter fun m => !isPrimarySystemProvider m.provider basket.baseSystem).map
    fun m => max 0 (m.amount .lbp)).sum

structure BasketAccountDebtAllocation where
  salesPaidPoolUsd : ℚ
  preCovered : Amounts

def salesTotal (saleRows : List SessionSaleRow) : ℚ :=
  (saleRows.map due).sum

def allocateBasketAccountDebt (saleRows : List SessionSaleRow) (drawer : RecordBasketPaymentResult) (rate : ℚ)
    (nonSaleChargeLbp : ℚ) : BasketAccountDebtAllocation :=
  let safeRate := usableRate rate
  let accountUsd := max 0 (drawer.debt .usd - drawer.giftCard .usd)
  let accountLbpTotal := max 0 (drawer.debt .lbp - drawer.giftCard .lbp)
  let nonSaleOnLbp := min accountLbpTotal (max 0 nonSaleChargeLbp)
  let accountLbp := accountLbpTotal - nonSaleOnLbp
  let accountDebtUsdEquiv := accountUsd + accountLbp / safeRate
  let salesAttributedUsdEquiv := min (salesTotal saleRows) accountDebtUsdEquiv
  let salesOnUsd := min accountUsd salesAttributedUsdEquiv
  let salesOnLbp := min accountLbp ((salesAttributedUsdEquiv - salesOnUsd) * safeRate)
  { salesPaidPoolUsd := max 0 (salesTotal saleRows - salesAttributedUsdEquiv)
    preCovered := fun
      | .usd => drawer.giftCard .usd + salesOnUsd
      | .lbp => drawer.giftCard .lbp + salesOnLbp }

structure SalePayment where
  saleId : Nat
  paidUsd : ℚ
  paidLbp : ℚ
  exchangeRate : ℚ

/-- The sales are paid in turn. -/
def backfillSaleSettlement (rate : ℚ) : List SessionSaleRow → ℚ → List SalePayment
  | [], _ => []
  | sale :: rest, salesPaidPool =>
    let coveredUsd := min (due sale) salesPaidPool
    { saleId := sale.saleId, paidUsd := coveredUsd, paidLbp := 0, exchangeRate := rate } ::
      backfillSaleSettlement rate rest (salesPaidPool - coveredUsd)

def writeBasketMemberOwed (basket : SessionBasket) (row : DebtRow) (rate : ℚ) : List BasketMemberOwed :=
  if basket.members = [] then []
  else allocateBasketMemberOwed (row.amount - row.covered) (basket.members.map (shareInput basket.baseSystem)) rate

/-- What the payment of a basket writes. -/
structure BasketPayment where
  result : RecordBasketPaymentResult
  debt : Option DebtRow
  owed : List BasketMemberOwed
  salePayments : List SalePayment

def basketDebt (basket : SessionBasket) (clientId : Nat) (result : RecordBasketPaymentResult) (preCovered : Amounts) :
    DebtRow where
  clientId := clientId
  sessionId := some basket.sessionId
  transactionType := sessionDebtType
  transactionId := none
  amount := result.debt
  covered := preCovered

/-- After the legs. -/
def settleBasket (basket : SessionBasket) (rate : ℚ) (result : RecordBasketPaymentResult) :
    Except CheckoutError BasketPayment :=
  let allocation := allocateBasketAccountDebt basket.saleRows result rate (getBasketOnAccountLbpCapacity basket)
  let salePayments := backfillSaleSettlement rate basket.saleRows allocation.salesPaidPoolUsd
  if 0 < result.debt .usd ∨ 0 < result.debt .lbp then
    match basket.clientId with
    | none => .error .debtNeedsClient
    | some clientId =>
      let row := basketDebt basket clientId result allocation.preCovered
      .ok
        { result := result
          debt := some row
          owed := writeBasketMemberOwed basket row rate
          salePayments := salePayments }
  else .ok { result := result, debt := none, owed := [], salePayments := salePayments }

def recordBasketPayment (isDrawerAffectingMethod : String → Bool) (basket : SessionBasket) (legs : List BasketPaymentLeg)
    (exchangeRate : ℚ) : Except CheckoutError BasketPayment :=
  let rate := usableRate exchangeRate
  (recordLegs isDrawerAffectingMethod basket.clientId {} legs).bind (settleBasket basket rate)

/-! The legs on the customer's account. -/

theorem counted_nonneg (leg : BasketPaymentLeg) (currency : CoverageCurrency) : 0 ≤ counted leg currency := by
  unfold counted
  split_ifs
  · exact abs_nonneg _
  · exact le_refl 0

theorem counted_nothing {leg : BasketPaymentLeg} (nothing : |leg.amount| ≤ 0) : counted leg = 0 := by
  funext currency
  unfold counted
  rw [le_antisymm nothing (abs_nonneg _), ite_self]
  rfl

section
variable (isDrawerAffectingMethod : String → Bool)

def isAccountLeg (leg : BasketPaymentLeg) : Bool :=
  !leg.isOut && leg.method ≠ giftCardMethod && !isDrawerAffectingMethod leg.method

def accountPart (leg : BasketPaymentLeg) : Amounts :=
  if isAccountLeg isDrawerAffectingMethod leg then counted leg else 0

def accountTotal (legs : List BasketPaymentLeg) : Amounts :=
  fun currency => (legs.map fun leg => accountPart isDrawerAffectingMethod leg currency).sum

theorem accountTotal_nonneg (legs : List BasketPaymentLeg) (currency : CoverageCurrency) :
    0 ≤ accountTotal isDrawerAffectingMethod legs currency := by
  apply List.sum_nonneg
  intro part here
  obtain ⟨leg, -, rfl⟩ := List.mem_map.mp here
  unfold accountPart
  split_ifs
  · exact counted_nonneg leg currency
  · exact le_refl 0

variable {isDrawerAffectingMethod} {clientId : Option Nat}

/-- A leg adds to the debt what it puts on the account and what a gift card pays. -/
theorem recordLeg_ok {result next : RecordBasketPaymentResult} {leg : BasketPaymentLeg}
    (done : recordLeg isDrawerAffectingMethod clientId result leg = .ok next) :
    ∃ gift : Amounts, (∀ currency, 0 ≤ gift currency) ∧ next.giftCard = result.giftCard + gift ∧
      next.debt = result.debt + gift + accountPart isDrawerAffectingMethod leg := by
  have none : ∀ {gift debt : Amounts}, gift = result.giftCard → debt = result.debt →
      accountPart isDrawerAffectingMethod leg = 0 → ∃ more : Amounts, (∀ currency, 0 ≤ more currency) ∧
        gift = result.giftCard + more ∧ debt = result.debt + more + accountPart isDrawerAffectingMethod leg := by
    intro gift debt sameGift sameDebt part
    exact ⟨0, fun _ => le_refl 0, by rw [sameGift, add_zero], by rw [sameDebt, part, add_zero, add_zero]⟩
  unfold recordLeg at done
  split_ifs at done with nothing card code out method out client out payout <;> cases done
  · apply none rfl rfl
    rw [accountPart, counted_nothing nothing, ite_self]
  · apply none rfl rfl
    simp [accountPart, isAccountLeg, card]
  · refine ⟨counted leg, counted_nonneg leg, rfl, ?_⟩
    simp [accountPart, isAccountLeg, card]
  · apply none rfl rfl
    simp [accountPart, isAccountLeg, out]
  · refine ⟨0, fun _ => le_refl 0, (add_zero _).symm, ?_⟩
    have account : isAccountLeg isDrawerAffectingMethod leg = true := by simp_all [isAccountLeg]
    rw [accountPart, if_pos account, add_zero]
  all_goals
    apply none rfl rfl
    simp_all [accountPart, isAccountLeg]

theorem recordLegs_ok {legs : List BasketPaymentLeg} {result final : RecordBasketPaymentResult}
    (done : recordLegs isDrawerAffectingMethod clientId result legs = .ok final) :
    ∃ gift : Amounts, (∀ currency, 0 ≤ gift currency) ∧ final.giftCard = result.giftCard + gift ∧
      final.debt = result.debt + gift + accountTotal isDrawerAffectingMethod legs := by
  induction legs generalizing result with
  | nil =>
    cases done
    refine ⟨0, fun _ => le_refl 0, (add_zero _).symm, ?_⟩
    funext currency
    simp [accountTotal]
  | cons leg rest ih =>
    obtain ⟨next, recorded, others⟩ := bind_ok done
    obtain ⟨first, firstNonneg, firstGift, firstDebt⟩ := recordLeg_ok recorded
    obtain ⟨more, moreNonneg, moreGift, moreDebt⟩ := ih others
    refine ⟨first + more, fun c => add_nonneg (firstNonneg c) (moreNonneg c), ?_, ?_⟩
    · rw [moreGift, firstGift, add_assoc]
    · rw [moreDebt, firstDebt]
      funext currency
      simp only [Pi.add_apply, accountTotal, List.map_cons, List.sum_cons]
      ring

end

/-! The sales first. -/

/-- A sale is paid at most its price, and together they are paid what there is. -/
theorem backfill_paid (rate : ℚ) {saleRows : List SessionSaleRow} (priced : ∀ sale ∈ saleRows, 0 ≤ due sale) {pool : ℚ}
    (nonneg : 0 ≤ pool) (enough : pool ≤ salesTotal saleRows) :
    ((backfillSaleSettlement rate saleRows pool).map (·.paidUsd)).sum = pool := by
  induction saleRows generalizing pool with
  | nil => exact (le_antisymm enough nonneg).symm
  | cons sale rest ih =>
    obtain ⟨first, others⟩ := List.forall_mem_cons.mp priced
    have total : salesTotal (sale :: rest) = due sale + salesTotal rest := rfl
    have left : 0 ≤ pool - min (due sale) pool := sub_nonneg.mpr (min_le_right _ _)
    have less : pool - min (due sale) pool ≤ salesTotal rest := by
      rcases le_total (due sale) pool with all | part
      · rw [min_eq_left all]
        linarith
      · rw [min_eq_right part, sub_self]
        exact List.sum_nonneg (List.forall_mem_map.mpr others)
    have tail := ih others left less
    rw [backfillSaleSettlement, List.map_cons, List.sum_cons, tail]
    ring

theorem backfill_ids (rate : ℚ) (saleRows : List SessionSaleRow) (pool : ℚ) :
    (backfillSaleSettlement rate saleRows pool).map (·.saleId) = saleRows.map (·.saleId) := by
  induction saleRows generalizing pool with
  | nil => rfl
  | cons sale rest ih => exact congrArg (sale.saleId :: ·) (ih _)

theorem backfill_le_due (rate : ℚ) (saleRows : List SessionSaleRow) (pool : ℚ) :
    ∀ pair ∈ saleRows.zip (backfillSaleSettlement rate saleRows pool), pair.2.paidUsd ≤ due pair.1 := by
  induction saleRows generalizing pool with
  | nil => exact fun _ none => nomatch none
  | cons sale rest ih =>
    intro pair here
    rcases List.mem_cons.mp here with rfl | later
    · exact min_le_left _ _
    · exact ih _ pair later

/-- The sales take their part of the account's dollars, and then of its pounds. -/
theorem sales_split {rate dollars pounds total : ℚ} (positive : 0 < rate) (dollarsNonneg : 0 ≤ dollars)
    (poundsNonneg : 0 ≤ pounds) (totalNonneg : 0 ≤ total) :
    let attributed := min total (dollars + pounds / rate)
    let onDollars := min dollars attributed
    let onPounds := min pounds ((attributed - onDollars) * rate)
    (0 ≤ onDollars ∧ onDollars ≤ dollars) ∧ (0 ≤ onPounds ∧ onPounds ≤ pounds) ∧
      onDollars + onPounds / rate = attributed := by
  intro attributed onDollars onPounds
  have worth : 0 ≤ pounds / rate := div_nonneg poundsNonneg positive.le
  have some : 0 ≤ attributed := le_min totalNonneg (add_nonneg dollarsNonneg worth)
  have most : attributed ≤ dollars + pounds / rate := min_le_right _ _
  rcases le_total attributed dollars with inside | beyond
  · have taken : onDollars = attributed := min_eq_right inside
    have none : onPounds = 0 := by
      change min pounds ((attributed - onDollars) * rate) = 0
      rw [taken, sub_self, zero_mul, min_eq_right poundsNonneg]
    rw [taken, none]
    exact ⟨⟨some, inside⟩, ⟨le_refl 0, poundsNonneg⟩, by rw [zero_div, add_zero]⟩
  · have taken : onDollars = dollars := min_eq_left beyond
    have rest : (attributed - dollars) * rate ≤ pounds := by
      rw [← le_div_iff₀ positive]
      linarith
    have pounded : onPounds = (attributed - dollars) * rate := by
      change min pounds ((attributed - onDollars) * rate) = _
      rw [taken, min_eq_right rest]
    rw [taken, pounded]
    refine ⟨⟨dollarsNonneg, le_refl dollars⟩, ⟨mul_nonneg (sub_nonneg.mpr beyond) positive.le, rest⟩, ?_⟩
    rw [mul_div_cancel_right₀ _ positive.ne']
    ring

/-- The pounds that go to the sales. -/
def poundsForSales (basket : SessionBasket) (account : Amounts) : ℚ :=
  account .lbp - min (account .lbp) (max 0 (getBasketOnAccountLbpCapacity basket))

def salesAttributed (basket : SessionBasket) (rate : ℚ) (account : Amounts) : ℚ :=
  min (salesTotal basket.saleRows) (account .usd + poundsForSales basket account / rate)

/-- The part of the account that is the sales', in each currency. -/
def onSales (basket : SessionBasket) (rate : ℚ) (account : Amounts) : Amounts
  | .usd => min (account .usd) (salesAttributed basket rate account)
  | .lbp => min (poundsForSales basket account)
      ((salesAttributed basket rate account - min (account .usd) (salesAttributed basket rate account)) * rate)

section
variable (basket : SessionBasket) {rate : ℚ} (positive : 0 < rate) {account : Amounts} (nonneg : ∀ c, 0 ≤ account c)
include positive nonneg

theorem allocateBasketAccountDebt_eq {result : RecordBasketPaymentResult} (owes : result.debt = result.giftCard + account) :
    allocateBasketAccountDebt basket.saleRows result rate (getBasketOnAccountLbpCapacity basket) =
      { salesPaidPoolUsd := max 0 (salesTotal basket.saleRows - salesAttributed basket rate account)
        preCovered := result.giftCard + onSales basket rate account } := by
  have part : ∀ c, max 0 (result.debt c - result.giftCard c) = account c := by
    intro c
    rw [owes, Pi.add_apply, add_sub_cancel_left, max_eq_right (nonneg c)]
  unfold allocateBasketAccountDebt
  rw [part, part, usableRate_eq positive]
  simp only [BasketAccountDebtAllocation.mk.injEq]
  refine ⟨rfl, ?_⟩
  funext c
  cases c <;> rfl

theorem onSales_sound :
    (∀ c, 0 ≤ onSales basket rate account c ∧ onSales basket rate account c ≤ account c) ∧
      valueAt rate (onSales basket rate account) = salesAttributed basket rate account := by
  have total : 0 ≤ salesTotal basket.saleRows := List.sum_nonneg (List.forall_mem_map.mpr basket.priced)
  have pounds : 0 ≤ poundsForSales basket account := sub_nonneg.mpr (min_le_left _ _)
  have fewer : poundsForSales basket account ≤ account .lbp :=
    sub_le_self _ (le_min (nonneg .lbp) (le_max_left 0 _))
  obtain ⟨dollarPart, ⟨poundNonneg, poundLe⟩, value⟩ := sales_split positive (nonneg .usd) pounds total
  refine ⟨?_, value⟩
  intro c
  cases c with
  | usd => exact dollarPart
  | lbp => exact ⟨poundNonneg, poundLe.trans fewer⟩

theorem salesAttributed_range :
    0 ≤ salesAttributed basket rate account ∧ salesAttributed basket rate account ≤ salesTotal basket.saleRows := by
  have total : 0 ≤ salesTotal basket.saleRows := List.sum_nonneg (List.forall_mem_map.mpr basket.priced)
  have pounds : 0 ≤ poundsForSales basket account := sub_nonneg.mpr (min_le_left _ _)
  exact ⟨le_min total (add_nonneg (nonneg .usd) (div_nonneg pounds positive.le)), min_le_left _ _⟩

end

/-! The account debt of a basket. -/

/-- What the row of the basket has open. -/
def openRow (payment : BasketPayment) : Amounts :=
  match payment.debt with
  | none => 0
  | some row => row.amount - row.covered

/-- What the sales still owe. -/
def openSales (basket : SessionBasket) (payment : BasketPayment) : ℚ :=
  salesTotal basket.saleRows - (payment.salePayments.map (·.paidUsd)).sum

/-- One unit of each currency, in dollars. -/
def unitsValue (rate : ℚ) : ℚ :=
  valueAt rate unit

/-- The member a share belongs to, and how far the share may be above its charge. -/
def WithinCharge (basket : SessionBasket) (rate : ℚ) (share : BasketMemberOwed) (above : ℚ) : Prop :=
  ∃ member ∈ basket.members, member.id = share.id ∧
    valueAt rate share.owed ≤ valueAt rate (fun currency => max 0 (member.amount currency)) + above

/-- All charges together. -/
def chargesTotal (basket : SessionBasket) (rate : ℚ) : ℚ :=
  (basket.members.map fun member => valueAt rate member.amount).sum

/-- The account debt is attributed once. -/
structure Attributed (basket : SessionBasket) (rate : ℚ) (account : Amounts) (payment : BasketPayment) : Prop where
  covered : ∀ row ∈ payment.debt, ∀ currency, 0 ≤ row.covered currency ∧ row.covered currency ≤ row.amount currency
  value : openSales basket payment + valueAt rate (openRow payment) = valueAt rate account
  sales : payment.salePayments.map (·.saleId) = basket.saleRows.map (·.saleId)
  paid : ∀ pair ∈ basket.saleRows.zip payment.salePayments, pair.2.paidUsd ≤ due pair.1
  owed : basket.members ≠ [] → ∀ currency,
    |(payment.owed.map fun share => share.owed currency).sum - openRow payment currency| ≤ unit currency
  shares : payment.debt.isSome → (payment.owed.map (·.id)).Perm (basket.members.map (·.id))
  others : ∀ share ∈ payment.owed.dropLast, WithinCharge basket rate share (unitsValue rate)
  last : valueAt rate (openRow payment) ≤ chargesTotal basket rate → ∀ share ∈ payment.owed.getLast?,
    WithinCharge basket rate share (unitsValue rate + basket.members.length * (unitsValue rate / 2))

theorem WithinCharge.mono {basket : SessionBasket} {rate : ℚ} {share : BasketMemberOwed} {above more : ℚ}
    (within : WithinCharge basket rate share above) (le : above ≤ more) : WithinCharge basket rate share more := by
  obtain ⟨member, here, id, bound⟩ := within
  exact ⟨member, here, id, bound.trans (by linarith)⟩

/-- A share of a member as the allocation reads it is one of the basket's. -/
theorem withinCharge_of_input {basket : SessionBasket} {rate above : ℚ} {share : BasketMemberOwed}
    (within : ∃ member ∈ basket.members.map (shareInput basket.baseSystem), member.id = share.id ∧
      valueAt rate share.owed ≤ charge rate member + above) : WithinCharge basket rate share above := by
  obtain ⟨input, here, id, bound⟩ := within
  obtain ⟨member, inside, rfl⟩ := List.mem_map.mp here
  exact ⟨member, inside, id, bound⟩

section
variable (basket : SessionBasket) {rate : ℚ}

theorem chargesTotal_eq :
    netCharges rate (basket.members.map (shareInput basket.baseSystem)) = chargesTotal basket rate := by
  unfold netCharges chargesTotal
  rw [List.map_map]
  rfl

/-- The members' shares of a row. -/
theorem writeBasketMemberOwed_eq (row : DebtRow) :
    writeBasketMemberOwed basket row rate =
      allocateBasketMemberOwed (row.amount - row.covered) (basket.members.map (shareInput basket.baseSystem)) rate := by
  unfold writeBasketMemberOwed
  split_ifs with none
  · rw [none]
    rfl
  · rfl

variable (positive : 0 < rate)
include positive

theorem unitsValue_pos : 0 < unitsValue rate :=
  add_pos (unit_pos .usd) (div_pos (unit_pos .lbp) positive)

section
variable {row : DebtRow} (left : ∀ currency, 0 ≤ (row.amount - row.covered) currency)
include left

theorem writeBasketMemberOwed_near (some : basket.members ≠ []) (currency : CoverageCurrency) :
    |((writeBasketMemberOwed basket row rate).map fun share => share.owed currency).sum -
      (row.amount - row.covered) currency| ≤ unit currency := by
  have mapped : basket.members.map (shareInput basket.baseSystem) ≠ [] := fun none => some (List.map_eq_nil_iff.mp none)
  have above := roundAmount_le currency ((row.amount - row.covered) currency)
  have below := le_roundAmount currency ((row.amount - row.covered) currency)
  have half := unit_pos currency
  rw [writeBasketMemberOwed_eq, allocate_sum _ _ positive mapped, rounded, max_eq_right (left currency), abs_le]
  constructor <;> linarith

theorem writeBasketMemberOwed_last (covered : valueAt rate (row.amount - row.covered) ≤ chargesTotal basket rate) :
    ∀ share ∈ (writeBasketMemberOwed basket row rate).getLast?,
      WithinCharge basket rate share (unitsValue rate + basket.members.length * (unitsValue rate / 2)) := by
  rw [← chargesTotal_eq] at covered
  intro share here
  rw [writeBasketMemberOwed_eq] at here
  obtain ⟨member, inside, id, bound⟩ := allocate_last _ _ positive left covered share here
  apply withinCharge_of_input
  refine ⟨member, inside, id, bound.trans (le_of_eq ?_)⟩
  rw [List.length_map, unitsValue]
  ring

end

theorem writeBasketMemberOwed_others (row : DebtRow) :
    ∀ share ∈ (writeBasketMemberOwed basket row rate).dropLast, WithinCharge basket rate share (unitsValue rate) := by
  intro share here
  rw [writeBasketMemberOwed_eq] at here
  have worth := unitsValue_pos positive
  have within := withinCharge_of_input (allocate_charge _ _ positive share here)
  exact within.mono (half_le_self worth.le)

theorem writeBasketMemberOwed_ids (row : DebtRow) :
    ((writeBasketMemberOwed basket row rate).map (·.id)).Perm (basket.members.map (·.id)) := by
  have ids := allocate_ids (row.amount - row.covered) (basket.members.map (shareInput basket.baseSystem)) positive
  rw [writeBasketMemberOwed_eq]
  rw [List.map_map] at ids
  exact ids

theorem settleBasket_attributed {result : RecordBasketPaymentResult} {account : Amounts} {payment : BasketPayment}
    (gifts : ∀ c, 0 ≤ result.giftCard c) (nonneg : ∀ c, 0 ≤ account c) (owes : result.debt = result.giftCard + account)
    (done : settleBasket basket rate result = .ok payment) : Attributed basket rate account payment := by
  obtain ⟨parts, partsValue⟩ := onSales_sound basket positive nonneg
  obtain ⟨some, most⟩ := salesAttributed_range basket positive nonneg
  have pool : max 0 (salesTotal basket.saleRows - salesAttributed basket rate account) =
      salesTotal basket.saleRows - salesAttributed basket rate account := max_eq_right (sub_nonneg.mpr most)
  have paidSum := backfill_paid rate basket.priced (sub_nonneg.mpr most) (sub_le_self _ some)
  unfold settleBasket at done
  rw [allocateBasketAccountDebt_eq basket positive nonneg owes] at done
  dsimp only at done
  rw [pool] at done
  split_ifs at done with owing
  · rcases client : basket.clientId with _ | clientId
    · rw [client] at done
      cases done
    · rw [client] at done
      cases done
      have outstanding : result.debt - (result.giftCard + onSales basket rate account) =
          account - onSales basket rate account := by
        rw [owes]
        abel
      have value : valueAt rate (account - onSales basket rate account) =
          valueAt rate account - salesAttributed basket rate account := by
        rw [← partsValue]
        unfold valueAt
        rw [Pi.sub_apply, Pi.sub_apply]
        ring
      have stillOpen : ∀ id, ∀ c, 0 ≤ ((basketDebt basket id result (result.giftCard + onSales basket rate account)).amount -
          (basketDebt basket id result (result.giftCard + onSales basket rate account)).covered) c := by
        intro id c
        change 0 ≤ (result.debt - (result.giftCard + onSales basket rate account)) c
        rw [outstanding]
        exact sub_nonneg.mpr (parts c).2
      constructor
      · rintro row ⟨⟩ c
        refine ⟨add_nonneg (gifts c) (parts c).1, ?_⟩
        change result.giftCard c + onSales basket rate account c ≤ result.debt c
        rw [owes]
        exact add_le_add_right (parts c).2 _
      · unfold openSales openRow basketDebt
        dsimp only
        rw [paidSum, outstanding, value]
        ring
      · exact backfill_ids rate _ _
      · exact backfill_le_due rate _ _
      · intro members c
        exact writeBasketMemberOwed_near basket positive (stillOpen clientId) members c
      · exact fun _ => writeBasketMemberOwed_ids basket positive _
      · exact writeBasketMemberOwed_others basket positive _
      · intro covered
        exact writeBasketMemberOwed_last basket positive (stillOpen clientId) covered
  · cases done
    have none : ∀ c, account c = 0 := by
      intro c
      have debt : result.debt c ≤ 0 := by
        cases c with
        | usd => exact not_lt.mp fun some => owing (Or.inl some)
        | lbp => exact not_lt.mp fun some => owing (Or.inr some)
      rw [owes, Pi.add_apply] at debt
      linarith [gifts c, nonneg c]
    have nothing : salesAttributed basket rate account = 0 := by
      have value : valueAt rate account = 0 := by
        rw [valueAt, none, none, zero_div, add_zero]
      have least := valueAt_mono positive fun c => (parts c).2
      linarith
    constructor
    · exact fun _ none => nomatch none
    · unfold openSales
      dsimp only
      rw [paidSum, nothing]
      simp [valueAt, openRow, none]
    · exact backfill_ids rate _ _
    · exact backfill_le_due rate _ _
    · intro _ c
      simpa [openRow] using (unit_pos c).le
    · exact fun none => nomatch none
    · exact fun _ none => nomatch none
    · exact fun _ _ none => nomatch none

/-- Every payment of a basket that is recorded attributes its account debt once. -/
theorem recordBasketPayment_attributed (isDrawerAffectingMethod : String → Bool) (legs : List BasketPaymentLeg)
    {payment : BasketPayment} (done : recordBasketPayment isDrawerAffectingMethod basket legs rate = .ok payment) :
    Attributed basket rate (accountTotal isDrawerAffectingMethod legs) payment := by
  unfold recordBasketPayment at done
  rw [usableRate_eq positive] at done
  obtain ⟨result, recorded, settled⟩ := bind_ok done
  obtain ⟨gift, nonneg, giftCard, debt⟩ := recordLegs_ok recorded
  have gifts : result.giftCard = gift := giftCard.trans (zero_add gift)
  apply settleBasket_attributed basket positive _ (accountTotal_nonneg isDrawerAffectingMethod legs) _ settled
  · rw [gifts]
    exact nonneg
  · rw [gifts, debt]
    change (0 + gift) + _ = _
    rw [zero_add]

end

/-- The methods of a shop that only knows cash and its customers' accounts. -/
def cashOnly (method : String) : Bool :=
  method ≠ "CUSTOMER_ACCOUNT" && method ≠ giftCardMethod

/-- A case of $12 and a recharge of 600,000 LBP, the recharge on account. -/
def caseAndRecharge : SessionBasket where
  sessionId := 1
  clientId := some 1
  baseSystem := .omt
  saleRows := [{ saleId := 0, finalUsd := some 12 }]
  members := [{ id := 1, amount := fun | .usd => 0 | .lbp => 600000, provider := none }]
  priced := by decide +kernel
  charged := by decide +kernel
  distinct := by decide

def caseInCash : List BasketPaymentLeg :=
  [{ method := "CASH", currencyCode := "USD", amount := 12 },
    { method := "CUSTOMER_ACCOUNT", currencyCode := "LBP", amount := 600000 }]

theorem caseAndRecharge_attributed :
    ∃ payment, recordBasketPayment cashOnly caseAndRecharge caseInCash 89500 = .ok payment ∧
      Attributed caseAndRecharge 89500 (accountTotal cashOnly caseInCash) payment := by
  rcases recorded : recordBasketPayment cashOnly caseAndRecharge caseInCash 89500 with refused | payment
  · have accepted : (recordBasketPayment cashOnly caseAndRecharge caseInCash 89500).toOption.isSome = true := by
      decide +kernel
    rw [recorded] at accepted
    cases accepted
  · exact ⟨payment, rfl, recordBasketPayment_attributed caseAndRecharge (by norm_num) cashOnly caseInCash recorded⟩

def smallItem (id : Nat) : ChargeMember where
  id := id
  amount := fun | .usd => 0 | .lbp => 400
  provider := none

/-- Items of less than half a cent. -/
def smallItems : SessionBasket where
  sessionId := 1
  clientId := some 1
  baseSystem := .omt
  saleRows := []
  members := (List.range 5).map smallItem
  priced := fun _ none => nomatch none
  charged := by decide +kernel
  distinct := by decide

def twoCents : List BasketPaymentLeg :=
  [{ method := "CUSTOMER_ACCOUNT", currencyCode := "USD", amount := 1 / 50 }]

/-- The last item owes both cents. -/
theorem smallItems_above_charge :
    ∃ payment, recordBasketPayment cashOnly smallItems twoCents 89500 = .ok payment ∧
      valueAt 89500 (openRow payment) ≤ chargesTotal smallItems 89500 ∧
      ∃ share ∈ payment.owed, ¬WithinCharge smallItems 89500 share (unitsValue 89500) := by
  have facts : (recordBasketPayment cashOnly smallItems twoCents 89500).toOption.map (fun payment =>
      (valueAt 89500 (openRow payment), payment.owed.getLast?.map fun share => valueAt 89500 share.owed)) =
        some (1 / 50, some (1 / 50)) := by decide +kernel
  rcases recorded : recordBasketPayment cashOnly smallItems twoCents 89500 with refused | payment
  · rw [recorded] at facts
    cases facts
  · rw [recorded] at facts
    obtain ⟨value, owed⟩ := Prod.mk.inj (Option.some.inj facts)
    obtain ⟨share, last, owes⟩ := Option.map_eq_some_iff.mp owed
    refine ⟨payment, rfl, ?_, share, List.mem_of_getLast? last, ?_⟩
    · rw [value]
      decide +kernel
    · rintro ⟨member, inside, -, bound⟩
      have charges : ∀ member ∈ smallItems.members,
          valueAt 89500 (fun currency => max 0 (member.amount currency)) + unitsValue 89500 < 1 / 50 := by decide +kernel
      have below := charges member inside
      rw [owes] at bound
      linarith

end Liratek.Basket.Checkout
