import Liratek.Basket.Checkout
import Liratek.Voucher.VoucherValue

/-! Gift cards at the checkout of a basket. A leg redeems its voucher, which puts the face value on the owner's account, and
what the leg pays is booked as debt of the basket's client. -/

namespace Liratek.Basket.GiftCards
open Lib Lib.Calls Members MemberOwed Checkout
open Voucher.Vouchers (Store VoucherEntity UsdLbp redeemByCode deposit faceValue)

/-- An amount in a currency. -/
def part (amounts : UsdLbp) : Amounts
  | .usd => amounts.1
  | .lbp => amounts.2

/-- `addCreditOrThrow` for a line that is put on the account -/
def addCreditOrThrow (s : Store) (basket : SessionBasket) (clientId : Nat) (amount : Amounts) : Except String Store :=
  if amount .usd ≤ 0 ∧ amount .lbp ≤ 0 then .error "At least one amount must be greater than 0"
  else .ok
    { s with
      debtLedger := s.debtLedger.insert
        { clientId := clientId
          transactionType := .creditDeposit
          amount := (-|amount .usd|, -|amount .lbp|)
          transactionId := none
          note := "Session #" ++ toString basket.sessionId ++ " basket" } }

section
variable (toUpperCase : String → String) (isDrawerAffectingMethod : String → Bool)

/-- What a leg writes on the accounts while the legs are gone through. -/
def postLeg (basket : SessionBasket) (day : ℤ) (s : Store) (leg : BasketPaymentLeg) : Except String Store :=
  if |leg.amount| ≤ 0 then .ok s
  else if leg.method = giftCardMethod then
    redeemByCode s { code := toUpperCase leg.voucherCode, transactionId := none, day }
  else if !isDrawerAffectingMethod leg.method && leg.isOut then
    match basket.clientId with
    | none => .error CheckoutError.payoutNeedsClient.message
    | some clientId => addCreditOrThrow s basket clientId (counted leg)
  else .ok s

def checkoutLeg (basket : SessionBasket) (day : ℤ) (state : Store × RecordBasketPaymentResult) (leg : BasketPaymentLeg) :
    Except String (Store × RecordBasketPaymentResult) :=
  ((recordLeg isDrawerAffectingMethod basket.clientId state.2 leg).mapError CheckoutError.message).bind fun result =>
  (postLeg toUpperCase isDrawerAffectingMethod basket day state.1 leg).map fun s => (s, result)

def checkoutLegs (basket : SessionBasket) (day : ℤ) :
    Store × RecordBasketPaymentResult → List BasketPaymentLeg → Except String (Store × RecordBasketPaymentResult)
  | state, [] => .ok state
  | state, leg :: rest =>
    (checkoutLeg toUpperCase isDrawerAffectingMethod basket day state leg).bind fun next => checkoutLegs basket day next rest

/-- `recordBasketPayment` with the vouchers and the accounts it writes to. -/
def payBasket (basket : SessionBasket) (legs : List BasketPaymentLeg) (exchangeRate : ℚ) (day : ℤ) (s : Store) :
    Except String (Store × BasketPayment) :=
  (checkoutLegs toUpperCase isDrawerAffectingMethod basket day (s, {}) legs).bind fun state =>
  ((settleBasket basket (usableRate exchangeRate) state.2).mapError CheckoutError.message).map fun payment =>
  (state.1, payment)

/-- A line that redeems a voucher. -/
def redeems (leg : BasketPaymentLeg) : Bool :=
  leg.method = giftCardMethod && 0 < |leg.amount|

def codeOf (leg : BasketPaymentLeg) : String :=
  toUpperCase leg.voucherCode

def codesOf (legs : List BasketPaymentLeg) : List String :=
  (legs.filter redeems).map (codeOf toUpperCase)

/-- What a gift card pays. -/
def giftPart (leg : BasketPaymentLeg) : Amounts :=
  if leg.method = giftCardMethod && !leg.isOut then counted leg else 0

/-- What is put on the account instead of being handed out. -/
def creditPart (leg : BasketPaymentLeg) : Amounts :=
  if leg.method ≠ giftCardMethod && !isDrawerAffectingMethod leg.method && leg.isOut then counted leg else 0

def totalOf (amount : BasketPaymentLeg → Amounts) (legs : List BasketPaymentLeg) : Amounts :=
  fun currency => (legs.map fun leg => amount leg currency).sum

end

def face (voucher : VoucherEntity) : Amounts :=
  part (faceValue voucher)

def faces (redeemed : List (Nat × VoucherEntity)) : Amounts :=
  fun currency => (redeemed.map fun entry => face entry.2 currency).sum

/-- All accounts together. -/
def onAccounts (s : Store) : Amounts :=
  fun currency => s.debtLedger.total fun row => part row.amount currency

def bookedDebt (payment : BasketPayment) : Amounts :=
  match payment.debt with
  | none => 0
  | some row => row.amount

/-- What the table of vouchers promises: a code is given once, and a voucher has a value. -/
structure Issued (s : Store) : Prop where
  codes : ∀ v w a b, s.vouchers.get v = some a → s.vouchers.get w = some b → a.code = b.code → v = w
  positive : ∀ v a, s.vouchers.get v = some a → 0 < a.amount

/-- The vouchers of `codes` are redeemed, each once, and no other. -/
structure Redeemed (s s' : Store) (codes : List String) (redeemed : List (Nat × VoucherEntity)) : Prop where
  named : redeemed.map (·.2.code) = codes
  distinct : (redeemed.map (·.1)).Nodup
  before : ∀ entry ∈ redeemed, s.vouchers.get entry.1 = some entry.2 ∧ entry.2.status = .pending
  after : ∀ entry ∈ redeemed,
    s'.vouchers.get entry.1 = some { entry.2 with status := .redeemed, redeemedTransactionId := none }
  others : ∀ id, id ∉ redeemed.map (·.1) → s'.vouchers.get id = s.vouchers.get id

/-! One line. -/

section
variable {toUpperCase : String → String} {isDrawerAffectingMethod : String → Bool} {basket : SessionBasket} {day : ℤ}
  {s s' : Store} {leg : BasketPaymentLeg}

theorem mapError_ok {ε α : Type} {x : Except ε α} {message : ε → String} {r : α} (done : x.mapError message = .ok r) : x = .ok r := by
  cases x with
  | error refused => cases done
  | ok a => exact congrArg Except.ok (Except.ok.inj done)

theorem onAccounts_insert (ledger : Table Voucher.Vouchers.DebtRow) (row : Voucher.Vouchers.DebtRow) (currency : CoverageCurrency) :
    (ledger.insert row).total (fun row => part row.amount currency) =
      ledger.total (fun row => part row.amount currency) + part row.amount currency :=
  Table.total_insert ledger row _

theorem face_nonneg {voucher : VoucherEntity} (positive : 0 < voucher.amount) (currency : CoverageCurrency) :
    0 ≤ face voucher currency := by
  unfold face faceValue
  cases voucher.currencyCode <;> cases currency <;> first | exact positive.le | exact le_rfl

/-- The deposit of a voucher lowers what the owner owes by the face value. -/
theorem part_deposit {voucher : VoucherEntity} (positive : 0 < voucher.amount) (currency : CoverageCurrency) :
    part (deposit voucher none).amount currency = -face voucher currency := by
  cases currency with
  | usd => exact congrArg Neg.neg (abs_of_nonneg (face_nonneg positive .usd))
  | lbp => exact congrArg Neg.neg (abs_of_nonneg (face_nonneg positive .lbp))

theorem postLeg_redeems (card : redeems leg = true)
    (done : postLeg toUpperCase isDrawerAffectingMethod basket day s leg = .ok s') :
    ∃ id voucher, s.vouchers.get id = some voucher ∧ voucher.code = codeOf toUpperCase leg ∧ voucher.status = .pending ∧
      s' = { s with
        vouchers := s.vouchers.update id fun voucher => { voucher with status := .redeemed, redeemedTransactionId := none }
        debtLedger := s.debtLedger.insert (deposit voucher none) } := by
  unfold redeems at card
  rw [Bool.and_eq_true, decide_eq_true_iff, decide_eq_true_iff] at card
  unfold postLeg at done
  rw [if_neg (not_le.mpr card.2), if_pos card.1] at done
  exact Voucher.VoucherValue.redeem_ok done

theorem creditPart_card (card : leg.method = giftCardMethod) : creditPart isDrawerAffectingMethod leg = 0 := by
  unfold creditPart
  rw [decide_eq_false (not_not.mpr card)]
  rfl

theorem counted_abs (leg : BasketPaymentLeg) (currency : CoverageCurrency) : |counted leg currency| = counted leg currency :=
  abs_of_nonneg (counted_nonneg leg currency)

/-- Any other line leaves the vouchers, and credits what it puts on the account. -/
theorem postLeg_other (other : redeems leg = false)
    (done : postLeg toUpperCase isDrawerAffectingMethod basket day s leg = .ok s') :
    s'.vouchers = s.vouchers ∧
      ∀ currency, onAccounts s' currency = onAccounts s currency - creditPart isDrawerAffectingMethod leg currency := by
  unfold postLeg at done
  unfold redeems at other
  split_ifs at done with nothing card credited
  · obtain rfl := Except.ok.inj done
    refine ⟨rfl, fun currency => ?_⟩
    rw [creditPart, counted_nothing nothing, ite_self, Pi.zero_apply, sub_zero]
  · rw [decide_eq_true card, decide_eq_true (not_le.mp nothing)] at other
    cases other
  · have isCredit : creditPart isDrawerAffectingMethod leg = counted leg := by
      rw [Bool.and_eq_true] at credited
      rw [creditPart, decide_eq_true card, credited.1, credited.2]
      rfl
    cases client : basket.clientId with
    | none =>
      rw [client] at done
      cases done
    | some clientId =>
      rw [client] at done
      unfold addCreditOrThrow at done
      dsimp only at done
      split_ifs at done
      obtain rfl := Except.ok.inj done
      refine ⟨rfl, fun currency => ?_⟩
      rw [isCredit, onAccounts, onAccounts, onAccounts_insert, sub_eq_add_neg, ← counted_abs leg currency]
      cases currency <;> rfl
  · obtain rfl := Except.ok.inj done
    refine ⟨rfl, fun currency => ?_⟩
    rw [creditPart, Bool.and_assoc, if_neg, Pi.zero_apply, sub_zero]
    rw [Bool.and_eq_true]
    exact fun both => credited both.2

/-- A line adds to the debt what a gift card pays and what it puts on the account. -/
theorem recordLeg_amounts {clientId : Option Nat} {result next : RecordBasketPaymentResult}
    (done : recordLeg isDrawerAffectingMethod clientId result leg = .ok next) :
    next.giftCard = result.giftCard + giftPart leg ∧
      next.debt = result.debt + giftPart leg + accountPart isDrawerAffectingMethod leg := by
  unfold recordLeg at done
  unfold giftPart accountPart isAccountLeg
  split_ifs at done with nothing card code out method out client out payout <;> cases done
  · simp only [counted_nothing nothing, ite_self, add_zero, and_self]
  all_goals simp_all

/-! The vouchers. -/

/-- One more voucher, before the others. -/
theorem Redeemed.cons {codes : List String} {redeemed : List (Nat × VoucherEntity)} {id : Nat} {voucher : VoucherEntity}
    {ledger : Table Voucher.Vouchers.DebtRow} (found : s.vouchers.get id = some voucher) (pending : voucher.status = .pending)
    (rest : Redeemed { s with
      vouchers := s.vouchers.update id fun voucher => { voucher with status := .redeemed, redeemedTransactionId := none }
      debtLedger := ledger } s' codes redeemed) :
    Redeemed s s' (voucher.code :: codes) ((id, voucher) :: redeemed) := by
  have fresh : ∀ entry ∈ redeemed, entry.1 ≠ id := by
    rintro entry inRest rfl
    obtain ⟨there, isPending⟩ := rest.before entry inRest
    rw [Table.get_update_self, found] at there
    rw [← Option.some.inj there] at isPending
    cases isPending
  have notIn : id ∉ redeemed.map (·.1) := fun inRest => by
    obtain ⟨entry, isEntry, same⟩ := List.mem_map.mp inRest
    exact fresh entry isEntry same
  constructor
  · rw [List.map_cons, rest.named]
  · exact List.nodup_cons.mpr ⟨notIn, rest.distinct⟩
  · refine List.forall_mem_cons.mpr ⟨⟨found, pending⟩, fun entry inRest => ?_⟩
    obtain ⟨there, isPending⟩ := rest.before entry inRest
    rw [Table.get_update_of_ne _ _ (fresh entry inRest)] at there
    exact ⟨there, isPending⟩
  · refine List.forall_mem_cons.mpr ⟨?_, rest.after⟩
    rw [rest.others id notIn, Table.get_update_self, found]
    rfl
  · intro other notRedeemed
    rw [List.map_cons, List.mem_cons, not_or] at notRedeemed
    rw [rest.others other notRedeemed.2, Table.get_update_of_ne _ _ notRedeemed.1]

theorem Redeemed.of_same {s₁ : Store} {codes : List String} {redeemed : List (Nat × VoucherEntity)}
    (same : s₁.vouchers = s.vouchers) (rest : Redeemed s₁ s' codes redeemed) : Redeemed s s' codes redeemed where
  named := rest.named
  distinct := rest.distinct
  before := same ▸ rest.before
  after := rest.after
  others := same ▸ rest.others

theorem Issued.of_same {s₁ : Store} (same : s₁.vouchers = s.vouchers) (issued : Issued s) : Issued s₁ where
  codes := same ▸ issued.codes
  positive := same ▸ issued.positive

theorem Issued.redeem {id : Nat} {voucher : VoucherEntity} {ledger : Table Voucher.Vouchers.DebtRow} (issued : Issued s)
    (found : s.vouchers.get id = some voucher) :
    Issued { s with
      vouchers := s.vouchers.update id fun voucher => { voucher with status := .redeemed, redeemedTransactionId := none }
      debtLedger := ledger } where
  codes := Voucher.VoucherValue.codes_update issued.codes found rfl
  positive v a there := by
    rcases Voucher.VoucherValue.get_changed found there with ⟨rfl, rfl⟩ | ⟨-, there⟩
    · exact issued.positive v voucher found
    · exact issued.positive v a there

/-- No code is named twice: the second line would find its voucher redeemed. -/
theorem Redeemed.nodup {codes : List String} {redeemed : List (Nat × VoucherEntity)} (issued : Issued s)
    (rest : Redeemed s s' codes redeemed) : codes.Nodup := by
  rw [← rest.named]
  refine (List.nodup_map_iff_inj_on (List.Nodup.of_map _ rest.distinct)).mpr fun a inA b inB same => ?_
  have sameId := issued.codes a.1 b.1 a.2 b.2 (rest.before a inA).1 (rest.before b inB).1 same
  have sameRow : some a.2 = some b.2 := (rest.before a inA).1.symm.trans (sameId ▸ (rest.before b inB).1)
  exact Prod.ext sameId (Option.some.inj sameRow)

end

/-! All lines. -/

section
variable {toUpperCase : String → String} {isDrawerAffectingMethod : String → Bool} {basket : SessionBasket} {day : ℤ}

/-- What the lines of a basket write on the vouchers and the accounts. -/
structure Posted (toUpperCase : String → String) (isDrawerAffectingMethod : String → Bool) (s s' : Store)
    (legs : List BasketPaymentLeg) (redeemed : List (Nat × VoucherEntity)) : Prop where
  vouchers : Redeemed s s' (codesOf toUpperCase legs) redeemed
  accounts : ∀ currency, onAccounts s' currency =
    onAccounts s currency - faces redeemed currency - totalOf (creditPart isDrawerAffectingMethod) legs currency

theorem checkoutLeg_ok {s s₁ : Store} {result next : RecordBasketPaymentResult} {leg : BasketPaymentLeg}
    (done : checkoutLeg toUpperCase isDrawerAffectingMethod basket day (s, result) leg = .ok (s₁, next)) :
    recordLeg isDrawerAffectingMethod basket.clientId result leg = .ok next ∧
      postLeg toUpperCase isDrawerAffectingMethod basket day s leg = .ok s₁ := by
  obtain ⟨_, recorded, rest⟩ := bind_ok done
  obtain ⟨_, posted, same⟩ := map_ok rest
  obtain ⟨rfl, rfl⟩ := Prod.mk.inj same
  exact ⟨mapError_ok recorded, posted⟩

theorem checkoutLegs_posted {legs : List BasketPaymentLeg} {s s' : Store} {result final : RecordBasketPaymentResult}
    (issued : Issued s) (done : checkoutLegs toUpperCase isDrawerAffectingMethod basket day (s, result) legs = .ok (s', final)) :
    ∃ redeemed, Posted toUpperCase isDrawerAffectingMethod s s' legs redeemed := by
  induction legs generalizing s result with
  | nil =>
    obtain ⟨rfl, rfl⟩ := Prod.mk.inj (Except.ok.inj done)
    refine ⟨[], ⟨rfl, List.nodup_nil, List.forall_mem_nil _, List.forall_mem_nil _, fun _ _ => rfl⟩, fun currency => ?_⟩
    exact ((sub_zero _).trans (sub_zero _)).symm
  | cons leg rest ih =>
    obtain ⟨⟨s₁, next⟩, done, others⟩ := bind_ok done
    obtain ⟨-, posted⟩ := checkoutLeg_ok done
    have credits (currency : CoverageCurrency) : totalOf (creditPart isDrawerAffectingMethod) (leg :: rest) currency =
        creditPart isDrawerAffectingMethod leg currency + totalOf (creditPart isDrawerAffectingMethod) rest currency :=
      List.sum_cons
    cases card : redeems leg with
    | true =>
      obtain ⟨id, voucher, found, named, pending, rfl⟩ := postLeg_redeems card posted
      obtain ⟨redeemed, tail⟩ := ih (issued.redeem found) others
      have positive := issued.positive id voucher found
      have isCard : leg.method = giftCardMethod := by
        unfold redeems at card
        rw [Bool.and_eq_true, decide_eq_true_iff] at card
        exact card.1
      refine ⟨(id, voucher) :: redeemed, ?_, fun currency => ?_⟩
      · rw [codesOf, List.filter_cons_of_pos card, List.map_cons, ← named]
        exact tail.vouchers.cons found pending
      · have here : faces ((id, voucher) :: redeemed) currency = face voucher currency + faces redeemed currency := List.sum_cons
        rw [tail.accounts, credits, creditPart_card isCard, here, onAccounts, onAccounts_insert, part_deposit positive,
          Pi.zero_apply, onAccounts]
        ring
    | false =>
      obtain ⟨same, credited⟩ := postLeg_other card posted
      obtain ⟨redeemed, tail⟩ := ih (issued.of_same same) others
      refine ⟨redeemed, ?_, fun currency => ?_⟩
      · rw [codesOf, List.filter_cons_of_neg (Bool.eq_false_iff.mp card)]
        exact tail.vouchers.of_same same
      · rw [tail.accounts, credits, credited]
        ring

theorem checkoutLegs_amounts {legs : List BasketPaymentLeg} {s s' : Store} {result final : RecordBasketPaymentResult}
    (done : checkoutLegs toUpperCase isDrawerAffectingMethod basket day (s, result) legs = .ok (s', final)) :
    final.giftCard = result.giftCard + totalOf giftPart legs ∧
      final.debt = result.debt + totalOf giftPart legs + accountTotal isDrawerAffectingMethod legs := by
  induction legs generalizing s result with
  | nil =>
    obtain ⟨rfl, rfl⟩ := Prod.mk.inj (Except.ok.inj done)
    exact ⟨(add_zero _).symm, ((add_zero _).trans (add_zero _)).symm⟩
  | cons leg rest ih =>
    obtain ⟨⟨s₁, next⟩, done, others⟩ := bind_ok done
    obtain ⟨giftCard, debt⟩ := recordLeg_amounts (checkoutLeg_ok done).1
    obtain ⟨moreGiftCard, moreDebt⟩ := ih others
    have gift : totalOf giftPart (leg :: rest) = giftPart leg + totalOf giftPart rest := funext fun _ => List.sum_cons
    have account : accountTotal isDrawerAffectingMethod (leg :: rest) =
        accountPart isDrawerAffectingMethod leg + accountTotal isDrawerAffectingMethod rest := funext fun _ => List.sum_cons
    constructor
    · rw [moreGiftCard, giftCard, gift, add_assoc]
    · rw [moreDebt, debt, gift, account]
      abel

end

/-! The value of the gift cards. -/

theorem valueAt_totalOf (rate : ℚ) (amount : BasketPaymentLeg → Amounts) (legs : List BasketPaymentLeg) :
    valueAt rate (totalOf amount legs) = (legs.map fun leg => valueAt rate (amount leg)).sum := by
  induction legs with
  | nil => exact (zero_add _).trans (zero_div rate)
  | cons leg rest ih =>
    have total : totalOf amount (leg :: rest) = amount leg + totalOf amount rest := funext fun _ => List.sum_cons
    rw [total, valueAt_add, List.map_cons, List.sum_cons, ih]

theorem valueAt_faces (rate : ℚ) (redeemed : List (Nat × VoucherEntity)) :
    valueAt rate (faces redeemed) = (redeemed.map fun entry => valueAt rate (face entry.2)).sum := by
  induction redeemed with
  | nil => exact (zero_add _).trans (zero_div rate)
  | cons entry rest ih =>
    have total : faces (entry :: rest) = face entry.2 + faces rest := funext fun _ => List.sum_cons
    rw [total, valueAt_add, List.map_cons, List.sum_cons, ih]

/-- Each gift-card line that pays in is worth at most the voucher it names. -/
def WorthVouchers (toUpperCase : String → String) (rate : ℚ) (s : Store) (legs : List BasketPaymentLeg) : Prop :=
  ∀ leg ∈ legs, redeems leg = true → leg.isOut = false → ∀ id voucher, s.vouchers.get id = some voucher →
    voucher.code = codeOf toUpperCase leg → valueAt rate (counted leg) ≤ valueAt rate (face voucher)

/-- Lines and vouchers one by one. -/
theorem sum_le_of_named {α β : Type*} {f : α → ℚ} {g : β → ℚ} {codeA : α → String} {codeB : β → String} {items : List α}
    {others : List β} (named : others.map codeB = items.map codeA)
    (each : ∀ a ∈ items, ∀ b ∈ others, codeB b = codeA a → f a ≤ g b) : (items.map f).sum ≤ (others.map g).sum := by
  induction items generalizing others with
  | nil =>
    rw [List.map_eq_nil_iff.mp named]
    rfl
  | cons a rest ih =>
    obtain ⟨b, tail, rfl, first, more⟩ := List.map_eq_cons_iff.mp named
    rw [List.map_cons, List.map_cons, List.sum_cons, List.sum_cons]
    exact add_le_add (each a List.mem_cons_self b List.mem_cons_self first)
      (ih more fun a inA b inB => each a (List.mem_cons_of_mem _ inA) b (List.mem_cons_of_mem _ inB))

/-- A line that redeems no voucher pays nothing by gift card. -/
theorem sum_giftPart (rate : ℚ) (legs : List BasketPaymentLeg) :
    (legs.map fun leg => valueAt rate (giftPart leg)).sum =
      ((legs.filter redeems).map fun leg => valueAt rate (giftPart leg)).sum := by
  induction legs with
  | nil => rfl
  | cons leg rest ih =>
    cases card : redeems leg with
    | true => rw [List.filter_cons_of_pos card, List.map_cons, List.map_cons, List.sum_cons, List.sum_cons, ih]
    | false =>
      have nothing : giftPart leg = 0 := by
        unfold redeems at card
        rw [Bool.and_eq_false_iff, decide_eq_false_iff_not, decide_eq_false_iff_not, not_lt] at card
        unfold giftPart
        rcases card with notCard | nothing
        · rw [decide_eq_false notCard]
          rfl
        · rw [counted_nothing nothing, ite_self]
      rw [List.filter_cons_of_neg (Bool.eq_false_iff.mp card), List.map_cons, List.sum_cons, ih, nothing]
      exact (congrArg (· + _) ((zero_add _).trans (zero_div rate))).trans (zero_add _)

theorem giftShare_le {toUpperCase : String → String} {rate : ℚ} (positive : 0 < rate) {s s' : Store} (issued : Issued s)
    {legs : List BasketPaymentLeg} {redeemed : List (Nat × VoucherEntity)}
    (vouchers : Redeemed s s' (codesOf toUpperCase legs) redeemed) (worth : WorthVouchers toUpperCase rate s legs) :
    valueAt rate (totalOf giftPart legs) ≤ valueAt rate (faces redeemed) := by
  rw [valueAt_totalOf, sum_giftPart, valueAt_faces]
  refine sum_le_of_named vouchers.named fun leg isCard entry isEntry named => ?_
  obtain ⟨inLegs, card⟩ := List.mem_filter.mp isCard
  have found := (vouchers.before entry isEntry).1
  cases isOut : leg.isOut with
  | true =>
    have nothing : giftPart leg = 0 := by
      unfold giftPart
      rw [isOut, Bool.not_true, Bool.and_false]
      rfl
    rw [nothing]
    exact valueAt_mono positive fun currency => face_nonneg (issued.positive _ _ found) currency
  | false =>
    have pays : giftPart leg = counted leg := by
      unfold redeems at card
      rw [Bool.and_eq_true] at card
      rw [giftPart, card.1, isOut]
      rfl
    rw [pays]
    exact worth leg inLegs card isOut entry.1 entry.2 found named

/-! The payment of the basket. -/

section
variable {toUpperCase : String → String} {isDrawerAffectingMethod : String → Bool} {basket : SessionBasket} {day : ℤ}

/-- The debt that is booked is that of the lines, and its cover is what the gift cards pay and what the sales owe. -/
theorem settleBasket_amounts {rate : ℚ} (positive : 0 < rate) {result : RecordBasketPaymentResult} {account : Amounts}
    (nonneg : ∀ currency, 0 ≤ account currency) (giftNonneg : ∀ currency, 0 ≤ result.giftCard currency)
    (owes : result.debt = result.giftCard + account) {payment : BasketPayment}
    (done : settleBasket basket rate result = .ok payment) :
    payment.result = result ∧ bookedDebt payment = result.debt ∧
      ∀ row ∈ payment.debt, row.covered = result.giftCard + onSales basket rate account := by
  unfold settleBasket at done
  rw [allocateBasketAccountDebt_eq basket positive nonneg owes] at done
  dsimp only at done
  split_ifs at done with some
  · cases client : basket.clientId with
    | none =>
      rw [client] at done
      cases done
    | some clientId =>
      rw [client] at done
      obtain rfl := Except.ok.inj done
      refine ⟨rfl, rfl, fun row isRow => ?_⟩
      obtain rfl := Option.some.inj isRow
      rfl
  · obtain rfl := Except.ok.inj done
    have none : result.debt = 0 := by
      rw [not_or, not_lt, not_lt] at some
      have debtNonneg (currency : CoverageCurrency) : 0 ≤ result.debt currency := by
        rw [owes]
        exact add_nonneg (giftNonneg currency) (nonneg currency)
      funext currency
      cases currency with
      | usd => exact le_antisymm some.1 (debtNonneg .usd)
      | lbp => exact le_antisymm some.2 (debtNonneg .lbp)
    exact ⟨rfl, none.symm, nofun⟩

/-- What holds of the gift cards of a basket that is paid. -/
structure PaidByCards (toUpperCase : String → String) (isDrawerAffectingMethod : String → Bool) (basket : SessionBasket)
    (legs : List BasketPaymentLeg) (rate : ℚ) (s s' : Store) (payment : BasketPayment)
    (redeemed : List (Nat × VoucherEntity)) : Prop where
  vouchers : Redeemed s s' (codesOf toUpperCase legs) redeemed
  once : (codesOf toUpperCase legs).Nodup
  share : payment.result.giftCard = totalOf giftPart legs
  cover : ∀ row ∈ payment.debt,
    row.covered = payment.result.giftCard + onSales basket rate (accountTotal isDrawerAffectingMethod legs)
  worth : WorthVouchers toUpperCase rate s legs → valueAt rate payment.result.giftCard ≤ valueAt rate (faces redeemed)
  debt : bookedDebt payment = totalOf giftPart legs + accountTotal isDrawerAffectingMethod legs
  accounts : onAccounts s' + bookedDebt payment - onAccounts s =
    bookedDebt payment - faces redeemed - totalOf (creditPart isDrawerAffectingMethod) legs

theorem giftPart_nonneg (leg : BasketPaymentLeg) (currency : CoverageCurrency) : 0 ≤ giftPart leg currency := by
  unfold giftPart
  split_ifs
  · exact counted_nonneg leg currency
  · exact le_rfl

/-- A basket that is paid redeems each voucher named once, books what the lines put on the account, and credits the face
values. -/
theorem payBasket_byCards {legs : List BasketPaymentLeg} {exchangeRate : ℚ} {s s' : Store} {payment : BasketPayment}
    (issued : Issued s)
    (done : payBasket toUpperCase isDrawerAffectingMethod basket legs exchangeRate day s = .ok (s', payment)) :
    ∃ redeemed, PaidByCards toUpperCase isDrawerAffectingMethod basket legs (usableRate exchangeRate) s s' payment redeemed := by
  have positive : 0 < usableRate exchangeRate := by
    unfold usableRate
    split_ifs with isRate
    · exact isRate
    · exact one_pos
  obtain ⟨⟨_, result⟩, posted, settled⟩ := bind_ok done
  obtain ⟨_, booking, same⟩ := map_ok settled
  obtain ⟨rfl, rfl⟩ := Prod.mk.inj same
  obtain ⟨redeemed, vouchers, accounts⟩ := checkoutLegs_posted issued posted
  obtain ⟨giftCard, debt⟩ := checkoutLegs_amounts posted
  have share : result.giftCard = totalOf giftPart legs := giftCard.trans (zero_add _)
  have debt : result.debt = totalOf giftPart legs + accountTotal isDrawerAffectingMethod legs :=
    debt.trans (congrArg (· + _) (zero_add _))
  have giftNonneg (currency : CoverageCurrency) : 0 ≤ result.giftCard currency := by
    rw [share]
    exact List.sum_nonneg (List.forall_mem_map.mpr fun leg _ => giftPart_nonneg leg currency)
  obtain ⟨sameResult, booked, cover⟩ := settleBasket_amounts positive (accountTotal_nonneg isDrawerAffectingMethod legs) giftNonneg
    (debt.trans (congrArg (· + _) share.symm)) (mapError_ok booking)
  refine ⟨redeemed, vouchers, vouchers.nodup issued, ?_, ?_, fun worth => ?_, booked.trans debt, ?_⟩
  · rw [sameResult, share]
  · rw [sameResult]
    exact cover
  · rw [sameResult, share]
    exact giftShare_le positive issued vouchers worth
  · funext currency
    simp only [Pi.add_apply, Pi.sub_apply]
    rw [accounts]
    ring

theorem checkoutLegs_recorded {legs : List BasketPaymentLeg} {s s' : Store} {result final : RecordBasketPaymentResult}
    (done : checkoutLegs toUpperCase isDrawerAffectingMethod basket day (s, result) legs = .ok (s', final)) :
    recordLegs isDrawerAffectingMethod basket.clientId result legs = .ok final := by
  induction legs generalizing s result with
  | nil => exact congrArg Except.ok (Prod.mk.inj (Except.ok.inj done)).2
  | cons leg rest ih =>
    obtain ⟨⟨s₁, next⟩, done, others⟩ := bind_ok done
    rw [recordLegs, (checkoutLeg_ok done).1]
    exact ih others

/-- The payment is the one of the checkout. -/
theorem payBasket_payment {legs : List BasketPaymentLeg} {exchangeRate : ℚ} {s s' : Store} {payment : BasketPayment}
    (done : payBasket toUpperCase isDrawerAffectingMethod basket legs exchangeRate day s = .ok (s', payment)) :
    recordBasketPayment isDrawerAffectingMethod basket legs exchangeRate = .ok payment := by
  obtain ⟨⟨_, result⟩, posted, settled⟩ := bind_ok done
  obtain ⟨_, booking, same⟩ := map_ok settled
  obtain ⟨rfl, rfl⟩ := Prod.mk.inj same
  rw [recordBasketPayment, checkoutLegs_recorded posted]
  exact mapError_ok booking

end

/-- A shop that has sold one voucher of $10. -/
def oneVoucher : Store where
  vouchers := ⟨[some { code := "GIFT-A3F9-K2M1", clientId := 1, amount := 10, currencyCode := .usd, expiryDate := none }]⟩

def cardLeg (amount : ℚ) : BasketPaymentLeg where
  method := giftCardMethod
  currencyCode := "USD"
  amount := amount
  voucherCode := "GIFT-A3F9-K2M1"

theorem oneVoucher_issued : Issued oneVoucher where
  codes v w a b inV inW _ := by
    have only : ∀ id row, oneVoucher.vouchers.get id = some row → id = 0
      | 0, _, _ => rfl
    rw [only v a inV, only w b inW]
  positive v a inV := by
    obtain rfl := Table.get_only inV
    decide

theorem payBasket_byCards_tenDollars :
    ∃ s' payment redeemed, payBasket id cashOnly caseAndRecharge [cardLeg 10] 89500 0 oneVoucher = .ok (s', payment) ∧
      PaidByCards id cashOnly caseAndRecharge [cardLeg 10] (usableRate 89500) oneVoucher s' payment redeemed := by
  rcases paid : payBasket id cashOnly caseAndRecharge [cardLeg 10] 89500 0 oneVoucher with refused | ⟨s', payment⟩
  · have accepted : (payBasket id cashOnly caseAndRecharge [cardLeg 10] 89500 0 oneVoucher).toOption.isSome = true := by
      decide +kernel
    rw [paid] at accepted
    cases accepted
  · obtain ⟨redeemed, byCards⟩ := payBasket_byCards oneVoucher_issued paid
    exact ⟨s', payment, redeemed, rfl, byCards⟩

/-- A line of nothing leaves its voucher; change on the account is no face value; and a line of $40 with the voucher of $10
covers $40. -/
theorem payBasket_otherwise :
    (payBasket id cashOnly caseAndRecharge [cardLeg 0] 89500 0 oneVoucher).toOption.map (fun paid => paid.1.vouchers) =
      some oneVoucher.vouchers ∧
    (payBasket id cashOnly caseAndRecharge [{ method := "CUSTOMER_ACCOUNT", currencyCode := "USD", amount := 5, isOut := true }]
        89500 0 oneVoucher).toOption.map (fun paid => (onAccounts paid.1 .usd, bookedDebt paid.2 .usd, paid.1.vouchers)) =
      some (-5, 0, oneVoucher.vouchers) ∧
    (payBasket id cashOnly caseAndRecharge [cardLeg 40] 89500 0 oneVoucher).toOption.map (fun paid =>
        (paid.2.debt.map fun row => row.covered .usd, paid.2.result.giftCard .usd, onAccounts paid.1 .usd)) =
      some (some 40, 40, -10) := by
  refine ⟨?_, ?_, ?_⟩ <;> decide +kernel

end Liratek.Basket.GiftCards
