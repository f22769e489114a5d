import Liratek.Lib.SqlLike
import Mathlib.Algebra.BigOperators.Group.List.Basic
import Mathlib.Data.Rat.Floor
import Mathlib.Tactic.Linarith

/-! Which payment rows are customer cash: the rule of the reports and the rule of the refunds. -/

namespace Liratek.Refund.CustomerCash
open Lib.SqlLike

structure PaymentRow where
  method : String
  drawerName : String
  currencyCode : String
  /-- + into the drawer, − out of it -/
  amount : ℚ
  note : Option String
  deriving DecidableEq, Repr

/-- Marker methods of rows that are not the customer's. -/
def internalLegMethods : List String :=
  ["COMMISSION", "PM_FEE", "TRANSFER", "DRAWER_TRANSFER", "RESERVE", "OMT_APP", "WHISH_APP", "CREDIT_RETURN",
    "CREDIT_USED", "SMS_COST", "LINE_CREDIT", "CHECKPOINT_RESOLUTION"]

def providerStockDrawers : List String :=
  ["MTC", "Alfa", "Katsh", "iPick"]

def customerCashCurrencies : List String :=
  ["USD", "LBP"]

def binanceDrawerName : String :=
  "Binance"

/-! As the code of the refunds reads a row. -/

def startsWith (text start : String) : Bool :=
  start.toList.isPrefixOf text.toList

def endsWith (text ending : String) : Bool :=
  ending.toList.isSuffixOf text.toList

/-- `p.note ?? ""` -/
def PaymentRow.noteText (p : PaymentRow) : String :=
  p.note.getD ""

def isBinancePaidLeg (p : PaymentRow) : Bool :=
  p.method = "BINANCE" && p.drawerName = binanceDrawerName && p.currencyCode = "USDT" && !startsWith p.noteText "Crypto "

def isInternalLegJs (p : PaymentRow) : Bool :=
  p.amount = 0 || internalLegMethods.contains p.method || providerStockDrawers.contains p.drawerName ||
    (!customerCashCurrencies.contains p.currencyCode && !isBinancePaidLeg p) ||
    startsWith p.noteText "Cost:" || endsWith p.noteText "(cost outflow)" || startsWith p.noteText "Crypto "

inductive LegDirection where
  | moneyIn | moneyOut
  deriving DecidableEq, Repr

structure TransactionPaymentLeg where
  direction : LegDirection
  amount : ℚ
  signedAmount : ℚ
  currencyCode : String
  method : String
  deriving DecidableEq, Repr

/-- `toLeg`, `paymentRowsToLegs`: the legs of the in/out column and of the refund sheet -/
def paymentRowsToLegs (rows : List PaymentRow) : List TransactionPaymentLeg :=
  rows.filterMap fun p =>
    if isInternalLegJs p then none
    else some {
      direction := if p.amount < 0 then .moneyOut else .moneyIn
      amount := |p.amount|
      signedAmount := p.amount
      currencyCode := p.currencyCode
      method := p.method }

/-! As the query of the reports reads a row. -/

/-- `COALESCE(note, '') LIKE pattern` -/
def PaymentRow.noteLike (p : PaymentRow) (pattern : String) : Bool :=
  like pattern.toList p.noteText.toList

def binancePaidLegSql (p : PaymentRow) : Bool :=
  p.method = "BINANCE" && p.drawerName = binanceDrawerName && p.currencyCode = "USDT" && !p.noteLike "Crypto %"

def customerCashLegSql (p : PaymentRow) : Bool :=
  p.amount ≠ 0 && !internalLegMethods.contains p.method && !providerStockDrawers.contains p.drawerName &&
    (customerCashCurrencies.contains p.currencyCode || binancePaidLegSql p) &&
    !p.noteLike "Cost:%" && !p.noteLike "%(cost outflow)" && !p.noteLike "Crypto %"

/-- `ROUND(x, 2)`: halves away from zero -/
def round2 (x : ℚ) : ℚ :=
  if x < 0 then -(⌊-x * 100 + 1 / 2⌋ / 100) else ⌊x * 100 + 1 / 2⌋ / 100

structure CashFlowRow where
  totalIn : ℚ
  totalOut : ℚ
  deriving DecidableEq, Repr

/-- The report's row of one day and one currency. -/
def cashFlow (rows : List PaymentRow) (currency : String) : CashFlowRow :=
  let counted := rows.filter fun p =>
    customerCashLegSql p && customerCashCurrencies.contains p.currencyCode && p.currencyCode = currency
  { totalIn := round2 (counted.map fun p => if 0 < p.amount then p.amount else 0).sum
    totalOut := round2 (counted.map fun p => if p.amount < 0 then -p.amount else 0).sum }

/-! The two rules. -/

/-- Internal without a look at the note. -/
def markedInternal (p : PaymentRow) : Bool :=
  p.amount = 0 || internalLegMethods.contains p.method || providerStockDrawers.contains p.drawerName

/-- The note marks the row in the letters of the rule. -/
def noteMarks (p : PaymentRow) : Bool :=
  startsWith p.noteText "Cost:" || endsWith p.noteText "(cost outflow)" || startsWith p.noteText "Crypto "

/-- The note marks the row if no one minds upper and lower case. -/
def NoteMarksAnyCase (p : PaymentRow) : Prop :=
  fold "Cost:".toList <+: fold p.noteText.toList ∨ fold "(cost outflow)".toList <:+ fold p.noteText.toList ∨
    fold "Crypto ".toList <+: fold p.noteText.toList

theorem startsWith_iff {text start : String} : startsWith text start = true ↔ start.toList <+: text.toList :=
  List.isPrefixOf_iff_prefix

theorem endsWith_iff {text ending : String} : endsWith text ending = true ↔ ending.toList <:+ text.toList :=
  List.isSuffixOf_iff_suffix

theorem noteMarks_anyCase {p : PaymentRow} (marks : noteMarks p = true) : NoteMarksAnyCase p := by
  simp only [noteMarks, Bool.or_eq_true, startsWith_iff, endsWith_iff] at marks
  rcases marks with (cost | outflow) | crypto
  · exact .inl (fold_start cost)
  · exact .inr (.inl (fold_end outflow))
  · exact .inr (.inr (fold_start crypto))

theorem noteLike_iff (p : PaymentRow) : (p.noteLike "Cost:%" = true ∨ p.noteLike "%(cost outflow)" = true ∨
    p.noteLike "Crypto %" = true) ↔ NoteMarksAnyCase p :=
  or_congr (like_start "Cost:".toList (by simp [Literal]) _)
    (or_congr (like_end "(cost outflow)".toList (by simp [Literal]) _) (like_start "Crypto ".toList (by simp [Literal]) _))

/-- A note that marks the row does so in the letters of the rule, or the row is internal anyway. -/
def Cased (p : PaymentRow) : Prop :=
  markedInternal p = true ∨ (NoteMarksAnyCase p → noteMarks p = true)

section
variable {p : PaymentRow}

theorem isInternalLegJs_cash (cash : customerCashCurrencies.contains p.currencyCode = true) :
    isInternalLegJs p = (markedInternal p || noteMarks p) := by
  unfold isInternalLegJs markedInternal noteMarks
  rw [cash, Bool.not_true, Bool.false_and, Bool.or_false]
  simp only [Bool.or_assoc]

theorem customerCashLegSql_cash (cash : customerCashCurrencies.contains p.currencyCode = true) :
    customerCashLegSql p = true ↔ markedInternal p = false ∧ ¬NoteMarksAnyCase p := by
  rw [← noteLike_iff]
  simp only [customerCashLegSql, markedInternal, cash, Bool.true_or, Bool.and_true, Bool.and_eq_true, Bool.or_eq_false_iff,
    Bool.not_eq_true', decide_eq_true_eq, decide_eq_false_iff_not, ne_eq, not_or, Bool.not_eq_true, and_assoc]

/-- The rules agree on a row exactly when the case of its note decides nothing. -/
theorem rules_agree (cash : customerCashCurrencies.contains p.currencyCode = true) :
    customerCashLegSql p = (!isInternalLegJs p) ↔ Cased p := by
  rw [Bool.eq_iff_iff, customerCashLegSql_cash cash, isInternalLegJs_cash cash]
  unfold Cased
  cases internal : markedInternal p with
  | true => simp
  | false =>
    cases marks : noteMarks p with
    | true =>
      have any : NoteMarksAnyCase p := noteMarks_anyCase marks
      simp [any]
    | false => simp

end

/-! The totals of the report and of the legs. -/

def legTotal (direction : LegDirection) (rows : List PaymentRow) (currency : String) : ℚ :=
  (((paymentRowsToLegs rows).filter fun leg => leg.currencyCode = currency && leg.direction = direction).map (·.amount)).sum

def countedIn (currency : String) (p : PaymentRow) : ℚ :=
  if isInternalLegJs p = false ∧ p.currencyCode = currency ∧ 0 < p.amount then p.amount else 0

def countedOut (currency : String) (p : PaymentRow) : ℚ :=
  if isInternalLegJs p = false ∧ p.currencyCode = currency ∧ p.amount < 0 then -p.amount else 0

theorem legTotal_cons (direction : LegDirection) (p : PaymentRow) (rest : List PaymentRow) (currency : String) :
    legTotal direction (p :: rest) currency = legTotal direction [p] currency + legTotal direction rest currency := by
  have split : paymentRowsToLegs (p :: rest) = paymentRowsToLegs [p] ++ paymentRowsToLegs rest :=
    List.filterMap_append (l := [p])
  rw [legTotal, split, List.filter_append, List.map_append, List.sum_append]
  rfl

theorem legTotal_in (p : PaymentRow) (currency : String) : legTotal .moneyIn [p] currency = countedIn currency p := by
  unfold legTotal paymentRowsToLegs countedIn
  cases internal : isInternalLegJs p with
  | true => simp [internal]
  | false =>
    by_cases here : p.currencyCode = currency
    · rcases lt_trichotomy p.amount 0 with less | none | more
      · simp [internal, less, less.le]
      · simp [internal, none, here]
      · simp [internal, more, more.le, here, abs_of_pos more]
    · simp [internal, here]

theorem legTotal_out (p : PaymentRow) (currency : String) : legTotal .moneyOut [p] currency = countedOut currency p := by
  unfold legTotal paymentRowsToLegs countedOut
  cases internal : isInternalLegJs p with
  | true => simp [internal]
  | false =>
    by_cases here : p.currencyCode = currency
    · rcases lt_or_ge p.amount 0 with less | more
      · simp [internal, less, here, abs_of_neg less]
      · simp [internal, more.not_gt]
    · simp [internal, here]

theorem legTotal_in_sum (rows : List PaymentRow) (currency : String) :
    legTotal .moneyIn rows currency = (rows.map (countedIn currency)).sum := by
  induction rows with
  | nil => rfl
  | cons p rest ih => rw [legTotal_cons, legTotal_in, ih, List.map_cons, List.sum_cons]

theorem legTotal_out_sum (rows : List PaymentRow) (currency : String) :
    legTotal .moneyOut rows currency = (rows.map (countedOut currency)).sum := by
  induction rows with
  | nil => rfl
  | cons p rest ih => rw [legTotal_cons, legTotal_out, ih, List.map_cons, List.sum_cons]

/-- What the report counts of rows on which the rules agree. -/
theorem counted_sum {rows : List PaymentRow} (cash : ∀ p ∈ rows, customerCashCurrencies.contains p.currencyCode = true)
    (agree : ∀ p ∈ rows, customerCashLegSql p = !isInternalLegJs p) (currency : String) (f : PaymentRow → ℚ) :
    ((rows.filter fun p => customerCashLegSql p && customerCashCurrencies.contains p.currencyCode &&
        p.currencyCode = currency).map f).sum =
      (rows.map fun p => if isInternalLegJs p = false ∧ p.currencyCode = currency then f p else 0).sum := by
  induction rows with
  | nil => rfl
  | cons p rest ih =>
    obtain ⟨cashHere, cashRest⟩ := List.forall_mem_cons.mp cash
    obtain ⟨here, others⟩ := List.forall_mem_cons.mp agree
    rw [List.filter_cons, here, cashHere, List.map_cons, List.sum_cons, ← ih cashRest others]
    cases isInternalLegJs p with
    | true => simp
    | false => by_cases same : p.currencyCode = currency <;> simp [same]

theorem cashFlow_agrees {rows : List PaymentRow} (cash : ∀ p ∈ rows, customerCashCurrencies.contains p.currencyCode = true)
    (agree : ∀ p ∈ rows, customerCashLegSql p = !isInternalLegJs p) (currency : String) :
    cashFlow rows currency =
      { totalIn := round2 (legTotal .moneyIn rows currency), totalOut := round2 (legTotal .moneyOut rows currency) } := by
  unfold cashFlow
  dsimp only
  rw [counted_sum cash agree, counted_sum cash agree, legTotal_in_sum, legTotal_out_sum]
  congr 3
  · apply List.map_congr_left
    intro p _
    unfold countedIn
    split_ifs <;> simp_all
  · apply List.map_congr_left
    intro p _
    unfold countedOut
    split_ifs <;> simp_all

/-- The report and the refund take the same rows for customer cash, and their totals agree. -/
structure RulesAgree (rows : List PaymentRow) : Prop where
  perRow : ∀ p ∈ rows, customerCashLegSql p = !isInternalLegJs p
  totals : ∀ currency, cashFlow rows currency =
    { totalIn := round2 (legTotal .moneyIn rows currency), totalOut := round2 (legTotal .moneyOut rows currency) }

/-- They agree exactly on rows whose notes are written in the letters of the rule, or not marked at all. -/
theorem customerCash_agrees (rows : List PaymentRow)
    (cash : ∀ p ∈ rows, customerCashCurrencies.contains p.currencyCode = true) :
    RulesAgree rows ↔ ∀ p ∈ rows, Cased p := by
  constructor
  · intro agree p member
    exact (rules_agree (cash p member)).mp (agree.perRow p member)
  · intro cased
    have agree : ∀ p ∈ rows, customerCashLegSql p = !isInternalLegJs p :=
      fun p member => (rules_agree (cash p member)).mpr (cased p member)
    exact ⟨agree, cashFlow_agrees cash agree⟩

/-- A supplier paid $50 in cash, with a note typed in small letters. -/
def typedNote : PaymentRow where
  method := "CASH"
  drawerName := "General"
  currencyCode := "USD"
  amount := -50
  note := some "crypto top up"

/-- A sale, the cost of a repair, a change and a top-up of the crypto drawer. -/
def casedNotes : List PaymentRow :=
  [{ method := "CASH", drawerName := "General", currencyCode := "USD", amount := 50, note := some "Sale payment" },
    { method := "CASH", drawerName := "General", currencyCode := "USD", amount := -20, note := some "Cost: screen" },
    { method := "CASH", drawerName := "General", currencyCode := "LBP", amount := -90000, note := none },
    { method := "CASH", drawerName := "General", currencyCode := "USD", amount := -30, note := some "Crypto top up" }]

theorem customerCash_agrees_plain : RulesAgree casedNotes := by
  refine (customerCash_agrees casedNotes (by decide +kernel)).mpr fun p member => ?_
  have marks : NoteMarksAnyCase p → noteMarks p = true := by
    revert p
    unfold NoteMarksAnyCase
    decide +kernel
  exact .inr marks

/-- The refund sheet shows the $50 as customer cash, the report leaves it out. -/
theorem typedNote_differs : isInternalLegJs typedNote = false ∧ customerCashLegSql typedNote = false ∧
    legTotal .moneyOut [typedNote] "USD" = 50 ∧ (cashFlow [typedNote] "USD").totalOut = 0 := by
  decide +kernel

end Liratek.Refund.CustomerCash
