import Liratek.Till.Spillover
import Mathlib.Data.String.Basic

/-! Matching conserves value, uses up what is left, and depends on neither order nor rates where it need not. -/

namespace Liratek.Till.Matching
open Allocate Spillover
open Lib (Entries)
open Lib.Entries

variable {κ : Type} [LinearOrder κ]

/-! The native pass. -/

section
variable (owed paid : Entries κ ℚ)

def owes (c : κ) : ℚ :=
  max 0 (owed.amount c - paid.amount c)

def spare (c : κ) : ℚ :=
  max 0 (paid.amount c - owed.amount c)

theorem apart (c : κ) : owes owed paid c = 0 ∨ spare owed paid c = 0 := by
  rcases le_total (owed.amount c) (paid.amount c) with less | more
  · exact .inl (max_eq_left (sub_nonpos.mpr less))
  · exact .inr (max_eq_left (sub_nonpos.mpr more))

/-- What the pass has done after some of the currencies. -/
structure Netted (done : List κ) (sides : Sides κ) : Prop where
  remaining : ∀ c, sides.remaining.get c = if c ∈ done ∧ 0 < owed.amount c - paid.amount c then
    some (owed.amount c - paid.amount c) else none
  excess : ∀ c, sides.excess.get c = if c ∈ done ∧ owed.amount c - paid.amount c < 0 then
    some (-(owed.amount c - paid.amount c)) else none
  value : ∀ unit : κ → ℚ, sides.remaining.total (worth unit) - sides.excess.total (worth unit) =
    (done.map fun c => worth unit c (owed.amount c - paid.amount c)).sum

variable {owed paid} {done : List κ} {sides : Sides κ} {c : κ}

theorem Netted.step (netted : Netted owed paid done sides) (fresh : c ∉ done) :
    Netted owed paid (done ++ [c]) (netInto owed paid sides c) := by
  have noRemaining : sides.remaining.amount c = 0 := by rw [amount, netted.remaining, if_neg fun h => fresh h.1, Option.getD_none]
  have noExcess : sides.excess.amount c = 0 := by rw [amount, netted.excess, if_neg fun h => fresh h.1, Option.getD_none]
  unfold netInto
  dsimp only
  split_ifs with more less
  · refine ⟨fun k => ?_, fun k => ?_, fun unit => ?_⟩
    · rw [get_set, netted.remaining]
      by_cases same : c = k
      · subst same
        simp [more]
      · simp [same, Ne.symm same]
    · rw [netted.excess]
      by_cases same : c = k
      · subst same
        simp [fresh, (sub_pos.mp more).le]
      · simp [Ne.symm same]
    · rw [List.map_append, List.sum_append, ← netted.value, total_set, noRemaining]
      simp
      ring
  · refine ⟨fun k => ?_, fun k => ?_, fun unit => ?_⟩
    · rw [netted.remaining]
      by_cases same : c = k
      · subst same
        simp [fresh, (sub_neg.mp less).le]
      · simp [Ne.symm same]
    · rw [get_set, netted.excess]
      by_cases same : c = k
      · subst same
        simp [less]
      · simp [same, Ne.symm same]
    · rw [List.map_append, List.sum_append, ← netted.value, total_set, noExcess]
      simp only [sub_zero, map_neg, List.map_cons, List.map_nil, List.sum_cons, List.sum_nil]
      ring
  · have zero : owed.amount c - paid.amount c = 0 := le_antisymm (not_lt.mp more) (not_lt.mp less)
    refine ⟨fun k => ?_, fun k => ?_, fun unit => ?_⟩
    · rw [netted.remaining]
      by_cases same : c = k
      · subst same
        simp [zero]
      · simp [Ne.symm same]
    · rw [netted.excess]
      by_cases same : c = k
      · subst same
        simp [zero]
      · simp [Ne.symm same]
    · rw [List.map_append, List.sum_append, ← netted.value, List.map_cons, zero, map_zero]
      simp

theorem netted_nil : Netted owed paid [] { remaining := .empty, excess := .empty } where
  remaining c := by simp
  excess c := by simp
  value unit := by simp [total, empty]

theorem Netted.fold {ks : List κ} (netted : Netted owed paid done sides) (distinct : (done ++ ks).Nodup) :
    Netted owed paid (done ++ ks) (ks.foldl (netInto owed paid) sides) := by
  induction ks generalizing done sides with
  | nil => rwa [List.append_nil]
  | cons c rest ih =>
    have fresh : c ∉ done := fun member => (List.nodup_append.mp distinct).2.2 c member c List.mem_cons_self rfl
    rw [List.append_cons] at distinct ⊢
    exact ih (netted.step fresh) distinct

variable (owed paid) in
/-- The currencies that the pass works through. -/
def codes : List κ :=
  owed.keys ++ paid.keys.filter fun c => !owed.keys.contains c

theorem codes_distinct : (codes owed paid).Nodup := by
  refine List.nodup_append.mpr ⟨owed.keys_distinct, paid.keys_distinct.filter _, ?_⟩
  rintro c member _ inside rfl
  simp [member] at inside

theorem owed_codes : ∀ c ∈ owed.keys, c ∈ codes owed paid :=
  fun _ member => List.mem_append_left _ member

theorem paid_codes : ∀ c ∈ paid.keys, c ∈ codes owed paid := by
  intro c member
  by_cases known : c ∈ owed.keys
  · exact owed_codes c known
  · exact List.mem_append_right _ (List.mem_filter.mpr ⟨member, by simpa using known⟩)

theorem nativePass_netted : Netted owed paid (codes owed paid) (nativePass owed paid) :=
  (netted_nil : Netted owed paid [] _).fold codes_distinct

theorem mem_codes (some' : owed.amount c - paid.amount c ≠ 0) : c ∈ codes owed paid := by
  by_cases known : owed.amount c = 0
  · exact paid_codes c (mem_keys_of_amount fun none => some' (by rw [known, none, sub_zero]))
  · exact owed_codes c (mem_keys_of_amount known)

theorem nativePass_remaining (c : κ) : (nativePass owed paid).remaining.get c =
    if 0 < owed.amount c - paid.amount c then some (owed.amount c - paid.amount c) else none := by
  rw [nativePass_netted.remaining]
  by_cases more : 0 < owed.amount c - paid.amount c
  · rw [if_pos ⟨mem_codes more.ne', more⟩, if_pos more]
  · rw [if_neg fun h => more h.2, if_neg more]

theorem nativePass_excess (c : κ) : (nativePass owed paid).excess.get c =
    if owed.amount c - paid.amount c < 0 then some (-(owed.amount c - paid.amount c)) else none := by
  rw [nativePass_netted.excess]
  by_cases less : owed.amount c - paid.amount c < 0
  · rw [if_pos ⟨mem_codes less.ne, less⟩, if_pos less]
  · rw [if_neg fun h => less h.2, if_neg less]

/-- No rate is asked: what a currency owes and spares are its own totals and payments. -/
theorem nativePass_owes (c : κ) : (nativePass owed paid).remaining.amount c = owes owed paid c := by
  rw [amount, nativePass_remaining, owes]
  split_ifs with more
  · exact (max_eq_right more.le).symm
  · exact (max_eq_left (not_lt.mp more)).symm

theorem nativePass_spare (c : κ) : (nativePass owed paid).excess.amount c = spare owed paid c := by
  rw [amount, nativePass_excess, spare]
  split_ifs with less
  · rw [Option.getD_some, neg_sub, max_eq_right]
    linarith
  · rw [Option.getD_none, max_eq_left]
    linarith

theorem nativePass_value (unit : κ → ℚ) :
    (nativePass owed paid).remaining.total (worth unit) - (nativePass owed paid).excess.total (worth unit) =
      owed.total (worth unit) - paid.total (worth unit) := by
  have allOwed : ∀ c ∈ owed.keys, c ∈ codes owed paid := owed_codes
  have allPaid : ∀ c ∈ paid.keys, c ∈ codes owed paid := paid_codes
  rw [nativePass_netted.value, ← owed.sum_amount codes_distinct allOwed, ← paid.sum_amount codes_distinct allPaid]
  induction codes owed paid with
  | nil => simp
  | cons c rest ih =>
    rw [List.map_cons, List.map_cons, List.map_cons, List.sum_cons, List.sum_cons, List.sum_cons, ih, map_sub]
    ring

theorem nativePass_kept (unit : κ → ℚ) : Kept unit (owes owed paid) (spare owed paid)
    (owed.total (worth unit) - paid.total (worth unit))
    { remaining := (nativePass owed paid).remaining, excess := (nativePass owed paid).excess, applied := [] } where
  apart := apart owed paid
  remaining_nonneg c := (nativePass_owes c).symm ▸ le_max_left _ _
  excess_nonneg c := (nativePass_spare c).symm ▸ le_max_left _ _
  brought c := (add_zero _).trans (nativePass_owes c)
  taken c := (add_zero _).trans (nativePass_spare c)
  valid _ member := by cases member
  value := nativePass_value unit

/-- Only currencies that do not come out even are priced. -/
theorem nativePass_keys : (c ∈ (nativePass owed paid).remaining.keys → owed.amount c ≠ paid.amount c) ∧
    (c ∈ (nativePass owed paid).excess.keys → owed.amount c ≠ paid.amount c) := by
  constructor
  · intro member same
    obtain ⟨v, here⟩ := mem_keys.mp member
    simp [nativePass_remaining, same] at here
  · intro member same
    obtain ⟨v, here⟩ := mem_keys.mp member
    simp [nativePass_excess, same] at here

end

theorem nativePass_alike {owed owed' paid paid' : Entries κ ℚ} (sameOwed : ∀ c, owed.amount c = owed'.amount c)
    (samePaid : ∀ c, paid.amount c = paid'.amount c) :
    Alike (nativePass owed paid).remaining (nativePass owed' paid').remaining ∧
      Alike (nativePass owed paid).excess (nativePass owed' paid').excess := by
  constructor
  · intro c
    rw [nativePass_remaining, nativePass_remaining, sameOwed, samePaid]
  · intro c
    rw [nativePass_excess, nativePass_excess, sameOwed, samePaid]

/-! Amounts per currency. -/

/-- What a list of amounts holds in one currency. -/
def amountIn (items : List (Money κ)) (c : κ) : ℚ :=
  (items.map fun m => if m.currency = c then m.amount else 0).sum

/-- What a list of amounts is worth in base. -/
def valueOf (unit : κ → ℚ) (items : List (Money κ)) : ℚ :=
  (items.map fun m => m.amount / unit m.currency).sum

theorem amountIn_cons (m : Money κ) (rest : List (Money κ)) (c : κ) :
    amountIn (m :: rest) c = (if m.currency = c then m.amount else 0) + amountIn rest c := rfl

omit [LinearOrder κ] in
theorem valueOf_cons (unit : κ → ℚ) (m : Money κ) (rest : List (Money κ)) :
    valueOf unit (m :: rest) = m.amount / unit m.currency + valueOf unit rest := rfl

def addTo (m : Entries κ ℚ) (item : Money κ) : Entries κ ℚ :=
  m.set item.currency (m.amount item.currency + item.amount)

def sums (items : List (Money κ)) : Entries κ ℚ :=
  items.foldl addTo .empty

theorem consolidate_ok {items : List (Money κ)} (nonneg : ∀ m ∈ items, 0 ≤ m.amount) (label : String) :
    consolidate items label = .ok (sums items) := by
  unfold consolidate sums
  generalize (empty : Entries κ ℚ) = start
  induction items generalizing start with
  | nil => rfl
  | cons m rest ih =>
    obtain ⟨first, others⟩ := List.forall_mem_cons.mp nonneg
    rw [Lib.Calls.each, addAmount, if_neg (not_lt.mpr first)]
    exact ih others _

theorem foldl_amount (items : List (Money κ)) (start : Entries κ ℚ) (c : κ) :
    (items.foldl addTo start).amount c = start.amount c + amountIn items c := by
  induction items generalizing start with
  | nil => exact (add_zero _).symm
  | cons m rest ih =>
    rw [List.foldl_cons, ih, addTo, amount_set, amountIn_cons]
    split_ifs with same
    · rw [same, add_assoc]
    · rw [zero_add]

theorem sums_amount (items : List (Money κ)) (c : κ) : (sums items).amount c = amountIn items c :=
  (foldl_amount items .empty c).trans (zero_add _)

theorem foldl_value (items : List (Money κ)) (start : Entries κ ℚ) (unit : κ → ℚ) :
    (items.foldl addTo start).total (worth unit) = start.total (worth unit) + valueOf unit items := by
  induction items generalizing start with
  | nil => exact (add_zero _).symm
  | cons m rest ih =>
    rw [List.foldl_cons, ih, addTo, total_set, add_sub_cancel_left, worth_apply, valueOf_cons, add_assoc]

theorem sums_value (items : List (Money κ)) (unit : κ → ℚ) : (sums items).total (worth unit) = valueOf unit items := by
  refine (foldl_value items .empty unit).trans ?_
  simp [total, empty]

/-- The order of the items says nothing. -/
theorem amountIn_perm {items items' : List (Money κ)} (perm : items.Perm items') (c : κ) : amountIn items c = amountIn items' c :=
  (perm.map _).sum_eq

/-! The lists of the result. -/

/-- An entry as the result shows it. -/
def shown (round : Bool) (registry : CurrencyRegistry κ) (e : κ × ℚ) : Money κ :=
  if round then roundForCurrency { amount := e.2, currency := e.1 } registry else { amount := e.2, currency := e.1 }

omit [LinearOrder κ] in
theorem shown_currency (round : Bool) (registry : CurrencyRegistry κ) (e : κ × ℚ) : (shown round registry e).currency = e.1 := by
  cases round <;> rfl

instance : Std.Total fun a b : Money κ => a.currency ≤ b.currency where
  total a b := le_total a.currency b.currency

instance : IsTrans (Money κ) fun a b => a.currency ≤ b.currency where
  trans _ _ _ := le_trans

theorem finalize_perm (round : Bool) (registry : CurrencyRegistry κ) (m : Entries κ ℚ) :
    (finalize round registry m).Perm
      ((m.list.filter fun e => (currencyInfo e.1 registry).epsilon ≤ |e.2|).map (shown round registry)) :=
  List.perm_insertionSort _ _

/-- No currency is shown twice. -/
theorem shown_once {round : Bool} {registry : CurrencyRegistry κ} {m : Entries κ ℚ} {a b : Money κ}
    (here : a ∈ finalize round registry m) (also : b ∈ finalize round registry m) (same : a.currency = b.currency) : a = b := by
  obtain ⟨e, inside, rfl⟩ := List.mem_map.mp ((finalize_perm round registry m).subset here)
  obtain ⟨e', inside', rfl⟩ := List.mem_map.mp ((finalize_perm round registry m).subset also)
  rw [shown_currency, shown_currency] at same
  rw [List.inj_on_of_nodup_map m.distinct (List.mem_of_mem_filter inside) (List.mem_of_mem_filter inside') same]

theorem finalize_alike {round : Bool} {registry : CurrencyRegistry κ} {m m' : Entries κ ℚ} (alike : Alike m m') :
    finalize round registry m = finalize round registry m' := by
  have perm : (finalize round registry m).Perm (finalize round registry m') :=
    (finalize_perm round registry m).trans
      ((((perm_of_get alike).filter _).map _).trans (finalize_perm round registry m').symm)
  refine perm.eq_of_pairwise (fun a b here also le ge => ?_) (List.pairwise_insertionSort _ _) (List.pairwise_insertionSort _ _)
  exact shown_once here (perm.symm.subset also) (le_antisymm le ge)

/-! Without rounding and without a tolerance, the lists show the maps as they are. -/

section
variable {registry : CurrencyRegistry κ} {m : Entries κ ℚ}

theorem finalize_exact (exact' : ∀ c, (currencyInfo c registry).epsilon = 0) :
    (finalize false registry m).Perm (m.list.map fun e => { amount := e.2, currency := e.1 }) := by
  refine (finalize_perm false registry m).trans (List.Perm.of_eq ?_)
  have all : m.list.filter (fun e => (currencyInfo e.1 registry).epsilon ≤ |e.2|) = m.list := by
    rw [List.filter_eq_self]
    intro e _
    rw [exact' e.1]
    exact decide_eq_true (abs_nonneg e.2)
  rw [all]
  rfl

theorem finalize_amountIn (exact' : ∀ c, (currencyInfo c registry).epsilon = 0) (c : κ) :
    amountIn (finalize false registry m) c = m.amount c := by
  rw [amountIn_perm (finalize_exact exact') c]
  rw [amountIn, List.map_map]
  exact m.sum_here c

theorem finalize_value (exact' : ∀ c, (currencyInfo c registry).epsilon = 0) (unit : κ → ℚ) :
    valueOf unit (finalize false registry m) = m.total (worth unit) := by
  rw [valueOf, ((finalize_exact exact').map _).sum_eq, List.map_map]
  exact congrArg List.sum (List.map_congr_left fun e _ => (worth_apply unit e.1 e.2).symm)

end

/-! Matching at the till. -/

/-- What one call of `allocatePayments` does with its totals and payments. -/
structure Matches (unit : κ → ℚ) (totals payments : List (Money κ)) (result : AllocationResult κ) : Prop where
  value : valueOf unit totals - valueOf unit result.remaining = valueOf unit payments - valueOf unit result.change
  nonneg : (∀ m ∈ result.remaining, 0 ≤ m.amount) ∧ ∀ m ∈ result.change, 0 ≤ m.amount
  -- change is given only when nothing remains in any currency
  exhausted : (∃ m ∈ result.change, 0 < m.amount) → ∀ m ∈ result.remaining, m.amount = 0
  -- what the spillover starts from is each currency's own, whatever the rates
  brought : ∀ c, amountIn result.remaining c + broughtTo result.crossCurrencyApplied c =
    max 0 (amountIn totals c - amountIn payments c)
  taken : ∀ c, amountIn result.change c + takenFrom result.crossCurrencyApplied c =
    max 0 (amountIn payments c - amountIn totals c)
  exchanges : ∀ a ∈ result.crossCurrencyApplied, Exchanges unit a
  within : ∀ before a after, result.crossCurrencyApplied = before ++ a :: after →
    a.source.amount ≤ max 0 (amountIn payments a.source.currency - amountIn totals a.source.currency) -
        takenFrom before a.source.currency ∧
      a.target.amount ≤ max 0 (amountIn totals a.target.currency - amountIn payments a.target.currency) -
        broughtTo before a.target.currency

section
variable {unit : κ → ℚ} {input : AllocationInput κ}

theorem matches_of_kept {totals payments : List (Money κ)} {registry : CurrencyRegistry κ} {m : Matching κ}
    (exact' : ∀ c, (currencyInfo c registry).epsilon = 0)
    (kept : Kept unit (owes (sums totals) (sums payments)) (spare (sums totals) (sums payments))
      ((sums totals).total (worth unit) - (sums payments).total (worth unit)) m)
    (exhausted : (∃ c, 0 < m.excess.amount c) → ∀ c, m.remaining.amount c = 0) :
    Matches unit totals payments
      { remaining := finalize false registry m.remaining
        crossCurrencyApplied := m.applied
        change := finalize false registry m.excess } := by
  have listed {entries : Entries κ ℚ} {x : Money κ} (member : x ∈ finalize false registry entries) :
      entries.amount x.currency = x.amount := by
    obtain ⟨e, inside, rfl⟩ := List.mem_map.mp ((finalize_exact exact').subset member)
    exact amount_of_mem inside
  have native c : owes (sums totals) (sums payments) c = max 0 (amountIn totals c - amountIn payments c) := by
    rw [owes, sums_amount, sums_amount]
  have tender c : spare (sums totals) (sums payments) c = max 0 (amountIn payments c - amountIn totals c) := by
    rw [spare, sums_amount, sums_amount]
  refine ⟨?_, ⟨fun x member => ?_, fun x member => ?_⟩, ?_, fun c => ?_, fun c => ?_, kept.valid, fun before a after split => ?_⟩
  · have value := kept.value
    rw [sums_value, sums_value] at value
    rw [finalize_value exact', finalize_value exact']
    linarith
  · exact listed member ▸ kept.remaining_nonneg x.currency
  · exact listed member ▸ kept.excess_nonneg x.currency
  · rintro ⟨x, member, positive⟩ y here
    rw [← listed here]
    exact exhausted ⟨x.currency, (listed member).symm ▸ positive⟩ y.currency
  · rw [finalize_amountIn exact', kept.brought, native]
  · rw [finalize_amountIn exact', kept.taken, tender]
  · rw [← native, ← tender]
    exact kept.within split

/-- Every call with amounts from zero up matches its payments, in whatever order they are listed. Only currencies that
do not come out even need a rate. -/
theorem allocatePayments_matches (totals : ∀ m ∈ input.totals, 0 ≤ m.amount) (payments : ∀ m ∈ input.payments, 0 ≤ m.amount)
    (exact' : ∀ c, (currencyInfo c input.registry).epsilon = 0)
    (priced : ∀ c, amountIn input.totals c ≠ amountIn input.payments c →
      unitsPerBase c input.rates input.side = .ok (unit c)) :
    ∃ result, allocatePayments input false = .ok result ∧ Matches unit input.totals input.payments result ∧
      ∀ totals' payments', input.totals.Perm totals' → input.payments.Perm payments' →
        allocatePayments { input with totals := totals', payments := payments' } false = .ok result := by
  have uneven c (differ : (sums input.totals).amount c ≠ (sums input.payments).amount c) :
      Priced input.rates input.side unit c := by
    rw [sums_amount, sums_amount] at differ
    exact priced c differ
  have pricedRemaining c (member : c ∈ (nativePass (sums input.totals) (sums input.payments)).remaining.keys) :=
    uneven c (nativePass_keys.1 member)
  have pricedExcess c (member : c ∈ (nativePass (sums input.totals) (sums input.payments)).excess.keys) :=
    uneven c (nativePass_keys.2 member)
  have start : Kept unit (owes (sums input.totals) (sums input.payments)) (spare (sums input.totals) (sums input.payments)) _ _ :=
    nativePass_kept unit
  obtain ⟨m, done, kept, exhausted⟩ := spillover_kept pricedRemaining pricedExcess start
  refine ⟨_, ?_, matches_of_kept exact' kept exhausted, fun totals' payments' permTotals permPayments => ?_⟩
  · rw [allocatePayments, consolidate_ok totals, consolidate_ok payments]
    dsimp only [bind, Except.bind]
    rw [done]
    rfl
  · have same c : (sums input.totals).amount c = (sums totals').amount c := by
      rw [sums_amount, sums_amount, amountIn_perm permTotals]
    have samePaid c : (sums input.payments).amount c = (sums payments').amount c := by
      rw [sums_amount, sums_amount, amountIn_perm permPayments]
    obtain ⟨remaining, excess⟩ := nativePass_alike same samePaid
    obtain ⟨m', done', alike⟩ := spillover_alike remaining excess pricedRemaining pricedExcess start done
    rw [allocatePayments, consolidate_ok fun x member => totals x (permTotals.symm.subset member),
      consolidate_ok fun x member => payments x (permPayments.symm.subset member)]
    dsimp only [bind, Except.bind]
    rw [done', finalize_alike alike.remaining, finalize_alike alike.excess, alike.applied]
    rfl

end

/-! $10 paid with 1,000,000 lira at 89,000: nothing is left to pay, and 110,000 lira are change. -/

def liraForTen : AllocationInput String where
  totals := [{ amount := 10, currency := "USD" }]
  payments := [{ amount := 1000000, currency := "LBP" }]
  rates := { base := "USD", rates := fun _ => some { buy := 89000, sell := 89000 } }
  side := .buy
  registry _ := some { decimals := 2, epsilon := 0 }

def dollarUnit (c : String) : ℚ :=
  if c = "USD" then 1 else 89000

def tenPaid : AllocationResult String where
  remaining := [{ amount := 0, currency := "USD" }]
  crossCurrencyApplied :=
    [{ source := { amount := 890000, currency := "LBP" }, target := { amount := 10, currency := "USD" }, rateUsed := 1 / 89000 }]
  change := [{ amount := 110000, currency := "LBP" }]

theorem allocatePayments_liraForTen : allocatePayments liraForTen false = .ok tenPaid ∧
    Matches dollarUnit liraForTen.totals liraForTen.payments tenPaid ∧
    ∀ totals' payments', liraForTen.totals.Perm totals' → liraForTen.payments.Perm payments' →
      allocatePayments { liraForTen with totals := totals', payments := payments' } false = .ok tenPaid := by
  have figures : allocatePayments liraForTen false = .ok tenPaid := by decide +kernel
  have priced (c : String) : unitsPerBase c liraForTen.rates liraForTen.side = .ok (dollarUnit c) := by
    unfold unitsPerBase dollarUnit
    have base : liraForTen.rates.base = "USD" := rfl
    rw [base]
    by_cases dollars : c = "USD"
    · rw [if_pos dollars, if_pos dollars]
    · rw [if_neg dollars, if_neg dollars]
      exact if_neg (by decide)
  obtain ⟨result, done, isMatched, anyOrder⟩ :=
    allocatePayments_matches (by simp [liraForTen]) (by simp [liraForTen]) (fun _ => rfl) fun c _ => priced c
  obtain rfl := Except.ok.inj (done.symm.trans figures)
  exact ⟨figures, isMatched, anyOrder⟩

end Liratek.Till.Matching
