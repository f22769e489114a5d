import Liratek.Carrier.ResaleLines
import Liratek.Lib.Parcels
import Mathlib.Data.Rat.Floor

/-! Giving credit back sends the most that fits. -/

namespace Liratek.Carrier.ResaleLines
open Lib.Parcels

deriving instance DecidableEq for LineGiveBackPlan

/-- The most that a credit given up brings to the shop line. -/
structure SentMost (giveC perC feeC sentC : ℤ) : Prop where
  nonneg : 0 ≤ sentC
  fits : 0 < sentC → cost (perC : ℚ) feeC sentC ≤ giveC
  most : ∀ x : ℚ, 0 < x → cost (perC : ℚ) feeC x ≤ giveC → x ≤ sentC

theorem sentCents_keepBest (giveC perC feeC : ℤ) :
    sentCents giveC perC feeC = (List.range (⌈(giveC : ℚ) / perC⌉ + 1).toNat).foldl
      (keepBest (fun k : ℕ => perC * ((k + 1 : ℤ) - 1) < min (perC * (k + 1)) (giveC - feeC * (k + 1)))
        fun k : ℕ => min (perC * (k + 1)) (giveC - feeC * (k + 1))) 0 := by
  have counts (l : List ℕ) : (l >>= fun k => pure (k : ℤ)) = l.map fun k : ℕ => (k : ℤ) :=
    List.map_eq_flatMap.symm
  unfold sentCents keepBest
  rw [counts, List.foldl_map]

/-- The loop ends at the number of messages that the whole credit would need; sending less needs no more. -/
theorem sentCents_most {giveC perC feeC : ℤ} (positive : 0 < perC) (nonneg : 0 ≤ feeC) :
    SentMost giveC perC feeC (sentCents giveC perC feeC) := by
  have per : (0 : ℚ) < perC := by exact_mod_cast positive
  have fee : (0 : ℚ) ≤ feeC := by exact_mod_cast nonneg
  have cast (k : ℕ) : ((min (perC * (k + 1)) (giveC - feeC * (k + 1)) : ℤ) : ℚ) =
      most (perC : ℚ) feeC giveC ((k + 1 : ℤ) : ℚ) := by
    unfold most
    push_cast
    rfl
  have best := foldl_keepBest (fun k : ℕ => perC * ((k + 1 : ℤ) - 1) < min (perC * (k + 1)) (giveC - feeC * (k + 1)))
    (fun k : ℕ => min (perC * (k + 1)) (giveC - feeC * (k + 1))) 0 (⌈(giveC : ℚ) / perC⌉ + 1).toNat
  rw [← sentCents_keepBest] at best
  refine ⟨best.start_le, fun some => ?_, fun x some paid => ?_⟩
  · obtain same | ⟨k, -, -, same⟩ := best.found
    · exact absurd same some.ne'
    · refine cost_le_of_parcels (n := k + 1) per fee ?_
      rw [same, cast]
  · have carried := le_most per paid
    have first := parcels_pos per some
    obtain ⟨k, count⟩ := Int.eq_ofNat_of_zero_le (show 0 ≤ parcels (perC : ℚ) x - 1 by omega)
    have number : parcels (perC : ℚ) x = k + 1 := by omega
    have whole : x ≤ giveC := by
      refine le_trans ?_ paid
      exact le_add_of_nonneg_right (mul_nonneg (by exact_mod_cast first.le) fee)
    have inLoop : parcels (perC : ℚ) x ≤ ⌈(giveC : ℚ) / perC⌉ := parcels_mono per whole
    have fewer := lt_of_parcels per x
    rw [number, ← cast] at carried
    refine carried.trans ?_
    exact_mod_cast best.le k (by omega) (by
      rw [number] at fewer
      have passes := fewer.trans_le carried
      exact_mod_cast passes)

/-- What leaves a line when so much credit is sent from it. -/
def sendingCost (sent : ℚ) : ℚ :=
  sent + ⌈sent / maxCreditPerSmsUsd⌉ * smsTransferFeeUsd

def keepTooLittleError : String := "Too little credit to cover the SMS fee."

/-- A give-back sends the most that leaves the buyer what they keep. -/
structure GivesBack (before kept : ℚ) (plan : LineGiveBackPlan) : Prop where
  balance : plan.creditsAfter + plan.creditsSent + plan.smsFeeUsd = before
  fee : plan.smsFeeUsd = ⌈plan.creditsSent / maxCreditPerSmsUsd⌉ * smsTransferFeeUsd
  sent : 0 < plan.creditsSent
  keeps : kept ≤ plan.creditsAfter
  less : plan.creditsAfter < before
  most : ∀ x : ℚ, 0 < x → kept ≤ before - sendingCost x → x ≤ plan.creditsSent
  nearest : ∀ x : ℚ, 0 < x → kept ≤ before - sendingCost x → plan.creditsAfter ≤ before - sendingCost x

theorem toCents_cents (c : ℤ) : toCents (c / 100) = c := by
  unfold toCents
  rw [div_mul_cancel₀ _ (by norm_num), round_intCast]

/-- In cents the messages are the same. -/
theorem sendingCost_cents (x : ℚ) : sendingCost (x / 100) = cost (toCents maxCreditPerSmsUsd : ℚ) (toCents smsTransferFeeUsd) x / 100 := by
  have per : toCents maxCreditPerSmsUsd = 300 := by decide +kernel
  have fee : toCents smsTransferFeeUsd = 16 := by decide +kernel
  rw [per, fee]
  unfold sendingCost cost parcels maxCreditPerSmsUsd smsTransferFeeUsd
  have same : x / 100 / 3 = x / ((300 : ℤ) : ℚ) := by
    push_cast
    ring
  rw [same]
  push_cast
  ring

/-- The cents that a plan sends. -/
def plannedCents (before kept : ℤ) : ℤ :=
  sentCents (before - kept) (toCents maxCreditPerSmsUsd) (toCents smsTransferFeeUsd)

theorem plannedCents_most (before kept : ℤ) :
    SentMost (before - kept) (toCents maxCreditPerSmsUsd) (toCents smsTransferFeeUsd) (plannedCents before kept) :=
  sentCents_most (by decide +kernel) (by decide +kernel)

/-- What a plan is made of; a refusal for lack of credit has nothing to send. -/
theorem planLineGiveBack_cases {input : LineGiveBackInput} {before kept : ℤ} (wholeBefore : input.creditsBefore = before / 100)
    (wholeKept : input.creditsKept = kept / 100) :
    (∀ plan, planLineGiveBack input = .ok plan →
      kept < before ∧ 0 < plannedCents before kept ∧
      plan.creditsSent = plannedCents before kept / 100 ∧
      plan.smsFeeUsd = ⌈plan.creditsSent / maxCreditPerSmsUsd⌉ * smsTransferFeeUsd ∧
      plan.creditsAfter = input.creditsBefore - sendingCost plan.creditsSent) ∧
    (planLineGiveBack input = .error keepTooLittleError → plannedCents before kept ≤ 0) := by
  have fees := sendingCost_cents (plannedCents before kept)
  have planned : sentCents (before - kept) (toCents maxCreditPerSmsUsd) (toCents smsTransferFeeUsd) =
    plannedCents before kept := rfl
  unfold planLineGiveBack
  rw [wholeBefore, wholeKept, toCents_cents, toCents_cents]
  dsimp only
  rw [planned]
  split_ifs with noCredit tooMuch noRates nothing
  · exact ⟨nofun, fun refused => absurd (Except.error.inj refused) (by decide)⟩
  · exact ⟨nofun, fun refused => absurd (Except.error.inj refused) (by decide)⟩
  · exact ⟨nofun, fun refused => absurd (Except.error.inj refused) (by decide)⟩
  · exact ⟨nofun, fun _ => nothing⟩
  · refine ⟨fun plan isPlan => ?_, nofun⟩
    obtain rfl := Except.ok.inj isPlan
    have feeUsd : sendingCost (plannedCents before kept / 100) - plannedCents before kept / 100 =
        ⌈(plannedCents before kept / 100 : ℚ) / maxCreditPerSmsUsd⌉ * smsTransferFeeUsd := add_sub_cancel_left ..
    have smsFee : ((⌈(plannedCents before kept : ℚ) / toCents maxCreditPerSmsUsd⌉ * toCents smsTransferFeeUsd : ℤ) : ℚ) / 100 =
        sendingCost (plannedCents before kept / 100) - plannedCents before kept / 100 := by
      rw [fees]
      unfold cost parcels
      push_cast
      ring
    refine ⟨by omega, not_le.mp nothing, rfl, smsFee.trans feeUsd, ?_⟩
    change ((before : ℚ) - ((plannedCents before kept + _ : ℤ) : ℚ)) / 100 =
      before / 100 - sendingCost (plannedCents before kept / 100)
    rw [Int.cast_add, sub_div, add_div, smsFee, add_sub_cancel]

theorem planLineGiveBack_ok_iff {input : LineGiveBackInput} {before kept : ℤ} (wholeBefore : input.creditsBefore = before / 100)
    (wholeKept : input.creditsKept = kept / 100) :
    (∃ plan, planLineGiveBack input = .ok plan) ↔
      (0 < before ∧ 0 ≤ kept ∧ kept < before) ∧
      (0 < input.exchangeRate ∧ 0 < input.creditSellPriceLbp ∧ 0 < input.creditCostRateLbp) ∧ 0 < plannedCents before kept := by
  have planned : sentCents (before - kept) (toCents maxCreditPerSmsUsd) (toCents smsTransferFeeUsd) =
    plannedCents before kept := rfl
  unfold planLineGiveBack
  rw [wholeBefore, wholeKept, toCents_cents, toCents_cents]
  dsimp only
  rw [planned]
  split_ifs with noCredit tooMuch noRates nothing
  · exact iff_of_false nofun fun allowed => absurd allowed.1.1 (not_lt.mpr noCredit)
  · exact iff_of_false nofun fun allowed => by omega
  · refine iff_of_false nofun fun ⟨_, ⟨rate, price, cost⟩, _⟩ => ?_
    rcases noRates with low | low | low
    · exact absurd rate (not_lt.mpr low)
    · exact absurd price (not_lt.mpr low)
    · exact absurd cost (not_lt.mpr low)
  · exact iff_of_false nofun fun allowed => absurd allowed.2.2 (not_lt.mpr nothing)
  · push Not at noRates
    exact iff_of_true ⟨_, rfl⟩ ⟨by omega, noRates, not_le.mp nothing⟩

/-- Keeping less leaves more to send. -/
theorem plannedCents_antitone (before : ℤ) {kept kept' : ℤ} (less : kept' ≤ kept) :
    plannedCents before kept ≤ plannedCents before kept' := by
  rcases le_or_gt (plannedCents before kept) 0 with none | some
  · exact none.trans (plannedCents_most before kept').nonneg
  · have fits := (plannedCents_most before kept).fits some
    have more : ((before - kept : ℤ) : ℚ) ≤ ((before - kept' : ℤ) : ℚ) := by exact_mod_cast sub_le_sub_left less before
    exact_mod_cast (plannedCents_most before kept').most _ (by exact_mod_cast some) (fits.trans more)

theorem sendingCost_mono {x y : ℚ} (le : x ≤ y) : sendingCost x ≤ sendingCost y := by
  have fees : cost maxCreditPerSmsUsd smsTransferFeeUsd x ≤ cost maxCreditPerSmsUsd smsTransferFeeUsd y :=
    cost_mono (by decide +kernel) (by decide +kernel) le
  exact fees

/-- What fits in dollars fits in cents. -/
theorem cost_cents {before kept : ℤ} {x : ℚ} (fits : kept / 100 ≤ before / 100 - sendingCost x) :
    cost (toCents maxCreditPerSmsUsd : ℚ) (toCents smsTransferFeeUsd) (x * 100) ≤ ((before - kept : ℤ) : ℚ) := by
  have cents := sendingCost_cents (x * 100)
  rw [mul_div_cancel_right₀ x (by norm_num)] at cents
  rw [cents] at fits
  push_cast
  linarith

theorem planLineGiveBack_givesBack {input : LineGiveBackInput} {before kept : ℤ} (wholeBefore : input.creditsBefore = before / 100)
    (wholeKept : input.creditsKept = kept / 100) {plan : LineGiveBackPlan} (planned : planLineGiveBack input = .ok plan) :
    GivesBack input.creditsBefore input.creditsKept plan := by
  obtain ⟨less, some, sent, fee, after⟩ := (planLineGiveBack_cases wholeBefore wholeKept).1 plan planned
  have sentMost := plannedCents_most before kept
  have fits := sentMost.fits some
  have cents := sendingCost_cents (plannedCents before kept)
  have positive : 0 < plan.creditsSent := by
    rw [sent]
    exact div_pos (by exact_mod_cast some) (by norm_num)
  have most : ∀ x : ℚ, 0 < x → input.creditsKept ≤ input.creditsBefore - sendingCost x → x ≤ plan.creditsSent := by
    intro x more inside
    rw [wholeBefore, wholeKept] at inside
    have le := sentMost.most (x * 100) (by linarith) (cost_cents inside)
    rw [sent]
    linarith
  have costsMore : plan.creditsSent ≤ sendingCost plan.creditsSent := by
    have messages : 0 < ⌈plan.creditsSent / maxCreditPerSmsUsd⌉ := parcels_pos (by decide +kernel) positive
    have nonneg : (0 : ℚ) ≤ smsTransferFeeUsd := by decide +kernel
    exact le_add_of_nonneg_right (mul_nonneg (by exact_mod_cast messages.le) nonneg)
  refine ⟨?_, fee, positive, ?_, ?_, most, fun x more inside => ?_⟩
  · rw [after, fee]
    unfold sendingCost
    ring
  · rw [after, sent, cents, wholeBefore, wholeKept]
    push_cast at fits
    linarith
  · rw [after]
    linarith
  · rw [after]
    exact sub_le_sub_left (sendingCost_mono (most x more inside)) _

/-- Giving credit back: it sends the most that fits, fails for lack of credit when nothing fits, and sends no less when less
is kept. -/
theorem planLineGiveBack_sendsMost {input : LineGiveBackInput} {before kept : ℤ} (wholeBefore : input.creditsBefore = before / 100)
    (wholeKept : input.creditsKept = kept / 100) :
    (∀ plan, planLineGiveBack input = .ok plan → GivesBack input.creditsBefore input.creditsKept plan) ∧
    (planLineGiveBack input = .error keepTooLittleError → ∀ x : ℚ, 0 < x → input.creditsBefore - sendingCost x < input.creditsKept) ∧
    (∀ plan, planLineGiveBack input = .ok plan → ∀ kept' : ℤ, 0 ≤ kept' → kept' ≤ kept →
      ∃ plan', planLineGiveBack { input with creditsKept := kept' / 100 } = .ok plan' ∧ plan.creditsSent ≤ plan'.creditsSent) := by
  have cases := planLineGiveBack_cases wholeBefore wholeKept
  refine ⟨fun plan => planLineGiveBack_givesBack wholeBefore wholeKept, fun refused x more => ?_, fun plan planned kept' nonneg less => ?_⟩
  · by_contra fits
    rw [wholeBefore, wholeKept, not_lt] at fits
    have sent := (plannedCents_most before kept).most (x * 100) (by linarith) (cost_cents fits)
    have none : (plannedCents before kept : ℚ) ≤ 0 := by exact_mod_cast cases.2 refused
    linarith
  · obtain ⟨inside, rates, some⟩ := (planLineGiveBack_ok_iff wholeBefore wholeKept).mp ⟨plan, planned⟩
    have antitone := plannedCents_antitone before less
    have wholeBefore' : ({ input with creditsKept := kept' / 100 } : LineGiveBackInput).creditsBefore = before / 100 := wholeBefore
    have wholeKept' : ({ input with creditsKept := kept' / 100 } : LineGiveBackInput).creditsKept = kept' / 100 := rfl
    obtain ⟨plan', planned'⟩ :=
      (planLineGiveBack_ok_iff wholeBefore' wholeKept').mpr ⟨by omega, rates, some.trans_le antitone⟩
    refine ⟨plan', planned', ?_⟩
    have sent := (cases.1 plan planned).2.2.1
    have sent' := ((planLineGiveBack_cases wholeBefore' wholeKept').1 plan' planned').2.2.1
    rw [sent, sent']
    exact div_le_div_of_nonneg_right (by exact_mod_cast antitone) (by norm_num)

/-- The buyer keeps 6.83 of 10 dollars: a full message is sent, and a cent more is kept. -/
theorem planLineGiveBack_sendsMost_oneMessage :
    ∃ plan, planLineGiveBack
        { creditsBefore := 10, creditsKept := 6.83, creditSellPriceLbp := 100000, creditCostRateLbp := 89500, exchangeRate := 89500 } =
          .ok plan ∧
      plan.creditsSent = 3 ∧ plan.creditsAfter = 6.84 ∧ GivesBack 10 6.83 plan := by
  have planned : planLineGiveBack
      { creditsBefore := 10, creditsKept := 6.83, creditSellPriceLbp := 100000, creditCostRateLbp := 89500, exchangeRate := 89500 } =
        .ok { creditsSent := 3, smsFeeUsd := 4 / 25, creditsAfter := 171 / 25, priceDropUsd := 353 / 100, costDropUsd := 3 } := by
    decide +kernel
  refine ⟨_, planned, rfl, by norm_num, ?_⟩
  exact (planLineGiveBack_sendsMost (show (10 : ℚ) = ((1000 : ℤ) : ℚ) / 100 by norm_num)
    (show (6.83 : ℚ) = ((683 : ℤ) : ℚ) / 100 by norm_num)).1 _ planned

end Liratek.Carrier.ResaleLines
