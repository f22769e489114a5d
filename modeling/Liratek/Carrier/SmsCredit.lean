import Liratek.Carrier.ResaleLines
import Liratek.Lib.Parcels
import Mathlib.Data.Rat.Floor

/-! Credit sent back out of a balance by SMS: at most three dollars a message, in steps of half a dollar. -/

namespace Liratek.Carrier.SmsCredit
open Lib.Parcels ResaleLines

def creditTransferStepUsd : ℚ := 1 / 2

/-- The nudge of a floating-point balance is kept. -/
def floorBalanceToCents (usd : ℚ) : ℤ :=
  ⌊usd * 100 + 1 / 10 ^ 9⌋

def maxCreditPerSmsCents : ℤ := toCents maxCreditPerSmsUsd

def smsTransferFeeCents : ℤ := toCents smsTransferFeeUsd

def creditTransferStepCents : ℤ := toCents creditTransferStepUsd

def floorToStepCents (cents : ℤ) : ℤ :=
  ⌊(cents : ℚ) / creditTransferStepCents⌋ * creditTransferStepCents

/-- What so many messages bring out of a balance. -/
def transferableCents (balanceCents n : ℤ) : ℤ :=
  min (maxCreditPerSmsCents * n) (balanceCents - smsTransferFeeCents * n)

def maxMessages (balanceCents : ℤ) : ℤ :=
  ⌈(balanceCents : ℚ) / (maxCreditPerSmsCents + smsTransferFeeCents : ℤ)⌉

/-- The loop over the numbers of messages. -/
def bestCents (balanceCents : ℤ) : ℤ :=
  (List.range (maxMessages balanceCents + 1).toNat).foldl (fun bestCents (n : ℕ) =>
    let flooredCents := floorToStepCents (transferableCents balanceCents n)
    if 0 < transferableCents balanceCents n ∧ bestCents < flooredCents then flooredCents else bestCents) 0

def maxReturnableCredits (balanceUsd : ℚ) : ℚ :=
  if balanceUsd ≤ 0 then 0 else bestCents (floorBalanceToCents balanceUsd) / 100

structure SmsTransferPlan where
  messages : ℤ
  feeUsd : ℚ
  totalCostUsd : ℚ
  deriving DecidableEq, Repr

def planSmsTransfer (amountUsd perSmsUsd : ℚ) : SmsTransferPlan :=
  if amountUsd ≤ 0 ∨ perSmsUsd ≤ 0 then { messages := 0, feeUsd := 0, totalCostUsd := 0 }
  else
    let messages := ⌈amountUsd / perSmsUsd⌉
    { messages := messages
      feeUsd := messages * smsTransferFeeUsd
      totalCostUsd := amountUsd + messages * smsTransferFeeUsd }

/-- A plan charges the one fee there is. -/
theorem planSmsTransfer_feeUsd (amountUsd : ℚ) : (planSmsTransfer amountUsd maxCreditPerSmsUsd).feeUsd = smsFeeUsd amountUsd := by
  have limited : ¬ maxCreditPerSmsUsd ≤ 0 := by decide +kernel
  unfold planSmsTransfer smsFeeUsd
  simp only [limited, or_false]
  split_ifs <;> rfl

theorem planSmsTransfer_totalCostUsd {amountUsd : ℚ} (some : 0 < amountUsd) :
    (planSmsTransfer amountUsd maxCreditPerSmsUsd).totalCostUsd = cost maxCreditPerSmsUsd smsTransferFeeUsd amountUsd := by
  have limited : ¬ maxCreditPerSmsUsd ≤ 0 := by decide +kernel
  unfold planSmsTransfer
  rw [if_neg (not_or.mpr ⟨not_le.mpr some, limited⟩)]
  rfl

/-! The cents that come back. -/

theorem floorBalanceToCents_cents (c : ℤ) : floorBalanceToCents (c / 100) = c := by
  unfold floorBalanceToCents
  rw [div_mul_cancel₀ _ (by norm_num), Int.floor_eq_iff]
  exact ⟨le_add_of_nonneg_right (by norm_num), add_lt_add_right (by norm_num) _⟩

/-- The multiples of a step below an amount are those below its floor. -/
theorem le_floorToStepCents (k cents : ℤ) :
    k * creditTransferStepCents ≤ floorToStepCents cents ↔ k * creditTransferStepCents ≤ cents := by
  have positive : 0 < creditTransferStepCents := by decide +kernel
  unfold floorToStepCents
  rw [mul_le_mul_iff_left₀ positive, Int.le_floor, le_div_iff₀ (by exact_mod_cast positive)]
  exact_mod_cast Iff.rfl

theorem floorToStepCents_le (cents : ℤ) : floorToStepCents cents ≤ cents :=
  (le_floorToStepCents _ cents).mp le_rfl

theorem floorToStepCents_mono {c d : ℤ} (le : c ≤ d) : floorToStepCents c ≤ floorToStepCents d :=
  (le_floorToStepCents _ d).mpr ((floorToStepCents_le c).trans le)

/-- In dollars. -/
theorem transferableCents_most (balanceCents n : ℤ) :
    (transferableCents balanceCents n : ℚ) / 100 = most maxCreditPerSmsUsd smsTransferFeeUsd (balanceCents / 100) n := by
  have per : (maxCreditPerSmsCents : ℚ) = maxCreditPerSmsUsd * 100 := by decide +kernel
  have fee : (smsTransferFeeCents : ℚ) = smsTransferFeeUsd * 100 := by decide +kernel
  unfold transferableCents most
  push_cast
  rw [per, fee, ← min_div_div_right (by norm_num : (0 : ℚ) ≤ 100)]
  congr 1 <;> ring

/-- The best of all numbers of messages. -/
structure BestCents (balanceCents best : ℤ) : Prop where
  nonneg : 0 ≤ best
  found : best = 0 ∨ ∃ n : ℕ, best = floorToStepCents (transferableCents balanceCents n)
  le : ∀ n : ℕ, floorToStepCents (transferableCents balanceCents n) ≤ best

/-- More messages than the loop tries bring no more back. -/
theorem transferableCents_le {balanceCents n : ℤ} (more : maxMessages balanceCents ≤ n) :
    transferableCents balanceCents n ≤ transferableCents balanceCents (maxMessages balanceCents) := by
  have whole : (balanceCents / 100 : ℚ) ≤ (maxCreditPerSmsUsd + smsTransferFeeUsd) * maxMessages balanceCents := by
    have each : ((maxCreditPerSmsCents + smsTransferFeeCents : ℤ) : ℚ) = (maxCreditPerSmsUsd + smsTransferFeeUsd) * 100 := by
      decide +kernel
    have enough := Int.le_ceil ((balanceCents : ℚ) / (maxCreditPerSmsCents + smsTransferFeeCents : ℤ))
    rw [each, div_le_iff₀ (by decide +kernel)] at enough
    unfold maxMessages
    rw [each]
    linarith
  have dollars := most_antitone (n := n) (by decide +kernel : 0 ≤ smsTransferFeeUsd) whole (by exact_mod_cast more)
  rw [← transferableCents_most, ← transferableCents_most] at dollars
  have cents : (transferableCents balanceCents n : ℚ) ≤ transferableCents balanceCents (maxMessages balanceCents) := by linarith
  exact_mod_cast cents

theorem bestCents_best {balanceCents : ℤ} (nonneg : 0 ≤ balanceCents) : BestCents balanceCents (bestCents balanceCents) := by
  have best := foldl_keepBest (fun n : ℕ => 0 < transferableCents balanceCents n)
    (fun n : ℕ => floorToStepCents (transferableCents balanceCents n)) 0 (maxMessages balanceCents + 1).toNat
  have loop : bestCents balanceCents = (List.range (maxMessages balanceCents + 1).toNat).foldl
      (keepBest (fun n : ℕ => 0 < transferableCents balanceCents n)
        fun n : ℕ => floorToStepCents (transferableCents balanceCents n)) 0 := by
    unfold bestCents keepBest
    rfl
  rw [← loop] at best
  have tried : ∀ n : ℕ, (n : ℤ) ≤ maxMessages balanceCents →
      floorToStepCents (transferableCents balanceCents n) ≤ bestCents balanceCents := by
    intro n inLoop
    rcases le_or_gt (transferableCents balanceCents n) 0 with none | some
    · exact ((floorToStepCents_le _).trans none).trans best.start_le
    · exact best.le n (by omega) some
  refine ⟨best.start_le, ?_, fun n => ?_⟩
  · rcases best.found with same | ⟨n, -, -, same⟩
    · exact .inl same
    · exact .inr ⟨n, same⟩
  · rcases le_or_gt (n : ℤ) (maxMessages balanceCents) with inLoop | beyond
    · exact tried n inLoop
    · have messages : 0 ≤ maxMessages balanceCents := by
        unfold maxMessages
        exact Int.ceil_nonneg (div_nonneg (by exact_mod_cast nonneg) (by decide +kernel))
      obtain ⟨m, isMax⟩ := Int.eq_ofNat_of_zero_le messages
      refine (floorToStepCents_mono (transferableCents_le beyond.le)).trans ?_
      rw [isMax]
      exact tried m isMax.ge

/-! The messages that a balance pays for. -/

/-- Each message carries a positive multiple of the step up to the most one can carry, and costs a fee. -/
structure Payable (balance : ℚ) (messages : List ℚ) : Prop where
  steps : ∀ m ∈ messages, ∃ k : ℕ, 0 < k ∧ m = k * creditTransferStepUsd
  each : ∀ m ∈ messages, m ≤ maxCreditPerSmsUsd
  paid : (messages.map (· + smsTransferFeeUsd)).sum ≤ balance

theorem sum_steps {messages : List ℚ} (steps : ∀ m ∈ messages, ∃ k : ℕ, 0 < k ∧ m = k * creditTransferStepUsd) :
    ∃ k : ℕ, messages.sum = k * creditTransferStepUsd := by
  induction messages with
  | nil => exact ⟨0, by simp⟩
  | cons m rest ih =>
    obtain ⟨⟨k, -, rfl⟩, stepsRest⟩ := List.forall_mem_cons.mp steps
    obtain ⟨j, sum⟩ := ih stepsRest
    exact ⟨k + j, by rw [List.sum_cons, sum, Nat.cast_add, add_mul]⟩

/-- No list of messages sends more. -/
theorem Payable.sum_le {balanceCents best : ℤ} (isBest : BestCents balanceCents best) {messages : List ℚ}
    (payable : Payable (balanceCents / 100) messages) : messages.sum ≤ best / 100 := by
  obtain ⟨k, sum⟩ := sum_steps payable.steps
  have step : (creditTransferStepCents : ℚ) = creditTransferStepUsd * 100 := by decide +kernel
  have carried := sum_le_most payable.each payable.paid
  have count : ((messages.length : ℤ) : ℚ) = messages.length := Int.cast_natCast _
  rw [← count, ← transferableCents_most, le_div_iff₀ (by norm_num), sum, mul_assoc, ← step] at carried
  have cents : (k : ℤ) * creditTransferStepCents ≤ transferableCents balanceCents messages.length := by exact_mod_cast carried
  have le := ((le_floorToStepCents k _).mpr cents).trans (isBest.le messages.length)
  have dollars : (k : ℚ) * creditTransferStepCents ≤ best := by exact_mod_cast le
  rw [step, ← mul_assoc] at dollars
  rw [sum]
  linarith

/-- What comes back costs no more than the balance. -/
theorem BestCents.cost_le {balanceCents best : ℤ} (isBest : BestCents balanceCents best) (nonneg : 0 ≤ balanceCents) :
    cost maxCreditPerSmsUsd smsTransferFeeUsd (best / 100 : ℚ) ≤ balanceCents / 100 := by
  rcases isBest.found with none | ⟨n, found⟩
  · have balance : (0 : ℚ) ≤ balanceCents / 100 := div_nonneg (by exact_mod_cast nonneg) (by norm_num)
    simpa [none, cost, parcels] using balance
  · have carried : (best : ℚ) ≤ transferableCents balanceCents n := by
      rw [found]
      exact_mod_cast floorToStepCents_le _
    have dollars := div_le_div_of_nonneg_right carried (by norm_num : (0 : ℚ) ≤ 100)
    rw [transferableCents_most] at dollars
    exact cost_le_of_parcels (by decide +kernel) (by decide +kernel) dollars

/-- It can be sent: full messages and a last one. -/
theorem BestCents.payable {balanceCents best : ℤ} (isBest : BestCents balanceCents best) (nonneg : 0 ≤ balanceCents) :
    ∃ messages, Payable (balanceCents / 100) messages ∧ messages.sum = best / 100 := by
  have step : (creditTransferStepCents : ℚ) = creditTransferStepUsd * 100 := by decide +kernel
  have multiple : ∃ k : ℕ, (best / 100 : ℚ) = k * creditTransferStepUsd := by
    rcases isBest.found with none | ⟨n, found⟩
    · exact ⟨0, by simp [none]⟩
    · have nonneg := isBest.nonneg
      unfold floorToStepCents at found
      have steps : 0 ≤ ⌊(transferableCents balanceCents n : ℚ) / creditTransferStepCents⌋ := by
        rw [found] at nonneg
        exact nonneg_of_mul_nonneg_left nonneg (by decide +kernel)
      obtain ⟨k, isSteps⟩ := Int.eq_ofNat_of_zero_le steps
      refine ⟨k, ?_⟩
      rw [found, isSteps]
      push_cast
      rw [step]
      ring
  obtain ⟨k, isMultiple⟩ := multiple
  have six : ((6 : ℕ) : ℚ) * creditTransferStepUsd = maxCreditPerSmsUsd := by decide +kernel
  obtain ⟨parts, each, sum, count⟩ := exists_parts (by decide +kernel : 0 < creditTransferStepUsd) (by decide : 0 < 6) k
  have total := isBest.cost_le nonneg
  rw [← isMultiple, six] at count
  rw [← isMultiple] at sum
  refine ⟨parts, ⟨fun m member => ?_, fun m member => ?_, ?_⟩, sum⟩
  · obtain ⟨j, some, -, same⟩ := each m member
    exact ⟨j, some, same⟩
  · obtain ⟨j, -, few, rfl⟩ := each m member
    rw [← six]
    exact mul_le_mul_of_nonneg_right (by exact_mod_cast few) (by decide +kernel)
  · rw [List.sum_map_add, List.map_id', List.map_const', List.sum_replicate, nsmul_eq_mul, sum]
    unfold cost at total
    rw [← count] at total
    exact_mod_cast total

/-! The credit that comes back out of a balance in whole cents. -/

structure Recovers (balanceCents : ℤ) (credits : ℚ) : Prop where
  /-- no list of messages sends more -/
  most : ∀ messages, Payable (balanceCents / 100) messages → messages.sum ≤ credits
  sent : (∃ messages, Payable (balanceCents / 100) messages ∧ messages.sum = credits) ∨
    (credits = 0 ∧ ∀ messages, ¬ Payable (balanceCents / 100) messages)
  /-- no number of messages brings more back, within the loop or beyond it -/
  counts : ∀ n : ℕ, (floorToStepCents (transferableCents balanceCents n) : ℚ) / 100 ≤ credits
  paid : 0 ≤ balanceCents → (planSmsTransfer credits maxCreditPerSmsUsd).totalCostUsd ≤ balanceCents / 100

theorem Payable.nonneg {balance : ℚ} {messages : List ℚ} (payable : Payable balance messages) : 0 ≤ balance := by
  refine (List.sum_nonneg fun x member => ?_).trans payable.paid
  obtain ⟨m, inside, rfl⟩ := List.mem_map.mp member
  obtain ⟨k, -, rfl⟩ := payable.steps m inside
  exact add_nonneg (mul_nonneg (Nat.cast_nonneg k) (by decide +kernel)) (by decide +kernel)

theorem maxReturnableCredits_best {balanceCents : ℤ} (nonneg : 0 ≤ balanceCents) :
    ∃ best, BestCents balanceCents best ∧ maxReturnableCredits (balanceCents / 100) = best / 100 := by
  refine ⟨bestCents balanceCents, bestCents_best nonneg, ?_⟩
  unfold maxReturnableCredits
  rw [floorBalanceToCents_cents]
  split_ifs with none
  · have zero : balanceCents = 0 := by
      have le : balanceCents ≤ 0 := by
        have cents : (balanceCents : ℚ) ≤ 0 := by linarith
        exact_mod_cast cents
      exact le_antisymm le nonneg
    rw [zero]
    decide +kernel
  · rfl

theorem maxReturnableCredits_neg {balanceCents : ℤ} (negative : balanceCents < 0) :
    maxReturnableCredits (balanceCents / 100) = 0 := by
  have below : (balanceCents : ℚ) < 0 := by exact_mod_cast negative
  exact if_pos (by linarith)

theorem maxReturnableCredits_nonneg (balanceCents : ℤ) : 0 ≤ maxReturnableCredits (balanceCents / 100) := by
  rcases lt_or_ge balanceCents 0 with negative | nonneg
  · exact (maxReturnableCredits_neg negative).ge
  · obtain ⟨best, isBest, same⟩ := maxReturnableCredits_best nonneg
    rw [same]
    exact div_nonneg (by exact_mod_cast isBest.nonneg) (by norm_num)

theorem maxReturnableCredits_recovers (balanceCents : ℤ) :
    Recovers balanceCents (maxReturnableCredits (balanceCents / 100)) := by
  rcases lt_or_ge balanceCents 0 with negative | nonneg
  · have below : (balanceCents : ℚ) / 100 < 0 := div_neg_of_neg_of_pos (by exact_mod_cast negative) (by norm_num)
    have none : ∀ messages, ¬ Payable (balanceCents / 100) messages := fun _ payable => absurd payable.nonneg (not_le.mpr below)
    rw [maxReturnableCredits_neg negative]
    refine ⟨fun messages payable => absurd payable (none messages), .inr ⟨rfl, none⟩, fun n => ?_,
      fun nonneg => absurd nonneg (not_le.mpr negative)⟩
    have fee : 0 ≤ smsTransferFeeCents := by decide +kernel
    have surviving : transferableCents balanceCents n ≤ balanceCents :=
      (min_le_right ..).trans (sub_le_self _ (mul_nonneg fee (Int.natCast_nonneg n)))
    have floored := ((floorToStepCents_le _).trans surviving).trans negative.le
    exact div_nonpos_of_nonpos_of_nonneg (by exact_mod_cast floored) (by norm_num)
  · obtain ⟨best, isBest, same⟩ := maxReturnableCredits_best nonneg
    rw [same]
    refine ⟨fun messages payable => payable.sum_le isBest, .inl (isBest.payable nonneg), fun n => ?_, fun _ => ?_⟩
    · exact div_le_div_of_nonneg_right (by exact_mod_cast isBest.le n) (by norm_num)
    · rcases isBest.nonneg.eq_or_lt with none | some
      · rw [← none]
        have balance : (0 : ℚ) ≤ balanceCents / 100 := div_nonneg (by exact_mod_cast nonneg) (by norm_num)
        simpa [planSmsTransfer] using balance
      · rw [planSmsTransfer_totalCostUsd (div_pos (by exact_mod_cast some) (by norm_num))]
        exact isBest.cost_le nonneg

theorem maxReturnableCredits_mono {balanceCents more : ℤ} (le : balanceCents ≤ more) :
    maxReturnableCredits (balanceCents / 100) ≤ maxReturnableCredits (more / 100) := by
  rcases (maxReturnableCredits_recovers balanceCents).sent with ⟨messages, payable, sum⟩ | ⟨none, -⟩
  · rw [← sum]
    refine (maxReturnableCredits_recovers more).most messages ⟨payable.steps, payable.each, payable.paid.trans ?_⟩
    exact div_le_div_of_nonneg_right (by exact_mod_cast le) (by norm_num)
  · rw [none]
    exact maxReturnableCredits_nonneg more

/-- The most that comes back is optimal, paid by a balance that is not negative, and monotone in the balance. -/
theorem maxReturnableCredits_optimal (balanceCents : ℤ) :
    Recovers balanceCents (maxReturnableCredits (balanceCents / 100)) ∧
      ∀ more : ℤ, balanceCents ≤ more → maxReturnableCredits (balanceCents / 100) ≤ maxReturnableCredits (more / 100) :=
  ⟨maxReturnableCredits_recovers balanceCents, fun _ le => maxReturnableCredits_mono le⟩

/-- The headline cart, and one with a cent more. -/
theorem maxReturnableCredits_optimal_cart : Recovers 7700 73 ∧ (73 : ℚ) ≤ maxReturnableCredits ((7701 : ℤ) / 100) := by
  have cart : maxReturnableCredits ((7700 : ℤ) / 100) = 73 := by decide +kernel
  have optimal := maxReturnableCredits_optimal 7700
  rw [cart] at optimal
  exact ⟨optimal.1, optimal.2 7701 (by decide)⟩

/-- Nothing comes back out of a negative balance, and sending nothing costs nothing. -/
theorem planSmsTransfer_negative :
    ¬ (planSmsTransfer (maxReturnableCredits (-1 / 100)) maxCreditPerSmsUsd).totalCostUsd ≤ -1 / 100 := by
  decide +kernel

end Liratek.Carrier.SmsCredit
