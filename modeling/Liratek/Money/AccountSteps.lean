import Liratek.Money.AccountRounds

/-! Each step of the account settlement is a run of passes, and what it covers in all. -/

namespace Liratek.Money.AccountSettle
open FifoCoverage Lib.Coverage

variable {input : AllocInput}

/-! Allocating over the open rows of a pool is allocating over the pool. -/

theorem filter_open (pool : List Nat) (out : Nat → ℤ) (budget : ℤ) :
    allocateFifo within ((pool.filter fun i => !within (out i)).map fun i => { id := i, outstanding := out i }) budget =
      allocateFifo within (pool.map fun i => { id := i, outstanding := out i }) budget := by
  rw [← allocateFifo_filter within_min (pool.map _), List.filter_map]
  rfl

theorem allocate_covers {pool : List Nat} (distinct : pool.Nodup) (out : Nat → ℤ) {budget : ℤ} (nonneg : 0 ≤ budget) :
    Covers pool out budget
      (allocateFifo within ((pool.filter fun i => !within (out i)).map fun i => { id := i, outstanding := out i })
        budget) := by
  rw [filter_open]
  exact allocateFifo_covers (fun _ => within_iff) distinct out nonneg

theorem sum_open (pool : List Nat) (out : Nat → ℤ) :
    ((pool.filter fun i => !within (out i)).map out).sum = openTotal pool out := by
  unfold openTotal
  induction pool with
  | nil => rfl
  | cons i rest ih =>
    by_cases closed : within (out i) = true
    · rw [List.filter_cons_of_neg (by simp [closed]), ih, List.map_cons, List.sum_cons,
        max_eq_left (within_iff.mp closed), zero_add]
    · have isOpen : 0 < out i := not_le.mp fun low => closed (within_iff.mpr low)
      rw [List.filter_cons_of_pos (by simpa using closed), List.map_cons, List.sum_cons, ih, List.map_cons,
        List.sum_cons, max_eq_right isOpen.le]

theorem openDebts_eq (standard : StandardEps input) (l : Ledger) (pool : List Nat) :
    openDebts input l pool = pool.filter fun i => !within (l.rem i) := by
  unfold openDebts
  apply List.filter_congr
  intro i _
  rw [epsMinor_standard standard, within, ← decide_not, decide_eq_decide, not_le]

theorem openCredits_eq (standard : StandardEps input) (l : Ledger) (pool : List Nat) :
    openCredits input l pool = pool.filter fun i => !within (-l.rem i) := by
  unfold openCredits
  apply List.filter_congr
  intro i _
  rw [epsMinor_standard standard, within, ← decide_not, decide_eq_decide, not_le, Int.cast_neg, lt_neg]

theorem sorted_sourced {takes : List (FifoTake Nat ℤ)} {pool : List Nat} (inside : (takes.map (·.id)).Sublist pool)
    (increasing : pool.Pairwise (· < ·)) (source : CoverageSource) :
    ((takes.map (sourced source)).map place).Pairwise fun a b => a.1 ≤ b.1 := by
  have ids := increasing.sublist inside
  rw [List.pairwise_map] at ids ⊢
  rw [List.pairwise_map]
  exact ids.imp fun less => less.le

/-! Netting covers a debt pool and a credit pool with one amount. -/

structure Netting (input : AllocInput) (l l' : Ledger) (debtPool creditPool : List Nat) (n : ℤ) (mid : Ledger)
    (debits credits : List (FifoTake Nat ℤ)) : Prop where
  nonneg : 0 ≤ n
  debit : Round input l mid debtPool 1 n debits (debits.map (sourced .netting))
  credit : Round input mid l' creditPool (-1) n credits (credits.map (sourced .netting))
  debitTotal : totalTake debits = n
  creditTotal : totalTake credits = n

/-- What a netting can reach. -/
def reach (l : Ledger) (debtPool creditPool : List Nat) (limit : Option ℤ) : ℤ :=
  upTo limit (min (openTotal debtPool l.rem) (openTotal creditPool fun i => -l.rem i))

theorem upTo_le (limit : Option ℤ) (m : ℤ) : upTo limit m ≤ m := by
  cases limit with
  | none => exact le_rfl
  | some c => exact min_le_left m c

theorem net_amount (standard : StandardEps input) (l : Ledger) (debtPool creditPool : List Nat) (limit : Option ℤ) :
    (net input l debtPool creditPool limit).2 = max 0 (reach l debtPool creditPool limit) := by
  unfold net reach
  simp only [openDebts_eq standard, openCredits_eq standard, sum_open]
  split_ifs with idle
  · exact (max_eq_left idle).symm
  · exact (max_eq_right (not_le.mp idle).le).symm

/-- The debits leave every open credit as it was. -/
theorem Round.credit_open {l mid : Ledger} (sane : Sane input l) {pool : List Nat} {n : ℤ}
    {debits : List (FifoTake Nat ℤ)} {added : List Take} (round : Round input l mid pool 1 n debits added) (i : Nat) :
    max 0 (-l.rem i) = max 0 (-1 * mid.rem i) := by
  rw [neg_one_mul]
  by_cases same : side input i = 1
  · have before := sane.rem i
    have after := (round.sane sane).rem i
    rw [same, one_mul] at before after
    rw [before, after, max_eq_left, max_eq_left]
    · exact neg_nonpos.mpr (sub_nonneg.mpr ((round.sane sane).bounded i))
    · exact neg_nonpos.mpr (sub_nonneg.mpr (sane.bounded i))
  · rw [round.rem_of_other sane same]

theorem net_netting (standard : StandardEps input) {l : Ledger} (sane : Sane input l) {debtPool creditPool : List Nat}
    (debts : Pool input debtPool) (credits : Pool input creditPool) (limit : Option ℤ) :
    ∃ mid debits creditTakes, Netting input l (net input l debtPool creditPool limit).1 debtPool creditPool
      (net input l debtPool creditPool limit).2 mid debits creditTakes := by
  unfold net
  simp only [openDebts_eq standard, openCredits_eq standard, sum_open]
  have room := upTo_le limit (min (openTotal debtPool l.rem) (openTotal creditPool fun i => -l.rem i))
  generalize upTo limit _ = n at room ⊢
  split_ifs with idle
  · exact ⟨l, [], [], le_rfl, Round.none l _ isSide_one, Round.none l _ isSide_neg, rfl, rfl⟩
  · have positive : 0 < n := not_le.mp idle
    have debitCovers := allocate_covers debts.distinct l.rem positive.le
    have creditCovers := allocate_covers credits.distinct (fun i => -l.rem i) positive.le
    generalize allocateFifo within (List.map _ (List.filter _ debtPool)) n = debits at debitCovers ⊢
    generalize allocateFifo within (List.map _ (List.filter _ creditPool)) n = creditTakes at creditCovers ⊢
    have debitRound : Round input l (recordAll input (withPairs input l debits creditTakes) .netting debits)
        debtPool 1 n debits (debits.map (sourced .netting)) := {
      isSide := isSide_one
      covers := by simpa only [one_mul] using debitCovers
      adds := (recordAll_adds debitCovers.positive _ _).of_pairs
      amounts := placed_sourced _ _
      sorted := sorted_sourced debitCovers.ids debts.increasing _ }
    refine ⟨_, debits, creditTakes, positive.le, debitRound, ?_, ?_, ?_⟩
    · exact {
        isSide := isSide_neg
        covers := creditCovers.congr fun i _ => debitRound.credit_open sane i
        adds := recordAll_adds creditCovers.positive _ _
        amounts := placed_sourced _ _
        sorted := sorted_sourced creditCovers.ids credits.increasing _ }
    · rw [debitCovers.total, min_eq_left (room.trans (min_le_left _ _))]
    · rw [creditCovers.total, min_eq_left (room.trans (min_le_right _ _))]

theorem Netting.kept {l l' mid : Ledger} {debtPool creditPool : List Nat} {n : ℤ} {debits credits : List (FifoTake Nat ℤ)}
    (netting : Netting input l l' debtPool creditPool n mid debits credits) (kept : Kept input l)
    (debts : Pool input debtPool) (creds : Pool input creditPool) : Kept input l' :=
  netting.credit.kept (netting.debit.kept kept debts) creds

theorem Netting.run {l l' mid : Ledger} {debtPool creditPool : List Nat} {n : ℤ} {debits credits : List (FifoTake Nat ℤ)}
    (netting : Netting input l l' debtPool creditPool n mid debits credits) (debts : Pool input debtPool)
    (creds : Pool input creditPool) : Relation.ReflTransGen (Passes input) l l' :=
  (Relation.ReflTransGen.single ⟨_, _, _, _, _, debts, netting.debit⟩).tail ⟨_, _, _, _, _, creds, netting.credit⟩

/-! The budget, tagged over its sources. -/

def sumFrom (source : CoverageSource) (takes : List Take) : ℤ :=
  ((takes.filter fun t => t.source = source).map (·.m)).sum

theorem sumFrom_append (source : CoverageSource) (xs ys : List Take) :
    sumFrom source (xs ++ ys) = sumFrom source xs + sumFrom source ys := by
  unfold sumFrom
  rw [List.filter_append, List.map_append, List.sum_append]

theorem sumFrom_piece (source : CoverageSource) (i : Nat) (from_ : CoverageSource) {m : ℤ} (nonneg : 0 ≤ m) :
    sumFrom source (piece i from_ m) = if from_ = source then m else 0 := by
  unfold piece sumFrom
  rcases nonneg.eq_or_lt with rfl | positive
  · simp
  · rw [if_neg (not_le.mpr positive)]
    split_ifs with same
    · simp [same]
    · simp [same]

theorem placed_piece (i : Nat) (source : CoverageSource) {m : ℤ} (nonneg : 0 ≤ m) (j : Nat) :
    placed (piece i source m) j = if i = j then m else 0 := by
  unfold piece
  rcases nonneg.eq_or_lt with rfl | positive
  · rw [if_pos le_rfl, ite_self]
    rfl
  · rw [if_neg (not_le.mpr positive), placed_single]

theorem mem_piece {i : Nat} {source : CoverageSource} {m : ℤ} {t : Take} (member : t ∈ piece i source m) :
    t.i = i ∧ t.source = source := by
  unfold piece at member
  split_ifs at member with low
  · exact absurd member List.not_mem_nil
  · rw [List.mem_singleton.mp member]
    exact ⟨rfl, rfl⟩

/-- What tagging `takes` records, and what it uses up. -/
structure Tagged (input : AllocInput) (t t' : Tagging) (takes : List (FifoTake Nat ℤ)) (added : List Take) : Prop where
  adds : Adds input t.ledger t'.ledger added
  amounts : ∀ i, placed added i = takeOf takes i
  inside : ∀ a ∈ added, a.i ∈ takes.map (·.id)
  sorted : (added.map place).Pairwise fun a b => a.1 ≤ b.1
  waived : sumFrom .waive added = t.waiveLeft - t'.waiveLeft
  commissioned : sumFrom .commission added = t.commissionLeft - t'.commissionLeft
  waiveLeft : 0 ≤ t'.waiveLeft
  commissionLeft : 0 ≤ t'.commissionLeft
  sources : ∀ a ∈ added, a.source ≠ .netting

theorem tagTake_tagged {t : Tagging} {take : FifoTake Nat ℤ} (positive : 0 < take.take) (waiveLeft : 0 ≤ t.waiveLeft)
    (commissionLeft : 0 ≤ t.commissionLeft) : ∃ added, Tagged input t (tagTake input t take) [take] added := by
  obtain ⟨fromWaive, isWaive⟩ : ∃ w, w = min take.take t.waiveLeft := ⟨_, rfl⟩
  obtain ⟨fromCommission, isCommission⟩ : ∃ c, c = min (take.take - fromWaive) t.commissionLeft := ⟨_, rfl⟩
  have waiveNonneg : 0 ≤ fromWaive := isWaive ▸ le_min positive.le waiveLeft
  have leftNonneg : 0 ≤ take.take - fromWaive := sub_nonneg.mpr (isWaive ▸ min_le_left _ _)
  have commissionNonneg : 0 ≤ fromCommission := isCommission ▸ le_min leftNonneg commissionLeft
  have paymentNonneg : 0 ≤ take.take - fromWaive - fromCommission := sub_nonneg.mpr (isCommission ▸ min_le_left _ _)
  have result : tagTake input t take = {
      ledger := record input (record input (record input t.ledger take.id .waive fromWaive) take.id .commission
        fromCommission) take.id .payment (take.take - fromWaive - fromCommission)
      waiveLeft := t.waiveLeft - fromWaive
      commissionLeft := t.commissionLeft - fromCommission } := by
    rw [isCommission, isWaive]
    rfl
  rw [result]
  refine ⟨piece take.id .waive fromWaive ++ piece take.id .commission fromCommission ++
    piece take.id .payment (take.take - fromWaive - fromCommission), ?_⟩
  have inside : ∀ a ∈ piece take.id .waive fromWaive ++ piece take.id .commission fromCommission ++
      piece take.id .payment (take.take - fromWaive - fromCommission), a.i = take.id ∧ a.source ≠ .netting := by
    intro a member
    rcases List.mem_append.mp member with before | payment
    · rcases List.mem_append.mp before with waive | commission
      · exact ⟨(mem_piece waive).1, by rw [(mem_piece waive).2]; decide⟩
      · exact ⟨(mem_piece commission).1, by rw [(mem_piece commission).2]; decide⟩
    · exact ⟨(mem_piece payment).1, by rw [(mem_piece payment).2]; decide⟩
  refine ⟨((record_adds _ _ _ _).trans (record_adds _ _ _ _)).trans (record_adds _ _ _ _), ?_, ?_, ?_, ?_, ?_, ?_, ?_, ?_⟩
  · intro i
    rw [placed_append, placed_append, placed_piece _ _ waiveNonneg, placed_piece _ _ commissionNonneg,
      placed_piece _ _ paymentNonneg, takeOf_cons]
    change _ = _ + 0
    split_ifs <;> omega
  · intro a member
    exact List.mem_singleton.mpr (inside a member).1
  · rw [List.pairwise_map]
    exact List.pairwise_of_forall_mem_list fun a memberA b memberB =>
      ((inside a memberA).1.trans (inside b memberB).1.symm).le
  · rw [sumFrom_append, sumFrom_append, sumFrom_piece _ _ _ waiveNonneg, sumFrom_piece _ _ _ commissionNonneg,
      sumFrom_piece _ _ _ paymentNonneg, if_pos rfl, if_neg (by decide), if_neg (by decide)]
    change _ = t.waiveLeft - (t.waiveLeft - fromWaive)
    omega
  · rw [sumFrom_append, sumFrom_append, sumFrom_piece _ _ _ waiveNonneg, sumFrom_piece _ _ _ commissionNonneg,
      sumFrom_piece _ _ _ paymentNonneg, if_neg (by decide), if_pos rfl, if_neg (by decide)]
    change _ = t.commissionLeft - (t.commissionLeft - fromCommission)
    omega
  · exact sub_nonneg.mpr (isWaive ▸ min_le_right _ _)
  · exact sub_nonneg.mpr (isCommission ▸ min_le_right _ _)
  · exact fun a member => (inside a member).2

theorem tag_run {takes : List (FifoTake Nat ℤ)} (positive : ∀ t ∈ takes, 0 < t.take)
    (increasing : (takes.map (·.id)).Pairwise (· < ·)) {t : Tagging} (waiveLeft : 0 ≤ t.waiveLeft)
    (commissionLeft : 0 ≤ t.commissionLeft) : ∃ added, Tagged input t (takes.foldl (tagTake input) t) takes added := by
  induction takes generalizing t with
  | nil =>
    exact ⟨[], Adds.refl _, fun _ => rfl, fun _ member => absurd member List.not_mem_nil, List.Pairwise.nil,
      (sub_self _).symm, (sub_self _).symm, waiveLeft, commissionLeft, fun _ member => absurd member List.not_mem_nil⟩
  | cons take rest ih =>
    obtain ⟨first, tagged⟩ := @tagTake_tagged input t take (positive take List.mem_cons_self) waiveLeft commissionLeft
    rw [List.map_cons, List.pairwise_cons] at increasing
    obtain ⟨later, others⟩ := ih (fun t' member => positive t' (List.mem_cons_of_mem take member)) increasing.2
      tagged.waiveLeft tagged.commissionLeft
    refine ⟨first ++ later, tagged.adds.trans others.adds, ?_, ?_, ?_, ?_, ?_, others.waiveLeft,
      others.commissionLeft, ?_⟩
    · intro i
      rw [placed_append, tagged.amounts, others.amounts, takeOf_cons, takeOf_cons]
      change _ + 0 + _ = _
      rw [add_zero]
    · intro a member
      rcases List.mem_append.mp member with here | there
      · exact List.mem_cons.mpr (Or.inl (List.mem_singleton.mp (tagged.inside a here)))
      · exact List.mem_cons_of_mem _ (others.inside a there)
    · rw [List.map_append]
      refine List.pairwise_append.mpr ⟨tagged.sorted, others.sorted, fun a memberA b memberB => ?_⟩
      obtain ⟨x, here, rfl⟩ := List.mem_map.mp memberA
      obtain ⟨y, there, rfl⟩ := List.mem_map.mp memberB
      have same : x.i = take.id := List.mem_singleton.mp (tagged.inside x here)
      change x.i ≤ y.i
      rw [same]
      exact (increasing.1 y.i (others.inside y there)).le
    · rw [sumFrom_append, tagged.waived, others.waived]
      exact sub_add_sub_cancel _ _ _
    · rw [sumFrom_append, tagged.commissioned, others.commissioned]
      exact sub_add_sub_cancel _ _ _
    · exact fun a member => (List.mem_append.mp member).elim (tagged.sources a) (others.sources a)

end Liratek.Money.AccountSettle
