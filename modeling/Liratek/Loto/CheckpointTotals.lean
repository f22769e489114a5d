import Liratek.Lib.Groups
import Liratek.Lib.Runs
import Liratek.Loto.Checkpoints

/-! The totals of an open checkpoint and its members, over any run. -/

namespace Liratek.Loto.CheckpointTotals
open Lib Lib.Calls Lib.Groups Lib.Runs Checkpoints

/-! What a reversal leaves of the transactions. -/

def Reversed (transactions : Table Transaction) (id : Nat) : Prop :=
  ∃ r row, transactions.get r = some row ∧ row.reversesId = some id ∧ row.type = .refund ∧ row.status = .active

/-- The originals of one type, each with a source row of its own. -/
structure Owned (transactions : Table Transaction) (type : TransactionType) (n : Nat) (live : Nat → Prop) : Prop where
  below : ∀ id row, transactions.get id = some row → row.type = type → row.reversesId = none → row.sourceId < n
  once : ∀ id id' row row', transactions.get id = some row → transactions.get id' = some row' →
    row.type = type → row'.type = type → row.reversesId = none → row'.reversesId = none →
    row.sourceId = row'.sourceId → id = id'
  live : ∀ id row, transactions.get id = some row → row.type = type → row.reversesId = none →
    row.status = .active → ¬Reversed transactions id → live row.sourceId

/-- `id` was reversed and nothing else. -/
structure Reverses (id : Nat) (transactions after : Table Transaction) : Prop where
  originals : ∀ i row, after.get i = some row → row.reversesId = none →
    ∃ old, transactions.get i = some old ∧ old.type = row.type ∧ old.sourceId = row.sourceId ∧
      old.reversesId = none ∧ (row.status = .active → old.status = .active)
  stays : ∀ i, Reversed transactions i → Reversed after i
  reversed : ∀ row, after.get id = some row → row.status = .active → Reversed after id

section
variable {transactions after : Table Transaction} {type : TransactionType} {n id : Nat} {live live' : Nat → Prop}
  {original : Transaction}

theorem Reversed.insert {i : Nat} (reversed : Reversed transactions i) (row : Transaction) :
    Reversed (transactions.insert row) i := by
  obtain ⟨r, refund, found, rest⟩ := reversed
  exact ⟨r, refund, Table.get_insert_of_get found, rest⟩

theorem reverses_void (found : transactions.get id = some original) (first : original.reversesId = none) :
    Reverses id transactions ((transactions.update id fun row => { row with status := .voided }).insert
      { original with status := .active, reversesId := some id, inSession := false }) := by
  constructor
  · intro i row here isOriginal
    rcases Table.get_insert here with updated | ⟨-, rfl⟩
    · by_cases this : i = id
      · rw [this, Table.get_update_self, found] at updated
        cases updated
        exact ⟨original, this ▸ found, rfl, rfl, first, fun active => nomatch active⟩
      · rw [Table.get_update_of_ne _ _ this] at updated
        exact ⟨row, updated, rfl, rfl, isOriginal, fun active => active⟩
    · cases isOriginal
  · intro i ⟨r, refund, there, reverses, rest⟩
    apply Reversed.insert
    refine ⟨r, refund, ?_, reverses, rest⟩
    have other : r ≠ id := by
      intro same
      rw [same, found] at there
      cases there
      rw [first] at reverses
      cases reverses
    rw [Table.get_update_of_ne _ _ other, there]
  · intro row here active
    rcases Table.get_insert here with updated | ⟨last, -⟩
    · rw [Table.get_update_self, found] at updated
      cases updated
      cases active
    · rw [Table.nextId_update] at last
      exact absurd last (Table.get_lt found).ne

theorem reverses_refund :
    Reverses id transactions (transactions.insert
      { original with type := .refund, status := .active, reversesId := some id, inSession := false }) := by
  constructor
  · intro i row here isOriginal
    rcases Table.get_insert here with old | ⟨-, rfl⟩
    · exact ⟨row, old, rfl, rfl, isOriginal, fun active => active⟩
    · cases isOriginal
  · exact fun i reversed => reversed.insert _
  · exact fun row here active => ⟨_, _, Table.get_insert_self _ _, rfl, rfl, rfl⟩

theorem Owned.insert (owned : Owned transactions type n live) {row : Transaction} (first : row.reversesId = none)
    (new : row.type = type → row.sourceId = n ∧ live' row.sourceId) (more : ∀ i, live i → live' i) :
    Owned (transactions.insert row) type (n + 1) live' := by
  constructor
  · intro id old here isType isOriginal
    rcases Table.get_insert here with found | ⟨-, rfl⟩
    · exact Nat.lt_succ_of_lt (owned.below id old found isType isOriginal)
    · rw [(new isType).1]
      exact Nat.lt_succ_self n
  · intro id id' old old' here here' isType isType' isOriginal isOriginal' same
    rcases Table.get_insert here with found | ⟨last, rfl⟩ <;> rcases Table.get_insert here' with found' | ⟨last', rfl⟩
    · exact owned.once id id' old old' found found' isType isType' isOriginal isOriginal' same
    · have below := owned.below id old found isType isOriginal
      rw [same, (new isType').1] at below
      exact absurd below (lt_irrefl n)
    · have below := owned.below id' old' found' isType' isOriginal'
      rw [← same, (new isType).1] at below
      exact absurd below (lt_irrefl n)
    · rw [last, last']
  · intro id old here isType isOriginal active notReversed
    rcases Table.get_insert here with found | ⟨-, rfl⟩
    · exact more _ (owned.live id old found isType isOriginal active fun reversed => notReversed (reversed.insert row))
    · exact (new isType).2

theorem Owned.mono (owned : Owned transactions type n live) (more : ∀ i, live i → live' i) :
    Owned transactions type n live' :=
  ⟨owned.below, owned.once, fun id row found isType first active open_ =>
    more _ (owned.live id row found isType first active open_)⟩

theorem Owned.other (owned : Owned transactions type n live) {row : Transaction} (first : row.reversesId = none)
    (differs : row.type ≠ type) : Owned (transactions.insert row) type n live := by
  constructor
  · intro id old here isType isOriginal
    rcases Table.get_insert here with found | ⟨-, rfl⟩
    · exact owned.below id old found isType isOriginal
    · exact absurd isType differs
  · intro id id' old old' here here' isType isType' isOriginal isOriginal' same
    rcases Table.get_insert here with found | ⟨-, rfl⟩ <;> rcases Table.get_insert here' with found' | ⟨-, rfl⟩
    · exact owned.once id id' old old' found found' isType isType' isOriginal isOriginal' same
    · exact absurd isType' differs
    · exact absurd isType differs
    · exact absurd isType differs
  · intro id old here isType isOriginal active notReversed
    rcases Table.get_insert here with found | ⟨-, rfl⟩
    · exact owned.live id old found isType isOriginal active fun reversed => notReversed (reversed.insert row)
    · exact absurd isType differs

/-- The reversed original's source row is not live any more, the others are. -/
theorem Owned.reverse (owned : Owned transactions type n live) (found : transactions.get id = some original)
    (first : original.reversesId = none) (reverses : Reverses id transactions after)
    (others : ∀ i, live i → (original.type = type → i ≠ original.sourceId) → live' i) : Owned after type n live' := by
  constructor
  · intro i row here isType isOriginal
    obtain ⟨old, there, sameType, sameSource, oldFirst, -⟩ := reverses.originals i row here isOriginal
    rw [← sameSource]
    exact owned.below i old there (sameType.trans isType) oldFirst
  · intro i i' row row' here here' isType isType' isOriginal isOriginal' same
    obtain ⟨old, there, sameType, sameSource, oldFirst, -⟩ := reverses.originals i row here isOriginal
    obtain ⟨old', there', sameType', sameSource', oldFirst', -⟩ := reverses.originals i' row' here' isOriginal'
    exact owned.once i i' old old' there there' (sameType.trans isType) (sameType'.trans isType') oldFirst oldFirst'
      (sameSource.trans (same.trans sameSource'.symm))
  · intro i row here isType isOriginal active notReversed
    obtain ⟨old, there, sameType, sameSource, oldFirst, oldActive⟩ := reverses.originals i row here isOriginal
    have apart : i ≠ id := by
      intro same
      rw [same] at here notReversed
      exact notReversed (reverses.reversed row here active)
    rw [← sameSource]
    apply others
    · exact owned.live i old there (sameType.trans isType) oldFirst (oldActive active) fun reversed =>
        notReversed (reverses.stays i reversed)
    · intro originalType sameId
      exact apart (owned.once i id old original there found (sameType.trans isType) originalType oldFirst first sameId)

end

/-! The totals. -/

def ticketCounts (ticket : LotoTicket) : Bool :=
  !ticket.isRefunded

def ticketWorth (ticket : LotoTicket) : ℚ × ℚ × ℤ × ℚ :=
  (ticket.saleAmount, ticket.commissionAmount, 1, ticket.winnerPrize)

def prizeCounts (prize : LotoCashPrize) : Bool :=
  !prize.voided

def prizeWorth (prize : LotoCashPrize) : ℚ × ℤ :=
  (prize.prizeAmount, 1)

/-- Sales, commission, number and winners' prizes of the tickets of a checkpoint that are not refunded. -/
def ticketSums (s : Store) (checkpointId : Nat) : ℚ × ℚ × ℤ × ℚ :=
  groupSum LotoTicket.checkpointId ticketCounts s.tickets checkpointId ticketWorth

/-- The cash prizes of a checkpoint that are not voided, and their number. -/
def prizeSums (s : Store) (checkpointId : Nat) : ℚ × ℤ :=
  groupSum LotoCashPrize.checkpointId prizeCounts s.cashPrizes checkpointId prizeWorth

def ticketTotals (checkpoint : LotoCheckpoint) : ℚ × ℚ × ℤ × ℚ :=
  (checkpoint.totalSales, checkpoint.totalCommission, checkpoint.totalTickets, checkpoint.totalPrizes)

def prizeTotals (checkpoint : LotoCheckpoint) : ℚ × ℤ :=
  (checkpoint.totalCashPrizes, checkpoint.totalCashPrizesCount)

/-- The open checkpoints equal their members, and no two checkpoints share one. -/
structure InStep (s : Store) : Prop where
  tickets : ∀ c checkpoint, s.checkpoints.get c = some checkpoint → checkpoint.isSettled = false →
    ticketTotals checkpoint = ticketSums s c
  prizes : ∀ c checkpoint, s.checkpoints.get c = some checkpoint → checkpoint.isSettled = false →
    prizeTotals checkpoint = prizeSums s c
  ticketsApart : ∀ c c', c ≠ c' → List.Disjoint
    (s.tickets.select (·.checkpointId = some c)) (s.tickets.select (·.checkpointId = some c'))
  prizesApart : ∀ c c', c ≠ c' → List.Disjoint
    (s.cashPrizes.select (·.checkpointId = some c)) (s.cashPrizes.select (·.checkpointId = some c'))

def LiveTicket (s : Store) (id : Nat) : Prop :=
  ∃ ticket, s.tickets.get id = some ticket ∧ ticket.isRefunded = false

def LivePrize (s : Store) (id : Nat) : Prop :=
  ∃ prize, s.cashPrizes.get id = some prize ∧ prize.voided = false

/-- A store in step. Every ticket and prize has a transaction of its own, and its checkpoint was created. -/
structure Sound (s : Store) : Prop where
  tickets : ∀ c checkpoint, s.checkpoints.get c = some checkpoint → checkpoint.isSettled = false →
    ticketTotals checkpoint = ticketSums s c
  prizes : ∀ c checkpoint, s.checkpoints.get c = some checkpoint → checkpoint.isSettled = false →
    prizeTotals checkpoint = prizeSums s c
  ticketLink : ∀ id ticket c, s.tickets.get id = some ticket → ticket.checkpointId = some c → c < s.checkpoints.nextId
  prizeLink : ∀ id prize c, s.cashPrizes.get id = some prize → prize.checkpointId = some c → c < s.checkpoints.nextId
  sales : Owned s.transactions .loto s.tickets.nextId (LiveTicket s)
  payouts : Owned s.transactions .lotoCashPrize s.cashPrizes.nextId (LivePrize s)

theorem select_disjoint {α : Type*} (t : Table α) {p q : α → Bool} (apart : ∀ row, p row = true → q row = false) :
    List.Disjoint (t.select p) (t.select q) := by
  intro entry here there
  have chosen := (Table.mem_select.mp (show (entry.1, entry.2) ∈ t.select p from here)).2
  have chosen' := (Table.mem_select.mp (show (entry.1, entry.2) ∈ t.select q from there)).2
  rw [apart entry.2 chosen] at chosen'
  cases chosen'

section
variable {s : Store}

theorem Sound.inStep (sound : Sound s) : InStep s := by
  refine ⟨sound.tickets, sound.prizes, ?_, ?_⟩
  · intro c c' ne
    apply select_disjoint
    intro ticket linked
    rw [decide_eq_true_eq] at linked
    simpa [linked] using ne
  · intro c c' ne
    apply select_disjoint
    intro prize linked
    rw [decide_eq_true_eq] at linked
    simpa [linked] using ne

theorem sellTicket_sound (sound : Sound s) (data : SellTicketData) : Sound (sellTicket s data) := by
  constructor
  · intro c checkpoint found isOpen
    have same : ticketSums (sellTicket s data) c = ticketSums s c := groupSum_insert (Option.some_ne_none c).symm
    rw [sound.tickets c checkpoint found isOpen, same]
  · exact sound.prizes
  · intro id ticket c found linked
    rcases Table.get_insert found with old | ⟨-, rfl⟩
    · exact sound.ticketLink id ticket c old linked
    · cases linked
  · exact sound.prizeLink
  · unfold sellTicket
    dsimp only
    rw [Table.nextId_insert]
    apply sound.sales.insert rfl
    · exact fun _ => ⟨rfl, _, Table.get_insert_self _ _, rfl⟩
    · exact fun i ⟨ticket, found, live⟩ => ⟨ticket, Table.get_insert_of_get found, live⟩
  · exact sound.payouts.other rfl fun same => nomatch same

theorem recordCashPrize_sound (sound : Sound s) {prizeAmount : ℚ} {inSession : Bool} {s' : Store}
    (done : recordCashPrize s prizeAmount inSession = .ok s') : Sound s' := by
  unfold recordCashPrize at done
  split_ifs at done
  cases done
  constructor
  · exact sound.tickets
  · intro c checkpoint found isOpen
    rw [sound.prizes c checkpoint found isOpen]
    exact (groupSum_insert (Option.some_ne_none c).symm).symm
  · exact sound.ticketLink
  · intro id prize c found linked
    rcases Table.get_insert found with old | ⟨-, rfl⟩
    · exact sound.prizeLink id prize c old linked
    · cases linked
  · exact sound.sales.other rfl fun same => nomatch same
  · dsimp only
    rw [Table.nextId_insert]
    apply sound.payouts.insert rfl
    · exact fun _ => ⟨rfl, _, Table.get_insert_self _ _, rfl⟩
    · exact fun i ⟨prize, found, live⟩ => ⟨prize, Table.get_insert_of_get found, live⟩

theorem updateTicket_sound (sound : Sound s) {id : Nat} {data : LotoTicketUpdate} {s' : Store}
    (prize : ∀ ticket c checkpoint, s.tickets.get id = some ticket → ticket.isRefunded = false →
      ticket.checkpointId = some c → s.checkpoints.get c = some checkpoint → checkpoint.isSettled = false →
      (data.apply ticket).winnerPrize = ticket.winnerPrize)
    (done : updateTicket s id data = .ok s') : Sound s' := by
  unfold updateTicket at done
  split_ifs at done
  cases done
  rcases found : s.tickets.get id with _ | ticket
  · have same : s.tickets.update id data.apply = s.tickets := by
      apply Table.ext_get (Table.nextId_update _ _ _)
      intro i
      by_cases this : i = id
      · rw [this, Table.get_update_self, found]
        rfl
      · exact Table.get_update_of_ne _ _ this
    rw [same]
    exact sound
  · constructor
    · intro c checkpoint there isOpen
      rw [sound.tickets c checkpoint there isOpen]
      refine (groupSum_same found rfl rfl ?_).symm
      intro linked counted
      have kept := prize ticket c checkpoint found (Bool.not_eq_true' _ ▸ counted) linked there isOpen
      unfold ticketWorth
      rw [kept]
      rfl
    · exact sound.prizes
    · intro i row c there linked
      by_cases this : i = id
      · rw [this, Table.get_update_self, found] at there
        cases there
        exact sound.ticketLink id ticket c found linked
      · rw [Table.get_update_of_ne _ _ this] at there
        exact sound.ticketLink i row c there linked
    · exact sound.prizeLink
    · dsimp only
      rw [Table.nextId_update]
      apply sound.sales.mono
      intro i ⟨row, there, live⟩
      by_cases this : i = id
      · rw [this] at there ⊢
        exact ⟨data.apply row, by rw [Table.get_update_self, there, Option.map_some], live⟩
      · exact ⟨row, (Table.get_update_of_ne _ _ this).trans there, live⟩
    · exact sound.payouts

theorem mustExist_ok {id : Nat} {s' : Store} (done : mustExist s id = .ok s') : s' = s := by
  unfold mustExist at done
  split at done
  · cases done
  · exact (Except.ok.inj done).symm

/-! Checkpoints. -/

theorem createCheckpoint_tickets (s : Store) : (createCheckpoint s).tickets =
    s.tickets.updateWhere uncheckpointed fun ticket => { ticket with checkpointId := some s.checkpoints.nextId } :=
  Table.updates_select s.tickets uncheckpointed _

theorem createCheckpoint_cashPrizes (s : Store) : (createCheckpoint s).cashPrizes =
    s.cashPrizes.updateWhere unassigned fun prize => { prize with checkpointId := some s.checkpoints.nextId } :=
  Table.updates_select s.cashPrizes unassigned _

theorem uncheckpointed_iff {ticket : LotoTicket} :
    uncheckpointed ticket = true ↔ ticket.checkpointId = none ∧ ticket.isRefunded = false := by
  simp [uncheckpointed]

theorem unassigned_iff {prize : LotoCashPrize} :
    unassigned prize = true ↔ (prize.checkpointId = none ∧ prize.isReimbursed = false) ∧ prize.voided = false := by
  simp [unassigned]

theorem sum_ticketWorth (rows : List (Nat × LotoTicket)) : (rows.map fun entry => ticketWorth entry.2).sum =
    ((rows.map (·.2.saleAmount)).sum, (rows.map (·.2.commissionAmount)).sum, (rows.length : ℤ),
      (rows.map (·.2.winnerPrize)).sum) := by
  induction rows with
  | nil => rfl
  | cons entry rest ih =>
    simp only [List.map_cons, List.sum_cons, List.length_cons, ih]
    simp [ticketWorth, add_comm]

theorem sum_prizeWorth (rows : List (Nat × LotoCashPrize)) : (rows.map fun entry => prizeWorth entry.2).sum =
    ((rows.map (·.2.prizeAmount)).sum, (rows.length : ℤ)) := by
  induction rows with
  | nil => rfl
  | cons entry rest ih =>
    simp only [List.map_cons, List.sum_cons, List.length_cons, ih]
    simp [prizeWorth, add_comm]

theorem createCheckpoint_sound (sound : Sound s) : Sound (createCheckpoint s) := by
  constructor
  · intro c checkpoint found isOpen
    unfold ticketSums
    rw [createCheckpoint_tickets]
    rcases Table.get_insert found with old | ⟨last, rfl⟩
    · have below := (Table.get_lt old).ne
      rw [groupSum_elsewhere]
      · exact sound.tickets c checkpoint old isOpen
      · intro ticket chosen
        rw [(uncheckpointed_iff.mp chosen).1]
        exact (Option.some_ne_none c).symm
      · exact fun ticket _ linked => below (Option.some.inj linked).symm
    · rw [last, groupSum_joined]
      · unfold ticketTotals
        dsimp only
        rw [← Table.sum_select, sum_ticketWorth]
      · exact fun id ticket there linked => absurd (sound.ticketLink id ticket _ there linked) (lt_irrefl _)
      · exact fun ticket _ => rfl
      · intro ticket chosen
        simp [ticketCounts, (uncheckpointed_iff.mp chosen).2]
      · exact fun ticket => rfl
  · intro c checkpoint found isOpen
    unfold prizeSums
    rw [createCheckpoint_cashPrizes]
    rcases Table.get_insert found with old | ⟨last, rfl⟩
    · have below := (Table.get_lt old).ne
      rw [groupSum_elsewhere]
      · exact sound.prizes c checkpoint old isOpen
      · intro prize chosen
        rw [(unassigned_iff.mp chosen).1.1]
        exact (Option.some_ne_none c).symm
      · exact fun prize _ linked => below (Option.some.inj linked).symm
    · rw [last, groupSum_joined]
      · unfold prizeTotals
        dsimp only
        rw [← Table.sum_select, sum_prizeWorth]
      · exact fun id prize there linked => absurd (sound.prizeLink id prize _ there linked) (lt_irrefl _)
      · exact fun prize _ => rfl
      · intro prize chosen
        simp [prizeCounts, (unassigned_iff.mp chosen).2]
      · exact fun prize => rfl
  · intro id ticket c found linked
    have more : (createCheckpoint s).checkpoints.nextId = s.checkpoints.nextId + 1 := Table.nextId_insert _ _
    rw [createCheckpoint_tickets, Table.get_updateWhere] at found
    obtain ⟨old, there, rfl⟩ := Option.map_eq_some_iff.mp found
    split_ifs at linked
    · cases linked
      omega
    · have below := sound.ticketLink id old c there linked
      omega
  · intro id prize c found linked
    have more : (createCheckpoint s).checkpoints.nextId = s.checkpoints.nextId + 1 := Table.nextId_insert _ _
    rw [createCheckpoint_cashPrizes, Table.get_updateWhere] at found
    obtain ⟨old, there, rfl⟩ := Option.map_eq_some_iff.mp found
    split_ifs at linked
    · cases linked
      omega
    · have below := sound.prizeLink id old c there linked
      omega
  · rw [createCheckpoint_tickets, Table.nextId_updateWhere]
    apply sound.sales.mono
    intro i ⟨row, there, live⟩
    unfold LiveTicket
    rw [createCheckpoint_tickets, Table.get_updateWhere, there]
    refine ⟨_, rfl, ?_⟩
    dsimp only
    split_ifs
    · exact live
    · exact live
  · rw [createCheckpoint_cashPrizes, Table.nextId_updateWhere]
    apply sound.payouts.mono
    intro i ⟨row, there, live⟩
    unfold LivePrize
    rw [createCheckpoint_cashPrizes, Table.get_updateWhere, there]
    refine ⟨_, rfl, ?_⟩
    dsimp only
    split_ifs
    · exact live
    · exact live

theorem updateWhere_idle {α : Type*} {t : Table α} {p : α → Bool} (change : α → α) (idle : t.select p = []) :
    t.updateWhere p change = t := by
  apply Table.ext_get (Table.nextId_updateWhere _ _ _)
  intro id
  rw [Table.get_updateWhere]
  rcases found : t.get id with _ | row
  · rfl
  · have out : p row = false := by
      by_contra chosen
      have listed := Table.mem_select.mpr ⟨found, eq_true_of_ne_false chosen⟩
      rw [idle] at listed
      cases listed
    simp [out]

def unlinkTickets (s : Store) (id : Nat) : Table LotoTicket :=
  s.tickets.updateWhere (·.checkpointId = some id) fun ticket => { ticket with checkpointId := none }

def unlinkPrizes (s : Store) (id : Nat) : Table LotoCashPrize :=
  s.cashPrizes.updateWhere (·.checkpointId = some id) fun prize => { prize with checkpointId := none }

/-- A checkpoint that may be deleted, or that has no members. -/
def Deletable (s : Store) (id : Nat) : Prop :=
  (s.checkpoints.get id).any (!·.isSettled) = true ∨
    s.tickets.select (·.checkpointId = some id) = [] ∧ s.cashPrizes.select (·.checkpointId = some id) = []

theorem deleteCheckpoint_cases {id : Nat} (deletable : Deletable s id) : deleteCheckpoint s id = (s, false) ∨
    deleteCheckpoint s id =
      ({ s with
          cashPrizes := unlinkPrizes s id
          tickets := unlinkTickets s id
          checkpoints := s.checkpoints.delete id }, true) := by
  rcases deletable with open_ | ⟨noTickets, noPrizes⟩
  · obtain ⟨checkpoint, found, isOpen⟩ := (Option.any_eq_true _ _).mp open_
    rw [Bool.not_eq_true'] at isOpen
    right
    simp [deleteCheckpoint, found, isOpen, unlinkPrizes, unlinkTickets]
  · rcases found : s.checkpoints.get id with _ | checkpoint
    · left
      simp [deleteCheckpoint, found, updateWhere_idle _ noTickets, updateWhere_idle _ noPrizes]
    · rcases settled : checkpoint.isSettled with _ | _
      · right
        simp [deleteCheckpoint, found, settled, unlinkPrizes, unlinkTickets]
      · left
        simp [deleteCheckpoint, found, settled, updateWhere_idle _ noTickets, updateWhere_idle _ noPrizes]

theorem deleteCheckpoint_sound (sound : Sound s) {id : Nat} (deletable : Deletable s id) : Sound (deleteCheckpoint s id).1 := by
  rcases deleteCheckpoint_cases deletable with refused | deleted
  · rw [refused]
    exact sound
  · rw [deleted]
    have other : ∀ c checkpoint, (s.checkpoints.delete id).get c = some checkpoint →
        c ≠ id ∧ s.checkpoints.get c = some checkpoint := by
      intro c checkpoint found
      have ne : c ≠ id := by
        intro same
        rw [same, Table.get_delete_self] at found
        cases found
      exact ⟨ne, (Table.get_delete_of_ne _ ne).symm.trans found⟩
    constructor
    · intro c checkpoint found isOpen
      obtain ⟨ne, there⟩ := other c checkpoint found
      rw [sound.tickets c checkpoint there isOpen]
      refine (groupSum_elsewhere ?_ ?_).symm
      · intro ticket linked same
        rw [decide_eq_true_eq, same] at linked
        exact ne (Option.some.inj linked)
      · exact fun ticket _ => (Option.some_ne_none c).symm
    · intro c checkpoint found isOpen
      obtain ⟨ne, there⟩ := other c checkpoint found
      rw [sound.prizes c checkpoint there isOpen]
      refine (groupSum_elsewhere ?_ ?_).symm
      · intro prize linked same
        rw [decide_eq_true_eq, same] at linked
        exact ne (Option.some.inj linked)
      · exact fun prize _ => (Option.some_ne_none c).symm
    · intro i ticket c found linked
      dsimp only [unlinkTickets] at found ⊢
      rw [Table.get_updateWhere] at found
      obtain ⟨old, there, rfl⟩ := Option.map_eq_some_iff.mp found
      rw [Table.nextId_delete]
      split_ifs at linked
      exact sound.ticketLink i old c there linked
    · intro i prize c found linked
      dsimp only [unlinkPrizes] at found ⊢
      rw [Table.get_updateWhere] at found
      obtain ⟨old, there, rfl⟩ := Option.map_eq_some_iff.mp found
      rw [Table.nextId_delete]
      split_ifs at linked
      exact sound.prizeLink i old c there linked
    · dsimp only [unlinkTickets]
      rw [Table.nextId_updateWhere]
      apply sound.sales.mono
      intro i ⟨row, there, live⟩
      refine ⟨_, by rw [Table.get_updateWhere, there]; rfl, ?_⟩
      dsimp only
      split_ifs
      · exact live
      · exact live
    · dsimp only [unlinkPrizes]
      rw [Table.nextId_updateWhere]
      apply sound.payouts.mono
      intro i ⟨row, there, live⟩
      refine ⟨_, by rw [Table.get_updateWhere, there]; rfl, ?_⟩
      dsimp only
      split_ifs
      · exact live
      · exact live

/-! Voids and refunds. -/

theorem adjustOpen_get {checkpoints : Table LotoCheckpoint} {id c : Nat} {change : LotoCheckpoint → LotoCheckpoint}
    {checkpoint : LotoCheckpoint} (found : (adjustOpen checkpoints id change).get c = some checkpoint)
    (isOpen : checkpoint.isSettled = false) :
    ∃ old, checkpoints.get c = some old ∧ old.isSettled = false ∧ checkpoint = if c = id then change old else old := by
  unfold adjustOpen at found
  by_cases this : c = id
  · rw [this, Table.get_update_self] at found
    obtain ⟨old, there, rfl⟩ := Option.map_eq_some_iff.mp found
    rcases settled : old.isSettled with _ | _
    · exact ⟨old, this ▸ there, settled, by rw [if_neg Bool.false_ne_true, if_pos this]⟩
    · rw [if_pos settled, settled] at isOpen
      cases isOpen
  · rw [Table.get_update_of_ne _ _ this] at found
    exact ⟨checkpoint, found, isOpen, (if_neg this).symm⟩

theorem assertReversible_ok {original : Transaction} {allowSessionMember : Bool}
    (done : assertReversible original allowSessionMember = .ok ()) :
    original.reversesId = none ∧ original.type ≠ .refund := by
  unfold assertReversible at done
  split_ifs at done with blocked reversal member
  constructor
  · exact Option.not_isSome_iff_eq_none.mp reversal
  · intro refund
    rw [refund] at blocked
    simp [nonReversible, basketBypassable] at blocked

section
variable {original : Transaction} {id : Nat} {after : Table Transaction}

def refundTicket (tickets : Table LotoTicket) (id : Nat) : Table LotoTicket :=
  tickets.update id fun ticket => { ticket with isRefunded := true }

def voidPrize (prizes : Table LotoCashPrize) (id : Nat) : Table LotoCashPrize :=
  prizes.update id fun prize => { prize with voided := true }

def takeTicketOut (ticket : LotoTicket) (checkpoint : LotoCheckpoint) : LotoCheckpoint :=
  { checkpoint with
    totalSales := checkpoint.totalSales - ticket.saleAmount
    totalCommission := checkpoint.totalCommission - ticket.commissionAmount
    totalTickets := checkpoint.totalTickets - 1
    totalPrizes := checkpoint.totalPrizes - ticket.winnerPrize }

def takePrizeOut (prize : LotoCashPrize) (checkpoint : LotoCheckpoint) : LotoCheckpoint :=
  { checkpoint with
    totalCashPrizes := checkpoint.totalCashPrizes - prize.prizeAmount
    totalCashPrizesCount := checkpoint.totalCashPrizesCount - 1 }

theorem refundTicket_sum {tickets : Table LotoTicket} {i c : Nat} {ticket : LotoTicket}
    (there : tickets.get i = some ticket) (counted : ticket.isRefunded = false) :
    groupSum LotoTicket.checkpointId ticketCounts (refundTicket tickets i) c ticketWorth =
      groupSum LotoTicket.checkpointId ticketCounts tickets c ticketWorth -
        if ticket.checkpointId = some c then ticketWorth ticket else 0 :=
  groupSum_takenOut there rfl (by rw [ticketCounts, counted]; rfl)

theorem voidPrize_sum {prizes : Table LotoCashPrize} {i c : Nat} {prize : LotoCashPrize}
    (there : prizes.get i = some prize) (counted : prize.voided = false) :
    groupSum LotoCashPrize.checkpointId prizeCounts (voidPrize prizes i) c prizeWorth =
      groupSum LotoCashPrize.checkpointId prizeCounts prizes c prizeWorth -
        if prize.checkpointId = some c then prizeWorth prize else 0 :=
  groupSum_takenOut there rfl (by rw [prizeCounts, counted]; rfl)

theorem applyReversal_loto {ticket : LotoTicket} (sale : original.type = .loto)
    (there : s.tickets.get original.sourceId = some ticket) : applyReversal s original =
      { s with
        tickets := refundTicket s.tickets original.sourceId
        checkpoints := match ticket.checkpointId with
          | some c => adjustOpen s.checkpoints c (takeTicketOut ticket)
          | none => s.checkpoints } := by
  unfold applyReversal markSourceRefunded reverseLotoSupplierLedger reverseLotoCashPrize
  simp only [sale, Table.get_update_self, there, Option.map_some]
  cases ticket.checkpointId with
  | none => rfl
  | some c => rfl

theorem applyReversal_lotoCashPrize {prize : LotoCashPrize} (payout : original.type = .lotoCashPrize)
    (there : s.cashPrizes.get original.sourceId = some prize) : applyReversal s original =
      { s with
        cashPrizes := voidPrize s.cashPrizes original.sourceId
        checkpoints := match prize.checkpointId with
          | some c => adjustOpen s.checkpoints c (takePrizeOut prize)
          | none => s.checkpoints } := by
  unfold applyReversal markSourceRefunded reverseLotoSupplierLedger reverseLotoCashPrize
  simp only [payout, there]
  cases prize.checkpointId with
  | none => rfl
  | some c => rfl

theorem applyReversal_ticket (sound : Sound s) (found : s.transactions.get id = some original)
    (first : original.reversesId = none) (sale : original.type = .loto) (live : LiveTicket s original.sourceId)
    (reverses : Reverses id s.transactions after) : Sound (applyReversal { s with transactions := after } original) := by
  obtain ⟨ticket, there, counted⟩ := live
  have linkKept : ∀ i row c, (refundTicket s.tickets original.sourceId).get i = some row → row.checkpointId = some c → c < s.checkpoints.nextId := by
    intro i row c here linked
    by_cases this : i = original.sourceId
    · rw [this, refundTicket, Table.get_update_self, there] at here
      cases here
      exact sound.ticketLink _ ticket c there linked
    · rw [refundTicket, Table.get_update_of_ne _ _ this] at here
      exact sound.ticketLink i row c here linked
  have sales : Owned after .loto (refundTicket s.tickets original.sourceId).nextId fun i =>
      ∃ row, (refundTicket s.tickets original.sourceId).get i = some row ∧ row.isRefunded = false := by
    rw [refundTicket, Table.nextId_update]
    apply sound.sales.reverse found first reverses
    intro i ⟨row, here, liveRow⟩ other
    exact ⟨row, (Table.get_update_of_ne _ _ (other sale)).trans here, liveRow⟩
  have payouts : Owned after .lotoCashPrize s.cashPrizes.nextId (LivePrize s) :=
    sound.payouts.reverse found first reverses fun i livePrize _ => livePrize
  rw [applyReversal_loto (s := { s with transactions := after }) sale there]
  rcases link : ticket.checkpointId with _ | group
  · refine ⟨?_, sound.prizes, linkKept, sound.prizeLink, sales, payouts⟩
    intro c checkpoint here isOpen
    have taken := refundTicket_sum (c := c) there counted
    rw [link, if_neg (Option.some_ne_none c).symm, sub_zero] at taken
    exact (sound.tickets c checkpoint here isOpen).trans taken.symm
  · constructor
    · intro c checkpoint here isOpen
      obtain ⟨old, was, wasOpen, same⟩ := adjustOpen_get here isOpen
      have taken := refundTicket_sum (c := c) there counted
      refine Eq.trans ?_ taken.symm
      rw [same, link]
      have sums := sound.tickets c old was wasOpen
      by_cases this : c = group
      · rw [if_pos this, if_pos (congrArg some this.symm), ← ticketSums, ← sums]
        rfl
      · rw [if_neg this, if_neg fun linked => this (Option.some.inj linked).symm, sub_zero]
        exact sums
    · intro c checkpoint here isOpen
      obtain ⟨old, was, wasOpen, same⟩ := adjustOpen_get here isOpen
      have sums := sound.prizes c old was wasOpen
      rw [same]
      split_ifs
      · exact sums
      · exact sums
    · intro i row c here linked
      exact (linkKept i row c here linked).trans_eq (Table.nextId_update _ _ _).symm
    · intro i row c here linked
      exact (sound.prizeLink i row c here linked).trans_eq (Table.nextId_update _ _ _).symm
    · exact sales
    · exact payouts

theorem applyReversal_prize (sound : Sound s) (found : s.transactions.get id = some original)
    (first : original.reversesId = none) (payout : original.type = .lotoCashPrize) (live : LivePrize s original.sourceId)
    (reverses : Reverses id s.transactions after) : Sound (applyReversal { s with transactions := after } original) := by
  obtain ⟨prize, there, counted⟩ := live
  have linkKept : ∀ i row c, (voidPrize s.cashPrizes original.sourceId).get i = some row → row.checkpointId = some c → c < s.checkpoints.nextId := by
    intro i row c here linked
    by_cases this : i = original.sourceId
    · rw [this, voidPrize, Table.get_update_self, there] at here
      cases here
      exact sound.prizeLink _ prize c there linked
    · rw [voidPrize, Table.get_update_of_ne _ _ this] at here
      exact sound.prizeLink i row c here linked
  have payouts : Owned after .lotoCashPrize (voidPrize s.cashPrizes original.sourceId).nextId fun i =>
      ∃ row, (voidPrize s.cashPrizes original.sourceId).get i = some row ∧ row.voided = false := by
    rw [voidPrize, Table.nextId_update]
    apply sound.payouts.reverse found first reverses
    intro i ⟨row, here, liveRow⟩ other
    exact ⟨row, (Table.get_update_of_ne _ _ (other payout)).trans here, liveRow⟩
  have sales : Owned after .loto s.tickets.nextId (LiveTicket s) :=
    sound.sales.reverse found first reverses fun i liveTicket _ => liveTicket
  rw [applyReversal_lotoCashPrize (s := { s with transactions := after }) payout there]
  rcases link : prize.checkpointId with _ | group
  · refine ⟨sound.tickets, ?_, sound.ticketLink, linkKept, sales, payouts⟩
    intro c checkpoint here isOpen
    have taken := voidPrize_sum (c := c) there counted
    rw [link, if_neg (Option.some_ne_none c).symm, sub_zero] at taken
    exact (sound.prizes c checkpoint here isOpen).trans taken.symm
  · constructor
    · intro c checkpoint here isOpen
      obtain ⟨old, was, wasOpen, same⟩ := adjustOpen_get here isOpen
      have sums := sound.tickets c old was wasOpen
      rw [same]
      split_ifs
      · exact sums
      · exact sums
    · intro c checkpoint here isOpen
      obtain ⟨old, was, wasOpen, same⟩ := adjustOpen_get here isOpen
      have taken := voidPrize_sum (c := c) there counted
      refine Eq.trans ?_ taken.symm
      rw [same, link]
      have sums := sound.prizes c old was wasOpen
      by_cases this : c = group
      · rw [if_pos this, if_pos (congrArg some this.symm), ← prizeSums, ← sums]
        rfl
      · rw [if_neg this, if_neg fun linked => this (Option.some.inj linked).symm, sub_zero]
        exact sums
    · intro i row c here linked
      exact (sound.ticketLink i row c here linked).trans_eq (Table.nextId_update _ _ _).symm
    · intro i row c here linked
      exact (linkKept i row c here linked).trans_eq (Table.nextId_update _ _ _).symm
    · exact sales
    · exact payouts

theorem applyReversal_sound (sound : Sound s) (found : s.transactions.get id = some original)
    (first : original.reversesId = none) (notRefund : original.type ≠ .refund) (active : original.status = .active)
    (open_ : ¬Reversed s.transactions id) (reverses : Reverses id s.transactions after) :
    Sound (applyReversal { s with transactions := after } original) := by
  cases kind : original.type with
  | loto =>
    exact applyReversal_ticket sound found first kind (sound.sales.live id original found kind first active open_) reverses
  | lotoCashPrize =>
    exact applyReversal_prize sound found first kind (sound.payouts.live id original found kind first active open_) reverses
  | refund => exact absurd kind notRefund

theorem mem_refundsOf {r : Nat} {row : Transaction} :
    (r, row) ∈ refundsOf s id ↔ s.transactions.get r = some row ∧ row.reversesId = some id ∧ row.type = .refund := by
  unfold refundsOf
  rw [Table.mem_select, Bool.and_eq_true, decide_eq_true_eq, decide_eq_true_eq]

theorem assertVoidable_ok {allowSessionMember : Bool} (done : assertVoidable s original allowSessionMember = .ok ()) :
    original.reversesId = none ∧ original.type ≠ .refund := by
  obtain ⟨_, reversible, -⟩ := bind_ok done
  exact assertReversible_ok reversible

theorem voidTransaction_sound (sound : Sound s) {allowSessionMember : Bool} {s' : Store}
    (done : voidTransaction s id allowSessionMember = .ok s') : Sound s' := by
  unfold voidTransaction at done
  split at done
  · cases done
  · rename_i original found
    rw [ite_eq_iff'] at done
    have active : original.status = .active := by
      cases status : original.status with
      | active => rfl
      | voided => exact nomatch done.1 status
    obtain ⟨_, voidable, checked⟩ := bind_ok (done.2 (active ▸ nofun))
    obtain ⟨first, notRefund⟩ := assertVoidable_ok voidable
    split_ifs at checked with refunded
    cases checked
    have open_ : ¬Reversed s.transactions id := by
      intro ⟨r, row, there, reverses, refund, active⟩
      apply refunded
      rw [List.any_eq_true]
      exact ⟨(r, row), mem_refundsOf.mpr ⟨there, reverses, refund⟩, by simp [active]⟩
    exact applyReversal_sound sound found first notRefund active open_ (reverses_void found first)

theorem refundTransaction_sound (sound : Sound s) {allowSessionMember : Bool} {s' : Store}
    (done : refundTransaction s id allowSessionMember = .ok s') : Sound s' := by
  unfold refundTransaction at done
  split at done
  · cases done
  · rename_i original found
    rw [ite_eq_iff'] at done
    have active : original.status = .active := by
      cases status : original.status with
      | active => rfl
      | voided => exact nomatch done.1 status
    obtain ⟨_, voidable, checked⟩ := bind_ok (done.2 (active ▸ nofun))
    obtain ⟨first, notRefund⟩ := assertVoidable_ok voidable
    split_ifs at checked with refunded
    cases checked
    have open_ : ¬Reversed s.transactions id := by
      intro ⟨r, row, there, reverses, refund, _⟩
      exact refunded (List.ne_nil_of_mem (mem_refundsOf.mpr ⟨there, reverses, refund⟩))
    exact applyReversal_sound sound found first notRefund active open_ reverses_refund

end

end

/-! Runs. -/

def inOpenCheckpoint (s : Store) (ticket : LotoTicket) : Bool :=
  ticket.checkpointId.any fun c => (s.checkpoints.get c).any (!·.isSettled)

/-- The update leaves alone what a counted ticket of an open checkpoint has won. -/
def PrizeKept (s : Store) (id : Nat) (data : LotoTicketUpdate) : Prop :=
  data.editsSale = true ∨ (s.tickets.get id).all (fun ticket =>
    ticket.isRefunded || !inOpenCheckpoint s ticket || (data.apply ticket).winnerPrize == ticket.winnerPrize) = true

def Kept (s : Store) : Action → Prop
  | .updateTicket id data => PrizeKept s id data
  | .markWinner id prizeAmount => PrizeKept s id { isWinner := some true, prizeAmount := some prizeAmount }
  | .deleteCheckpoint id => Deletable s id
  | _ => True

instance (s : Store) (action : Action) : Decidable (Kept s action) := by
  unfold Kept PrizeKept Deletable
  cases action <;> infer_instance

section
variable {s : Store}

theorem PrizeKept.winnerPrize {id : Nat} {data : LotoTicketUpdate} (kept : PrizeKept s id data)
    (accepted : data.editsSale ≠ true) {ticket : LotoTicket} {c : Nat} {checkpoint : LotoCheckpoint}
    (found : s.tickets.get id = some ticket) (counted : ticket.isRefunded = false) (linked : ticket.checkpointId = some c)
    (there : s.checkpoints.get c = some checkpoint) (isOpen : checkpoint.isSettled = false) :
    (data.apply ticket).winnerPrize = ticket.winnerPrize := by
  have gathered : inOpenCheckpoint s ticket = true := by
    simp [inOpenCheckpoint, linked, there, isOpen]
  rcases kept with edits | kept
  · exact absurd edits accepted
  · rw [found] at kept
    simpa [counted, gathered] using kept

theorem update_kept (sound : Sound s) {id : Nat} {data : LotoTicketUpdate} (kept : PrizeKept s id data) {s' : Store}
    (done : updateTicket s id data = .ok s') : Sound s' := by
  have accepted : data.editsSale ≠ true := by
    intro edits
    rw [updateTicket, if_pos edits] at done
    cases done
  exact updateTicket_sound sound (fun _ _ _ found counted linked there isOpen =>
    kept.winnerPrize accepted found counted linked there isOpen) done

theorem exec_sound (sound : Sound s) {action : Action} (kept : Kept s action) : Sound (exec s action) := by
  cases action with
  | sellTicket data => exact sellTicket_sound sound data
  | recordCashPrize prizeAmount inSession => exact leaves_invariant sound fun s' done => recordCashPrize_sound sound done
  | updateTicket id data => exact leaves_invariant sound fun s' done => update_kept sound kept done
  | markWinner id prizeAmount =>
    apply leaves_invariant sound
    intro s' done
    obtain ⟨updated, changed, exists_⟩ := bind_ok done
    rw [mustExist_ok exists_]
    exact update_kept sound kept changed
  | payPrize id paidDate =>
    apply leaves_invariant sound
    intro s' done
    obtain ⟨updated, changed, exists_⟩ := bind_ok done
    rw [mustExist_ok exists_]
    exact updateTicket_sound sound (fun _ _ _ _ _ _ _ _ => rfl) changed
  | createCheckpoint => exact createCheckpoint_sound sound
  | deleteCheckpoint id => exact deleteCheckpoint_sound sound kept
  | voidTransaction id allowSessionMember => exact leaves_invariant sound fun s' done => voidTransaction_sound sound done
  | refundTransaction id allowSessionMember => exact leaves_invariant sound fun s' done => refundTransaction_sound sound done

end

/-- From any store in step, a run that changes no prize inside an open checkpoint and deletes no settled or missing
checkpoint with members keeps every open checkpoint equal to its members, and a refused delete changes nothing. -/
theorem checkpoints_in_step {start : Store} (sound : Sound start) {actions : List Action}
    (kept : Meets exec Kept start actions) :
    InStep (run exec start actions) ∧
      ∀ before id after, actions = before ++ .deleteCheckpoint id :: after →
        (deleteCheckpoint (run exec start before) id).2 = false →
        (deleteCheckpoint (run exec start before) id).1 = run exec start before := by
  have keeps : ∀ s action, Sound s → Kept s action → Sound (exec s action) :=
    fun s action sound kept => exec_sound sound kept
  constructor
  · exact (run_invariant keeps sound kept).inStep
  · intro before id after split refused
    rw [split, meets_append] at kept
    have deletable : Deletable (run exec start before) id := kept.2.1
    rcases deleteCheckpoint_cases deletable with same | deleted
    · rw [same]
    · rw [deleted] at refused
      cases refused

theorem owned_empty (type : TransactionType) (live : Nat → Prop) : Owned {} type 0 live where
  below id _ found := nomatch (Table.get_empty id).symm.trans found
  once id _ _ _ found := nomatch (Table.get_empty id).symm.trans found
  live id _ found := nomatch (Table.get_empty id).symm.trans found

theorem start_sound : Sound {} where
  tickets c _ found := nomatch (Table.get_empty c).symm.trans found
  prizes c _ found := nomatch (Table.get_empty c).symm.trans found
  ticketLink id _ _ found := nomatch (Table.get_empty id).symm.trans found
  prizeLink id _ _ found := nomatch (Table.get_empty id).symm.trans found
  sales := owned_empty _ _
  payouts := owned_empty _ _

def soldTicket : SellTicketData :=
  { saleAmount := 500000, commissionRate := 89 / 2000 }

/-- A ticket wins after its checkpoint was created. -/
def wonInside : List Action :=
  [.sellTicket soldTicket, .createCheckpoint, .markWinner 0 2000000]

/-- A settled checkpoint with one ticket. -/
def settledStore : Store :=
  { tickets := ⟨[some
      { saleAmount := 500000, commissionRate := 89 / 2000, commissionAmount := 22250, checkpointId := some 0 }]⟩
    checkpoints := ⟨[some
      { totalSales := 500000
        totalCommission := 22250
        totalTickets := 1
        totalPrizes := 0
        totalCashPrizes := 0
        totalCashPrizesCount := 0
        isSettled := true }]⟩
    transactions := ⟨[some { type := .loto, sourceId := 0 }]⟩ }

theorem wonInside_not_in_step : ¬InStep (run exec {} wonInside) ∧
    (deleteCheckpoint settledStore 0).2 = false ∧ (deleteCheckpoint settledStore 0).1 ≠ settledStore := by
  refine ⟨?_, by decide +kernel, by decide +kernel⟩
  intro inStep
  have created : (run exec {} wonInside).checkpoints.get 0 =
      some ⟨500000, 22250, 1, 0, 0, 0, false⟩ := by decide +kernel
  have same := inStep.tickets 0 _ created rfl
  have prizes : (ticketSums (run exec {} wonInside) 0).2.2.2 = 2000000 := by decide +kernel
  rw [← same] at prizes
  exact absurd prizes (by decide +kernel)

theorem wonOutside_in_step :
    InStep (run exec {} [.sellTicket soldTicket, .markWinner 0 2000000, .recordCashPrize 300000 true, .createCheckpoint,
      .voidTransaction 1 true, .refundTransaction 0 false, .deleteCheckpoint 0, .deleteCheckpoint 0]) ∧
      ∀ before id after, [.sellTicket soldTicket, .markWinner 0 2000000, .recordCashPrize 300000 true, .createCheckpoint,
        .voidTransaction 1 true, .refundTransaction 0 false, .deleteCheckpoint 0, .deleteCheckpoint 0] =
          before ++ Action.deleteCheckpoint id :: after →
        (deleteCheckpoint (run exec {} before) id).2 = false →
        (deleteCheckpoint (run exec {} before) id).1 = run exec {} before :=
  checkpoints_in_step start_sound (by decide +kernel)

end Liratek.Loto.CheckpointTotals
