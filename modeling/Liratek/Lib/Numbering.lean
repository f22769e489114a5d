import Mathlib.Data.List.Range
import Mathlib.Data.Set.Insert

/-! Numbered resends. A sender keeps copies of its unconfirmed entries, each an identity with a number, and
may send any prefix of any copy at any time. The receiver knows entries by identity and keeps every number
once. The log stays gap-free when every copy continues it, and when renumbering leaves confirmed entries alone. -/

namespace Liratek.Lib.Numbering

variable {Id : Type*}

def Knows (log : List (Id × Nat)) (id : Id) : Prop :=
  id ∈ log.map Prod.fst

theorem Knows.append {log : List (Id × Nat)} {id : Id} (known : Knows log id) (more : List (Id × Nat)) :
    Knows (log ++ more) id := by
  unfold Knows
  rw [List.map_append]
  exact List.mem_append_left _ known

/-- `first` stands before `second` in the copy. -/
def Precedes (copy : List (Id × Nat)) (first second : Id × Nat) : Prop :=
  [first, second].Sublist copy

theorem Precedes.mem_first {copy : List (Id × Nat)} {a b : Id × Nat} (before : Precedes copy a b) : a ∈ copy :=
  before.subset List.mem_cons_self

theorem Precedes.mem_second {copy : List (Id × Nat)} {a b : Id × Nat} (before : Precedes copy a b) : b ∈ copy :=
  before.subset (List.mem_cons_of_mem _ List.mem_cons_self)

/-- Numbers grow along a copy. -/
def Increasing (copy : List (Id × Nat)) : Prop :=
  copy.Pairwise fun a b => a.2 < b.2

theorem Precedes.lt {copy : List (Id × Nat)} {a b : Id × Nat} (before : Precedes copy a b)
    (increasing : Increasing copy) : a.2 < b.2 :=
  List.rel_of_pairwise_cons (increasing.sublist before) List.mem_cons_self

/-- What stands before an entry has been passed when the entry is reached. -/
theorem Precedes.mem_done {done rest : List (Id × Nat)} {a b : Id × Nat}
    (before : Precedes (done ++ b :: rest) a b) (increasing : Increasing (done ++ b :: rest)) : a ∈ done := by
  have less := before.lt increasing
  rcases List.mem_append.mp before.mem_first with early | late
  · exact early
  · exfalso
    rcases List.mem_cons.mp late with rfl | later
    · exact less.false
    · have tail := (List.pairwise_append.mp increasing).2.1
      have greater := List.rel_of_pairwise_cons tail later
      omega

/-- The log and every copy that may still reach the receiver. -/
structure Sound (log : List (Id × Nat)) (copies : Set (List (Id × Nat))) : Prop where
  /-- the log is gap-free, in the order of acceptance -/
  numbered : log.map Prod.snd = List.range' 1 log.length
  increasing : ∀ copy ∈ copies, Increasing copy
  positive : ∀ copy ∈ copies, ∀ entry ∈ copy, 1 ≤ entry.2
  /-- a copy continues the log, or itself -/
  chain : ∀ copy ∈ copies, ∀ entry ∈ copy,
    entry.2 ≤ log.length + 1 ∨ ∃ previous, Precedes copy previous entry ∧ previous.2 + 1 = entry.2
  /-- a confirmed entry is never numbered above the log -/
  confirmed : ∀ copy ∈ copies, ∀ entry ∈ copy, Knows log entry.1 → entry.2 ≤ log.length
  /-- copies agree on the order of unconfirmed entries -/
  order : ∀ one ∈ copies, ∀ two ∈ copies, ∀ w e f, Precedes one w e → f ∈ two → f.1 = e.1 →
    Knows log w.1 ∨ ∃ v, v.1 = w.1 ∧ Precedes two v f

theorem Sound.mono {log : List (Id × Nat)} {copies fewer : Set (List (Id × Nat))} (sound : Sound log copies)
    (subset : fewer ⊆ copies) : Sound log fewer where
  numbered := sound.numbered
  increasing copy member := sound.increasing copy (subset member)
  positive copy member := sound.positive copy (subset member)
  chain copy member := sound.chain copy (subset member)
  confirmed copy member := sound.confirmed copy (subset member)
  order one memberOne two memberTwo := sound.order one (subset memberOne) two (subset memberTwo)

theorem mem_numbers {log : List (Id × Nat)} (numbered : log.map Prod.snd = List.range' 1 log.length) (n : Nat) :
    n ∈ log.map Prod.snd ↔ 1 ≤ n ∧ n ≤ log.length := by
  rw [numbered, List.mem_range'_1]
  omega

/-! The receiver's step. -/

/-- One accepted entry, once everything before it in its batch is known. -/
theorem sound_accept_one {log done rest : List (Id × Nat)} {copies : Set (List (Id × Nat))} {entry : Id × Nat}
    (sound : Sound log copies) (sent : done ++ entry :: rest ∈ copies) (known : ∀ e ∈ done, Knows log e.1)
    (free : entry.2 ∉ log.map Prod.snd) : Sound (log ++ [entry]) copies := by
  have increasing := sound.increasing _ sent
  have member : entry ∈ done ++ entry :: rest := List.mem_append_right _ List.mem_cons_self
  have positive := sound.positive _ sent entry member
  have low : entry.2 ≤ log.length + 1 := by
    rcases sound.chain _ sent entry member with low | ⟨previous, before, next⟩
    · exact low
    · have passed := before.mem_done increasing
      have small := sound.confirmed _ sent previous before.mem_first (known previous passed)
      omega
  rw [mem_numbers sound.numbered] at free
  have exact : entry.2 = log.length + 1 := by omega
  have longer : (log ++ [entry]).length = log.length + 1 := by simp
  refine ⟨?_, sound.increasing, sound.positive, ?_, ?_, ?_⟩
  · rw [List.map_append, sound.numbered, longer, List.range'_concat, List.map_singleton, exact, Nat.one_mul,
      Nat.add_comm 1]
  · intro copy isCopy e there
    rcases sound.chain copy isCopy e there with small | previous
    · left
      omega
    · exact .inr previous
  · intro copy isCopy e there isKnown
    rw [longer]
    have knownOr : Knows log e.1 ∨ e.1 = entry.1 := by
      unfold Knows at isKnown ⊢
      simpa using isKnown
    rcases knownOr with old | same
    · exact (sound.confirmed copy isCopy e there old).trans (Nat.le_succ _)
    · rcases sound.chain copy isCopy e there with small | ⟨previous, before, next⟩
      · exact small
      · have previousKnown : Knows log previous.1 := by
          rcases sound.order copy isCopy _ sent previous e entry before member same.symm with old | ⟨v, named, first⟩
          · exact old
          · rw [← named]
            exact known v (first.mem_done increasing)
        have small := sound.confirmed copy isCopy previous before.mem_first previousKnown
        omega
  · intro one isOne two isTwo w e f before there same
    exact (sound.order one isOne two isTwo w e f before there same).imp_left fun old => old.append _

/-! The sender's steps. Each adds one copy made from another. -/

/-- A copy that keeps the order of another and leaves out confirmed entries only. -/
theorem sound_insert_derived {log copy new : List (Id × Nat)} {copies : Set (List (Id × Nat))}
    (sound : Sound log copies) (member : copy ∈ copies) (increasing : Increasing new)
    (positive : ∀ entry ∈ new, 1 ≤ entry.2)
    (chain : ∀ entry ∈ new,
      entry.2 ≤ log.length + 1 ∨ ∃ previous, Precedes new previous entry ∧ previous.2 + 1 = entry.2)
    (confirmed : ∀ entry ∈ new, Knows log entry.1 → entry.2 ≤ log.length)
    (fromCopy : ∀ w e, Precedes new w e → ∃ w' e', w'.1 = w.1 ∧ e'.1 = e.1 ∧ Precedes copy w' e')
    (toNew : ∀ f ∈ new, ∃ f' ∈ copy, f'.1 = f.1 ∧
      ∀ v', Precedes copy v' f' → Knows log v'.1 ∨ ∃ v, v.1 = v'.1 ∧ Precedes new v f) :
    Sound log (insert new copies) := by
  have backwards : ∀ one ∈ copies, ∀ w e f, Precedes one w e → f ∈ new → f.1 = e.1 →
      Knows log w.1 ∨ ∃ v, v.1 = w.1 ∧ Precedes new v f := by
    intro one isOne w e f before there same
    obtain ⟨f', inCopy, named, keeps⟩ := toNew f there
    rcases sound.order one isOne copy member w e f' before inCopy (named.trans same) with old | ⟨v', same', before'⟩
    · exact .inl old
    · rw [← same']
      exact keeps v' before'
  refine ⟨sound.numbered, ?_, ?_, ?_, ?_, ?_⟩
  · rintro c (rfl | old)
    · exact increasing
    · exact sound.increasing c old
  · rintro c (rfl | old)
    · exact positive
    · exact sound.positive c old
  · rintro c (rfl | old)
    · exact chain
    · exact sound.chain c old
  · rintro c (rfl | old)
    · exact confirmed
    · exact sound.confirmed c old
  · rintro one (rfl | isOne) two (rfl | isTwo) w e f before there same
    · obtain ⟨w', e', namedW, namedE, before'⟩ := fromCopy w e before
      rw [← namedW]
      exact backwards copy member w' e' f before' there (same.trans namedE.symm)
    · obtain ⟨w', e', namedW, namedE, before'⟩ := fromCopy w e before
      rw [← namedW]
      exact sound.order copy member two isTwo w' e' f before' there (same.trans namedE.symm)
    · exact backwards one isOne w e f before there same
    · exact sound.order one isOne two isTwo w e f before there same

/-- A batch: the first entries of a copy. -/
theorem sound_insert_take {log copy : List (Id × Nat)} {copies : Set (List (Id × Nat))} (sound : Sound log copies)
    (member : copy ∈ copies) (n : Nat) : Sound log (insert (copy.take n) copies) := by
  have increasing := sound.increasing copy member
  have part := List.take_sublist n copy
  have stays : ∀ p e, e ∈ copy.take n → Precedes copy p e → Precedes (copy.take n) p e := by
    intro p e inside before
    obtain ⟨done, rest, split⟩ := List.append_of_mem inside
    have whole : copy = done ++ e :: (rest ++ copy.drop n) := by
      rw [← List.cons_append, ← List.append_assoc, ← split, List.take_append_drop]
    rw [whole] at before increasing
    have passed := before.mem_done increasing
    rw [split]
    exact List.Sublist.append (List.singleton_sublist.mpr passed) (List.singleton_sublist.mpr List.mem_cons_self)
  refine sound_insert_derived sound member (increasing.sublist part)
    (fun e inside => sound.positive copy member e (part.subset inside)) ?_
    (fun e inside => sound.confirmed copy member e (part.subset inside))
    (fun w e before => ⟨w, e, rfl, rfl, before.trans part⟩) ?_
  · intro e inside
    exact (sound.chain copy member e (part.subset inside)).imp_right fun ⟨p, before, next⟩ =>
      ⟨p, stays p e inside before, next⟩
  · intro f inside
    exact ⟨f, part.subset inside, rfl, fun v before => .inr ⟨v, rfl, stays v f inside before⟩⟩

/-- Confirmed entries leave a copy. -/
theorem sound_insert_filter {log copy : List (Id × Nat)} {copies : Set (List (Id × Nat))} (sound : Sound log copies)
    (member : copy ∈ copies) (keep : Id × Nat → Bool) (dropped : ∀ e ∈ copy, keep e = false → Knows log e.1) :
    Sound log (insert (copy.filter keep) copies) := by
  have part : (copy.filter keep).Sublist copy := List.filter_sublist
  have stays : ∀ p e, e ∈ copy.filter keep → Precedes copy p e → Knows log p.1 ∨ Precedes (copy.filter keep) p e := by
    intro p e inside before
    cases kept : keep p with
    | false => exact .inl (dropped p before.mem_first kept)
    | true =>
      have both := before.filter keep
      rw [List.filter_cons_of_pos kept, List.filter_cons_of_pos (List.mem_filter.mp inside).2] at both
      exact .inr both
  refine sound_insert_derived sound member ((sound.increasing copy member).sublist part)
    (fun e inside => sound.positive copy member e (part.subset inside)) ?_
    (fun e inside => sound.confirmed copy member e (part.subset inside))
    (fun w e before => ⟨w, e, rfl, rfl, before.trans part⟩) ?_
  · intro e inside
    rcases sound.chain copy member e (part.subset inside) with low | ⟨p, before, next⟩
    · exact .inl low
    · rcases stays p e inside before with known | kept
      · have small := sound.confirmed copy member p before.mem_first known
        left
        omega
      · exact .inr ⟨p, kept, next⟩
  · intro f inside
    exact ⟨f, part.subset inside, rfl, fun v before => (stays v f inside before).imp_right fun kept => ⟨v, rfl, kept⟩⟩

/-- A fresh entry at the end of a copy, numbered next to the log or to an entry of the copy. -/
theorem sound_insert_snoc {log copy : List (Id × Nat)} {copies : Set (List (Id × Nat))} (sound : Sound log copies)
    (member : copy ∈ copies) (id : Id) (number : Nat) (unknown : ¬ Knows log id)
    (fresh : ∀ c ∈ copies, ∀ e ∈ c, e.1 ≠ id) (above : ∀ e ∈ copy, e.2 < number) (positive : 1 ≤ number)
    (next : number ≤ log.length + 1 ∨ ∃ previous ∈ copy, previous.2 + 1 = number) :
    Sound log (insert (copy ++ [(id, number)]) copies) := by
  have grows : ∀ w e, Precedes copy w e → Precedes (copy ++ [(id, number)]) w e :=
    fun w e before => before.trans (List.sublist_append_left copy _)
  have last : ∀ p ∈ copy, Precedes (copy ++ [(id, number)]) p (id, number) :=
    fun p inside => List.Sublist.append (List.singleton_sublist.mpr inside) (List.Sublist.refl _)
  have increasing : Increasing (copy ++ [(id, number)]) := by
    refine List.pairwise_append.mpr ⟨sound.increasing copy member, List.pairwise_singleton _ _, ?_⟩
    intro e inside new isNew
    rw [List.mem_singleton.mp isNew]
    exact above e inside
  have split : ∀ e, e ∈ copy ++ [(id, number)] → e ∈ copy ∨ e = (id, number) := by
    intro e inside
    exact (List.mem_append.mp inside).imp_right List.mem_singleton.mp
  have older : ∀ w e, e ∈ copy → Precedes (copy ++ [(id, number)]) w e → Precedes copy w e := by
    intro w e inside before
    obtain ⟨done, rest, whole⟩ := List.append_of_mem inside
    have longer : copy ++ [(id, number)] = done ++ e :: (rest ++ [(id, number)]) := by
      rw [whole]
      simp
    rw [longer] at before increasing
    have passed := before.mem_done increasing
    rw [whole]
    exact List.Sublist.append (List.singleton_sublist.mpr passed) (List.singleton_sublist.mpr List.mem_cons_self)
  refine ⟨sound.numbered, ?_, ?_, ?_, ?_, ?_⟩
  · rintro c (rfl | old)
    · exact increasing
    · exact sound.increasing c old
  · rintro c (rfl | old) e inside
    · rcases split e inside with was | rfl
      · exact sound.positive copy member e was
      · exact positive
    · exact sound.positive c old e inside
  · rintro c (rfl | old) e inside
    · rcases split e inside with was | rfl
      · exact (sound.chain copy member e was).imp_right fun ⟨p, before, isNext⟩ => ⟨p, grows p e before, isNext⟩
      · exact next.imp_right fun ⟨p, isThere, isNext⟩ => ⟨p, last p isThere, isNext⟩
    · exact sound.chain c old e inside
  · rintro c (rfl | old) e inside known
    · rcases split e inside with was | rfl
      · exact sound.confirmed copy member e was known
      · exact absurd known unknown
    · exact sound.confirmed c old e inside known
  · rintro one (rfl | isOne) two (rfl | isTwo) w e f before there same
    · rcases split e before.mem_second with wasE | rfl
      · rcases split f there with wasF | rfl
        · exact (sound.order copy member copy member w e f (older w e wasE before) wasF same).imp_right
            fun ⟨v, named, first⟩ => ⟨v, named, grows v f first⟩
        · exact absurd same.symm (fresh copy member e wasE)
      · rcases split f there with wasF | rfl
        · exact absurd same (fresh copy member f wasF)
        · exact .inr ⟨w, rfl, before⟩
    · rcases split e before.mem_second with wasE | rfl
      · exact sound.order copy member two isTwo w e f (older w e wasE before) there same
      · exact absurd same (fresh two isTwo f there)
    · rcases split f there with wasF | rfl
      · exact (sound.order one isOne copy member w e f before wasF same).imp_right
          fun ⟨v, named, first⟩ => ⟨v, named, grows v f first⟩
      · exact absurd same.symm (fresh one isOne e before.mem_second)
    · exact sound.order one isOne two isTwo w e f before there same

/-- New numbers from `start`, in the old order. -/
def renumber (start : Nat) : List (Id × Nat) → List (Id × Nat)
  | [] => []
  | entry :: rest => (entry.1, start) :: renumber (start + 1) rest

theorem getElem?_renumber (start : Nat) (copy : List (Id × Nat)) (i : Nat) :
    (renumber start copy)[i]? = (copy[i]?).map fun entry => (entry.1, start + i) := by
  induction copy generalizing start i with
  | nil => simp [renumber]
  | cons entry rest ih =>
    cases i with
    | zero => simp [renumber]
    | succ i =>
      simp only [renumber, List.getElem?_cons_succ, ih]
      congr 1
      funext e
      rw [Nat.add_assoc, Nat.add_comm 1 i]

theorem precedes_iff (copy : List (Id × Nat)) (a b : Id × Nat) :
    Precedes copy a b ↔ ∃ i j : Nat, i < j ∧ copy[i]? = some a ∧ copy[j]? = some b := by
  unfold Precedes
  induction copy with
  | nil => simp
  | cons x rest ih =>
    constructor
    · intro before
      cases before with
      | cons _ later =>
        obtain ⟨i, j, less, first, second⟩ := ih.mp later
        exact ⟨i + 1, j + 1, Nat.succ_lt_succ less, by simpa using first, by simpa using second⟩
      | cons_cons _ last =>
        obtain ⟨j, found⟩ := List.mem_iff_getElem?.mp (List.singleton_sublist.mp last)
        exact ⟨0, j + 1, Nat.succ_pos j, rfl, by simpa using found⟩
    · rintro ⟨i, j, less, first, second⟩
      cases j with
      | zero => exact absurd less (Nat.not_lt_zero i)
      | succ j =>
        rw [List.getElem?_cons_succ] at second
        cases i with
        | zero =>
          obtain rfl := Option.some.inj first
          exact List.Sublist.cons_cons x (List.singleton_sublist.mpr (List.mem_of_getElem? second))
        | succ i =>
          rw [List.getElem?_cons_succ] at first
          exact List.Sublist.cons x (ih.mpr ⟨i, j, Nat.lt_of_succ_lt_succ less, first, second⟩)

/-- Renumbering from the log's end, when no confirmed entry gets a number above the log. -/
theorem sound_insert_renumber {log copy : List (Id × Nat)} {copies : Set (List (Id × Nat))}
    (sound : Sound log copies) (member : copy ∈ copies) (start : Nat) (low : start ≤ log.length + 1)
    (positive : 1 ≤ start) (unmoved : ∀ e ∈ renumber start copy, Knows log e.1 → e.2 ≤ log.length) :
    Sound log (insert (renumber start copy) copies) := by
  have source : ∀ e ∈ renumber start copy, ∃ i e', copy[i]? = some e' ∧ e = (e'.1, start + i) := by
    intro e inside
    obtain ⟨i, found⟩ := List.mem_iff_getElem?.mp inside
    rw [getElem?_renumber] at found
    obtain ⟨e', there, same⟩ := Option.map_eq_some_iff.mp found
    exact ⟨i, e', there, same.symm⟩
  have place : ∀ i e', copy[i]? = some e' → (renumber start copy)[i]? = some (e'.1, start + i) := by
    intro i e' there
    rw [getElem?_renumber, there, Option.map_some]
  have increasing : Increasing (renumber start copy) := by
    rw [Increasing, List.pairwise_iff_getElem]
    intro i j insideI insideJ less
    have one := List.getElem?_eq_getElem insideI
    have two := List.getElem?_eq_getElem insideJ
    rw [getElem?_renumber] at one two
    obtain ⟨_, -, sameI⟩ := Option.map_eq_some_iff.mp one
    obtain ⟨_, -, sameJ⟩ := Option.map_eq_some_iff.mp two
    rw [← sameI, ← sameJ]
    exact Nat.add_lt_add_left less start
  refine sound_insert_derived sound member increasing ?_ ?_ unmoved ?_ ?_
  · intro e inside
    obtain ⟨i, e', -, rfl⟩ := source e inside
    exact positive.trans (Nat.le_add_right start i)
  · intro e inside
    obtain ⟨i, e', there, rfl⟩ := source e inside
    cases i with
    | zero => exact .inl low
    | succ i =>
      have shorter : i < copy.length := (Nat.lt_succ_self i).trans (List.getElem?_eq_some_iff.mp there).1
      have previous := List.getElem?_eq_getElem shorter
      refine .inr ⟨(copy[i].1, start + i), (precedes_iff _ _ _).mpr ⟨i, i + 1, Nat.lt_succ_self i, ?_, ?_⟩, rfl⟩
      · exact place i _ previous
      · exact place (i + 1) e' there
  · intro w e before
    obtain ⟨i, j, less, first, second⟩ := (precedes_iff _ _ _).mp before
    rw [getElem?_renumber] at first second
    obtain ⟨w', thereW, rfl⟩ := Option.map_eq_some_iff.mp first
    obtain ⟨e', thereE, rfl⟩ := Option.map_eq_some_iff.mp second
    exact ⟨w', e', rfl, rfl, (precedes_iff _ _ _).mpr ⟨i, j, less, thereW, thereE⟩⟩
  · intro f inside
    obtain ⟨j, f', there, rfl⟩ := source f inside
    refine ⟨f', List.mem_of_getElem? there, rfl, fun v' before => .inr ?_⟩
    obtain ⟨i, k, less, first, second⟩ := (precedes_iff _ _ _).mp before
    have distinct := sound.increasing copy member
    -- numbers grow along the copy, so its entries stand at one place each
    have here : k = j := by
      obtain ⟨insideK, sameK⟩ := List.getElem?_eq_some_iff.mp second
      obtain ⟨insideJ, sameJ⟩ := List.getElem?_eq_some_iff.mp there
      rcases Nat.lt_trichotomy k j with early | same | late
      · have less := List.pairwise_iff_getElem.mp distinct k j insideK insideJ early
        rw [sameK, sameJ] at less
        exact absurd less (Nat.lt_irrefl _)
      · exact same
      · have less := List.pairwise_iff_getElem.mp distinct j k insideJ insideK late
        rw [sameK, sameJ] at less
        exact absurd less (Nat.lt_irrefl _)
    subst here
    exact ⟨(v'.1, start + i), rfl, (precedes_iff _ _ _).mpr ⟨i, k, less, place i v' first, place k f' there⟩⟩

section
variable [DecidableEq Id]

/-- The receiver's side of one batch: known entries are passed over, a taken number ends the batch. -/
def accept : List (Id × Nat) → List (Id × Nat) → List (Id × Nat)
  | log, [] => log
  | log, entry :: rest =>
    if entry.1 ∈ log.map Prod.fst then accept log rest
    else if entry.2 ∈ log.map Prod.snd then log
    else accept (log ++ [entry]) rest

/-- A batch keeps the log gap-free. -/
theorem sound_accept {copies : Set (List (Id × Nat))} (done rest log : List (Id × Nat)) (sound : Sound log copies)
    (sent : done ++ rest ∈ copies) (known : ∀ e ∈ done, Knows log e.1) : Sound (accept log rest) copies := by
  induction rest generalizing done log with
  | nil => exact sound
  | cons entry rest ih =>
    have resent : (done ++ [entry]) ++ rest ∈ copies := by simpa using sent
    unfold accept
    split_ifs with old taken
    · refine ih (done ++ [entry]) log sound resent fun e member => ?_
      rcases List.mem_append.mp member with early | last
      · exact known e early
      · rw [List.mem_singleton.mp last]
        exact old
    · exact sound
    · refine ih (done ++ [entry]) _ (sound_accept_one sound sent known taken) resent fun e member => ?_
      rcases List.mem_append.mp member with early | last
      · exact (known e early).append _
      · rw [List.mem_singleton.mp last]
        unfold Knows
        simp

theorem accept_prefix (rest log : List (Id × Nat)) : log <+: accept log rest := by
  induction rest generalizing log with
  | nil => exact List.prefix_refl log
  | cons entry rest ih =>
    unfold accept
    split_ifs
    · exact ih log
    · exact List.prefix_refl log
    · exact (List.prefix_append log [entry]).trans (ih _)

end

end Liratek.Lib.Numbering
