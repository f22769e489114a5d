import Liratek.Lib.Calls
import Liratek.Lib.Runs
import Liratek.Offline.WorkingCopy
import Mathlib.Data.List.Induction

/-! The ids of all the PCs of a shop, over all their outages. -/

namespace Liratek.Offline.OfflineIds
open Lib.Calls Lib.Runs IdRange WorkingCopy

/-- PCs with their numbers. -/
structure Devices (Pc : Type*) where
  deviceNo : Pc → Nat
  distinct : Function.Injective deviceNo
  inRange : ∀ pc, offlinePcMin ≤ deviceNo pc ∧ deviceNo pc ≤ offlinePcMax

theorem Devices.range {Pc : Type*} (d : Devices Pc) (pc : Pc) {table : String} {t : Nat} (found : offlineTableIndex table = some t) :
    InRange (d.deviceNo pc) t :=
  ⟨(d.inRange pc).1, (d.inRange pc).2, offlineTableIndex_le found⟩

/-- `pairing.json`, with what a working copy takes from it. -/
structure PairingFile where
  tenantId : Nat
  lastUsedIds : Counters := fun _ => 0
  serverMaxOfflineIds : String → Option Nat := fun _ => none

structure PcState where
  pairing : PairingFile
  dir : OfflineDir := {}

/-- What going offline reads from the pairing. -/
def copyInput (deviceNo : Nat) (state : PcState) (mirror : CopyFile) : CreateWorkingCopyInput where
  mirror := mirror
  deviceNo := deviceNo
  tenantId := some state.pairing.tenantId
  pairingLastUsed := state.pairing.lastUsedIds
  serverMaxOfflineIds := state.pairing.serverMaxOfflineIds

structure IssuedId (Pc : Type*) where
  pc : Pc
  table : String
  id : Nat
  deriving DecidableEq

structure World (Pc : Type*) where
  pcs : Pc → PcState
  /-- every row inserted offline, in a table of the list -/
  issued : List (IssuedId Pc) := []

inductive Action (Pc : Type*) where
  | goOffline (pc : Pc) (mirror : CopyFile)
  | insert (pc : Pc) (table : String)
  | finish (pc : Pc) (stamp : Nat)
  /-- the server has received some of the ids -/
  | checkIn (pc : Pc) (received : IssuedId Pc → Bool)

/-! What the counters of a PC say. -/

/-- A PC's counters for a table of the list, when it has inserted `used` rows. -/
structure Counts (deviceNo : Nat) (state : PcState) (table : String) (t used : Nat) : Prop where
  saved : state.pairing.lastUsedIds table ≤ used
  /-- outside an outage nothing lags -/
  idle : (∀ file ∈ state.dir.working, file.tables table = none) → state.pairing.lastUsedIds table = used
  working : ∀ file ∈ state.dir.working, ∀ seq, file.tables table = some seq → seq = some (offlineIdAt deviceNo t used)
  finished : ∀ f ∈ state.dir.finished, readCounters f.2 deviceNo table ≤ used
  server : serverCounters deviceNo state.pairing.serverMaxOfflineIds table ≤ used

/-- A new copy goes on after the last row. -/
theorem Counts.lastUsed {deviceNo : Nat} {state : PcState} {table : String} {t used : Nat}
    (counts : Counts deviceNo state table t used) (below : used ≤ offlineNMax) (standby : state.dir.working = none)
    (mirror : CopyFile) : lastUsedOf state.dir (copyInput deviceNo state mirror) table = used := by
  have idle : state.pairing.lastUsedIds table = used :=
    counts.idle fun file here => by rw [standby] at here; cases here
  apply le_antisymm
  · apply maxMerge_le
    intro m here
    rcases List.mem_append.mp here with onPc | server
    · rcases List.mem_cons.mp onPc with rfl | finished
      · exact counts.saved
      · obtain ⟨f, member, rfl⟩ := List.mem_map.mp finished
        exact counts.finished f ((List.perm_insertionSort _ _).mem_iff.mp member)
    · rw [List.mem_singleton.mp server]
      exact counts.server
  · have safe : state.pairing.lastUsedIds table ≤ maxSafeInteger := by
      rw [idle]
      exact below.trans (by decide)
    rw [← idle]
    exact le_maxMerge (List.mem_append_left _ List.mem_cons_self) safe

theorem Counts.goOffline {deviceNo : Nat} {state : PcState} {table : String} {t used : Nat}
    (counts : Counts deviceNo state table t used) (found : offlineTableIndex table = some t) (below : used ≤ offlineNMax)
    {mirror : CopyFile} {r : OfflineDir × Counters}
    (done : createWorkingCopy state.dir (copyInput deviceNo state mirror) = .ok r) :
    Counts deviceNo { state with dir := r.1 } table t used := by
  obtain ⟨standby, -, created⟩ := createWorkingCopy_ok done
  rw [created]
  constructor
  · exact counts.saved
  · intro _
    exact counts.idle fun file here => by rw [standby] at here; cases here
  · rintro file ⟨⟩ seq has
    dsimp only at has
    rw [seedSequences_get _ found, counts.lastUsed below standby mirror, Option.map_eq_some_iff] at has
    obtain ⟨_, _, rfl⟩ := has
    rfl
  · exact counts.finished
  · exact counts.server

theorem Counts.read {deviceNo : Nat} {state : PcState} {table : String} {t used : Nat}
    (counts : Counts deviceNo state table t used) (inRange : InRange deviceNo t)
    (found : offlineTableIndex table = some t) (below : used ≤ offlineNMax) {file : CopyFile}
    (here : state.dir.working = some file) {seq : Option Nat} (has : file.tables table = some seq) :
    readCounters file deviceNo table = used := by
  have value := counts.working file here seq has
  unfold readCounters
  rw [has, value, Option.join_some, Option.map_some, Option.getD_some]
  exact counterIn_at inRange found below

theorem Counts.finish {deviceNo : Nat} {state : PcState} {table : String} {t used : Nat}
    (counts : Counts deviceNo state table t used) (inRange : InRange deviceNo t)
    (found : offlineTableIndex table = some t) (below : used ≤ offlineNMax) (stamp : Nat) :
    Counts deviceNo
      { pairing :=
          { state.pairing with
            lastUsedIds := (finishWorkingCopy state.dir deviceNo state.pairing.lastUsedIds stamp).2 }
        dir := (finishWorkingCopy state.dir deviceNo state.pairing.lastUsedIds stamp).1 } table t used := by
  have safe : used ≤ maxSafeInteger := below.trans (by decide)
  rcases here : state.dir.working with _ | file
  · have same : finishWorkingCopy state.dir deviceNo state.pairing.lastUsedIds stamp =
        (state.dir, state.pairing.lastUsedIds) := by
      unfold finishWorkingCopy
      rw [here]
    rw [same]
    exact counts
  · have finished : finishWorkingCopy state.dir deviceNo state.pairing.lastUsedIds stamp =
        ({ working := none
           finished := pruneFinished ((stamp, file) :: state.dir.finished.filter fun f => f.1 ≠ stamp) },
          maxMerge [state.pairing.lastUsedIds, readCounters file deviceNo]) := by
      unfold finishWorkingCopy
      rw [here]
    have read : readCounters file deviceNo table ≤ used := by
      rcases has : file.tables table with _ | seq
      · unfold readCounters
        rw [has]
        exact Nat.zero_le used
      · exact (counts.read inRange found below here has).le
    have merged : maxMerge [state.pairing.lastUsedIds, readCounters file deviceNo] table ≤ used := by
      apply maxMerge_le
      intro m member
      rcases List.mem_cons.mp member with rfl | copy
      · exact counts.saved
      · rw [List.mem_singleton.mp copy]
        exact read
    rw [finished]
    constructor
    · exact merged
    · intro _
      apply le_antisymm merged
      rcases has : file.tables table with _ | seq
      · have idle : state.pairing.lastUsedIds table = used := by
          apply counts.idle
          intro f there
          rw [here] at there
          cases there
          exact has
        have kept : state.pairing.lastUsedIds table ≤ maxMerge [state.pairing.lastUsedIds, readCounters file deviceNo] table :=
          le_maxMerge List.mem_cons_self (by rw [idle]; exact safe)
        rw [idle] at kept
        exact kept
      · have all := counts.read inRange found below here has
        have kept : readCounters file deviceNo table ≤
            maxMerge [state.pairing.lastUsedIds, readCounters file deviceNo] table :=
          le_maxMerge (List.mem_cons_of_mem _ List.mem_cons_self) (by rw [all]; exact safe)
        rw [all] at kept
        exact kept
    · exact fun _ none => nomatch none
    · intro f there
      have listed := (List.perm_insertionSort _ _).mem_iff.mp (List.mem_of_mem_take there)
      rcases List.mem_cons.mp listed with rfl | old
      · exact read
      · exact counts.finished f (List.mem_of_mem_filter old)
    · exact counts.server

/-- The row takes the next counter of its table. -/
theorem Counts.insert {deviceNo : Nat} {state : PcState} {table : String} {t used : Nat}
    (counts : Counts deviceNo state table t used) {file file' : CopyFile} (here : state.dir.working = some file)
    {id : Nat} (inserted : insertRow file table = some (file', id)) :
    id = offlineIdAt deviceNo t (used + 1) ∧
      Counts deviceNo { state with dir := { state.dir with working := some file' } } table t (used + 1) := by
  obtain ⟨seq, has, next, tables⟩ := insertRow_some inserted
  rw [counts.working file here seq has, Option.getD_some, offlineIdAt_succ] at next
  refine ⟨next, ?_⟩
  constructor
  · exact counts.saved.trans (Nat.le_succ used)
  · intro missing
    have none := missing file' rfl
    rw [tables, Function.update_self] at none
    cases none
  · rintro f ⟨⟩ seq' there
    rw [tables, Function.update_self, next] at there
    exact (Option.some.inj there).symm
  · exact fun f there => (counts.finished f there).trans (Nat.le_succ used)
  · exact counts.server.trans (Nat.le_succ used)

theorem Counts.insert_other {deviceNo : Nat} {state : PcState} {table : String} {t used : Nat}
    (counts : Counts deviceNo state table t used) {file file' : CopyFile} (here : state.dir.working = some file)
    {target : String} (other : table ≠ target) {id : Nat} (inserted : insertRow file target = some (file', id)) :
    Counts deviceNo { state with dir := { state.dir with working := some file' } } table t used := by
  obtain ⟨_, _, _, tables⟩ := insertRow_some inserted
  constructor
  · exact counts.saved
  · intro missing
    apply counts.idle
    intro f there
    rw [here] at there
    cases there
    have none := missing file' rfl
    rwa [tables, Function.update_of_ne other] at none
  · rintro f ⟨⟩ seq has
    rw [tables, Function.update_of_ne other] at has
    exact counts.working file here seq has
  · exact counts.finished
  · exact counts.server

def issue {Pc : Type*} (issued : List (IssuedId Pc)) (entry : IssuedId Pc) : List (IssuedId Pc) :=
  if offlineIdTables.contains entry.table then issued ++ [entry] else issued

theorem issue_listed {Pc : Type*} {issued : List (IssuedId Pc)} {entry : IssuedId Pc} {t : Nat}
    (found : offlineTableIndex entry.table = some t) : issue issued entry = issued ++ [entry] := by
  have listed : entry.table ∈ offlineIdTables := List.mem_of_getElem? (offlineTableIndex_get found)
  exact if_pos (List.contains_iff_mem.mpr listed)

theorem issue_unlisted {Pc : Type*} {issued : List (IssuedId Pc)} {entry : IssuedId Pc}
    (none : offlineTableIndex entry.table = none) : issue issued entry = issued := by
  have missing : entry.table ∉ offlineIdTables := List.idxOf?_eq_none_iff.mp none
  exact if_neg fun listed => missing (List.contains_iff_mem.mp listed)

section
variable {Pc : Type*} [DecidableEq Pc]

/-- Per table the highest id of the PC that the server knows. -/
def maxOfflineIds (issued : List (IssuedId Pc)) (pc : Pc) (received : IssuedId Pc → Bool) : String → Option Nat :=
  fun table => ((issued.filter fun i => i.pc = pc && i.table = table && received i).map (·.id)).max?

def setPc (w : World Pc) (pc : Pc) (state : PcState) : World Pc :=
  { w with pcs := Function.update w.pcs pc state }

def goOffline (d : Devices Pc) (w : World Pc) (pc : Pc) (mirror : CopyFile) : World Pc :=
  leaves w ((createWorkingCopy (w.pcs pc).dir (copyInput (d.deviceNo pc) (w.pcs pc) mirror)).map fun r =>
    setPc w pc { w.pcs pc with dir := r.1 })

def insert (w : World Pc) (pc : Pc) (table : String) : World Pc :=
  match (w.pcs pc).dir.working.bind (insertRow · table) with
  | none => w
  | some (file, id) =>
    { pcs := Function.update w.pcs pc { w.pcs pc with dir := { (w.pcs pc).dir with working := some file } }
      issued := issue w.issued { pc := pc, table := table, id := id } }

def finish (d : Devices Pc) (w : World Pc) (pc : Pc) (stamp : Nat) : World Pc :=
  let finished := finishWorkingCopy (w.pcs pc).dir (d.deviceNo pc) (w.pcs pc).pairing.lastUsedIds stamp
  setPc w pc { pairing := { (w.pcs pc).pairing with lastUsedIds := finished.2 }, dir := finished.1 }

def checkIn (w : World Pc) (pc : Pc) (received : IssuedId Pc → Bool) : World Pc :=
  setPc w pc { w.pcs pc with pairing :=
    { (w.pcs pc).pairing with serverMaxOfflineIds := maxOfflineIds w.issued pc received } }

def exec (d : Devices Pc) (w : World Pc) : Action Pc → World Pc
  | .goOffline pc mirror => goOffline d w pc mirror
  | .insert pc table => insert w pc table
  | .finish pc stamp => finish d w pc stamp
  | .checkIn pc received => checkIn w pc received

/-- PCs that were never offline. -/
def newWorld (tenantId : Nat) : World Pc where
  pcs := fun _ => { pairing := { tenantId := tenantId } }

/-! The numbering of a table's rows. -/

/-- How many rows a PC has inserted in a table. -/
def given (issued : List (IssuedId Pc)) (pc : Pc) (table : String) : Nat :=
  issued.countP fun i => i.pc = pc && i.table = table

theorem given_append (issued more : List (IssuedId Pc)) (pc : Pc) (table : String) :
    given (issued ++ more) pc table = given issued pc table + given more pc table :=
  List.countP_append

theorem given_single (entry : IssuedId Pc) : given [entry] entry.pc entry.table = 1 := by
  simp [given]

theorem given_other {entry : IssuedId Pc} {pc : Pc} {table : String} (other : entry.pc ≠ pc ∨ entry.table ≠ table) :
    given [entry] pc table = 0 := by
  unfold given
  rw [List.countP_singleton, if_neg]
  rcases other with ne | ne <;> simp [ne]

/-- The id is the layout's for the counter. -/
def IssuedAs (d : Devices Pc) (entry : IssuedId Pc) (n : Nat) : Prop :=
  ∃ t, offlineTableIndex entry.table = some t ∧ entry.id = offlineIdAt (d.deviceNo entry.pc) t n

/-- The rows of each table and PC are numbered from one. -/
def Numbered (d : Devices Pc) (issued : List (IssuedId Pc)) : Prop :=
  ∀ before entry after, issued = before ++ entry :: after → IssuedAs d entry (given before entry.pc entry.table + 1)

theorem Numbered.append {d : Devices Pc} {issued : List (IssuedId Pc)} (numbered : Numbered d issued)
    {entry : IssuedId Pc} (next : IssuedAs d entry (given issued entry.pc entry.table + 1)) :
    Numbered d (issued ++ [entry]) := by
  intro before e after split
  rcases List.eq_nil_or_concat after with none | ⟨rest, last, rfl⟩
  · rw [none] at split
    obtain ⟨rfl, same⟩ := List.append_inj' split rfl
    cases same
    exact next
  · rw [List.concat_eq_append, ← List.cons_append, ← List.append_assoc] at split
    exact numbered before e rest (List.append_inj' split rfl).1

theorem Numbered.earlier {d : Devices Pc} {issued more : List (IssuedId Pc)} (numbered : Numbered d (issued ++ more)) :
    Numbered d issued := by
  intro before e after split
  apply numbered before e (after ++ more)
  rw [split, List.append_assoc, List.cons_append]

/-- Fewer rows than the layout has counters. -/
def Few (issued : List (IssuedId Pc)) : Prop :=
  ∀ pc table, given issued pc table ≤ offlineNMax

theorem Few.earlier {issued more : List (IssuedId Pc)} (few : Few (issued ++ more)) : Few issued := by
  intro pc table
  have all := few pc table
  rw [given_append] at all
  omega

theorem Numbered.decode {d : Devices Pc} {issued : List (IssuedId Pc)} (numbered : Numbered d issued) (few : Few issued)
    {before after : List (IssuedId Pc)} {entry : IssuedId Pc} (split : issued = before ++ entry :: after) :
    ∃ t, offlineTableIndex entry.table = some t ∧
      encodeOfflineId (d.deviceNo entry.pc) t (given before entry.pc entry.table + 1) = .ok entry.id ∧
      decodeOfflineId entry.id =
        some { pc := d.deviceNo entry.pc, tableIndex := t, table := some entry.table,
               n := given before entry.pc entry.table + 1 } := by
  obtain ⟨t, found, id⟩ := numbered before entry after split
  have below : given before entry.pc entry.table + 1 ≤ offlineNMax := by
    have all := few entry.pc entry.table
    rw [split, given_append, ← List.singleton_append, given_append, given_single] at all
    omega
  have inRange := d.range entry.pc found
  refine ⟨t, found, ?_, ?_⟩
  · rw [id]
    exact encodeOfflineId_at inRange (Nat.le_add_left 1 _) below
  · rw [id]
    exact decodeOfflineId_table inRange found below

/-- No two rows share an id. -/
theorem Numbered.nodup {d : Devices Pc} {issued : List (IssuedId Pc)} (numbered : Numbered d issued) (few : Few issued) :
    (issued.map (·.id)).Nodup := by
  induction issued using List.reverseRecOn with
  | nil => exact List.nodup_nil
  | append_singleton issued last ih =>
    rw [List.map_append, List.map_singleton]
    refine (ih numbered.earlier few.earlier).append (List.nodup_singleton _) ?_
    intro id here again
    rw [List.mem_singleton] at again
    obtain ⟨entry, member, same⟩ := List.mem_map.mp here
    obtain ⟨before, after, rfl⟩ := List.append_of_mem member
    obtain ⟨t, -, -, first⟩ := numbered.decode few (List.append_assoc before (entry :: after) [last])
    obtain ⟨t', -, -, second⟩ := numbered.decode few rfl
    rw [same, again, second] at first
    have parts := DecodedOfflineId.mk.inj (Option.some.inj first)
    have samePc : last.pc = entry.pc := d.distinct parts.1
    have sameTable : last.table = entry.table := Option.some.inj parts.2.2.1
    have sameCounter := parts.2.2.2
    rw [samePc, sameTable, given_append, ← List.singleton_append, given_append, given_single] at sameCounter
    omega

structure Sound (d : Devices Pc) (w : World Pc) : Prop where
  numbered : Numbered d w.issued
  counts : ∀ pc table t, offlineTableIndex table = some t →
    Counts (d.deviceNo pc) (w.pcs pc) table t (given w.issued pc table)

/-- A step of one PC that gives no id. -/
theorem Sound.setPc {d : Devices Pc} {w : World Pc} (sound : Sound d w) {pc : Pc} {state : PcState}
    (counts : ∀ table t, offlineTableIndex table = some t →
      Counts (d.deviceNo pc) state table t (given w.issued pc table)) : Sound d (setPc w pc state) := by
  refine ⟨sound.numbered, ?_⟩
  intro other table t found
  unfold OfflineIds.setPc
  dsimp only
  by_cases this : other = pc
  · rw [this, Function.update_self]
    exact counts table t found
  · rw [Function.update_of_ne this]
    exact sound.counts other table t found

theorem goOffline_sound {d : Devices Pc} {w : World Pc} (sound : Sound d w) (few : Few w.issued) (pc : Pc)
    (mirror : CopyFile) : Sound d (goOffline d w pc mirror) := by
  apply leaves_invariant sound
  intro w' done
  obtain ⟨⟨dir, lastUsed⟩, created, rfl⟩ := map_ok done
  apply sound.setPc
  intro table t found
  exact (sound.counts pc table t found).goOffline found (few pc table) created

theorem finish_sound {d : Devices Pc} {w : World Pc} (sound : Sound d w) (few : Few w.issued) (pc : Pc) (stamp : Nat) :
    Sound d (finish d w pc stamp) := by
  apply sound.setPc
  intro table t found
  exact (sound.counts pc table t found).finish (d.range pc found) found (few pc table) stamp

/-- The server knows no counter that was not used. -/
theorem serverCounters_le {d : Devices Pc} {issued : List (IssuedId Pc)} (numbered : Numbered d issued)
    (few : Few issued) (pc : Pc) (received : IssuedId Pc → Bool) (table : String) :
    serverCounters (d.deviceNo pc) (maxOfflineIds issued pc received) table ≤ given issued pc table := by
  unfold serverCounters
  rcases highest : maxOfflineIds issued pc received table with _ | id
  · exact Nat.zero_le _
  · obtain ⟨entry, member, rfl⟩ := List.mem_map.mp (List.max?_mem highest)
    obtain ⟨inside, which⟩ := List.mem_filter.mp member
    simp only [Bool.and_eq_true, decide_eq_true_eq] at which
    obtain ⟨⟨rfl, rfl⟩, -⟩ := which
    obtain ⟨before, after, rfl⟩ := List.append_of_mem inside
    obtain ⟨t, found, -, decoded⟩ := numbered.decode few rfl
    change max 0 (counterIn _ _ entry.id) ≤ _
    rw [counterIn_of_decoded decoded, given_append, ← List.singleton_append, given_append, given_single]
    omega

theorem checkIn_sound {d : Devices Pc} {w : World Pc} (sound : Sound d w) (few : Few w.issued) (pc : Pc)
    (received : IssuedId Pc → Bool) : Sound d (checkIn w pc received) := by
  apply sound.setPc
  intro table t found
  have counts := sound.counts pc table t found
  exact
    { saved := counts.saved
      idle := counts.idle
      working := counts.working
      finished := counts.finished
      server := serverCounters_le sound.numbered few pc received table }

theorem given_issue_other {issued : List (IssuedId Pc)} {entry : IssuedId Pc} {pc : Pc} {table : String}
    (other : entry.pc ≠ pc ∨ entry.table ≠ table) : given (issue issued entry) pc table = given issued pc table := by
  unfold issue
  split_ifs
  · rw [given_append, given_other other, Nat.add_zero]
  · rfl

theorem insert_sound {d : Devices Pc} {w : World Pc} (sound : Sound d w) (pc : Pc) (table : String) :
    Sound d (insert w pc table) := by
  unfold insert
  rcases done : (w.pcs pc).dir.working.bind (insertRow · table) with _ | ⟨file', id⟩
  · exact sound
  · obtain ⟨file, here, inserted⟩ := Option.bind_eq_some_iff.mp done
    constructor
    · dsimp only
      rcases found : offlineTableIndex table with _ | t
      · rw [issue_unlisted found]
        exact sound.numbered
      · rw [issue_listed found]
        have next := ((sound.counts pc table t found).insert here inserted).1
        exact sound.numbered.append ⟨t, found, next⟩
    · intro other name t found
      dsimp only
      by_cases same : other = pc
      · subst same
        rw [Function.update_self]
        by_cases this : name = table
        · subst this
          rw [issue_listed found, given_append]
          have one := given_single { pc := other, table := name, id := id }
          dsimp only at one
          rw [one]
          exact ((sound.counts other name t found).insert here inserted).2
        · rw [given_issue_other (Or.inr (Ne.symm this))]
          exact (sound.counts other name t found).insert_other here this inserted
      · rw [Function.update_of_ne same, given_issue_other (Or.inl (Ne.symm same))]
        exact sound.counts other name t found

/-! Runs. -/

theorem exec_issued (d : Devices Pc) (w : World Pc) (action : Action Pc) : w.issued <+: (exec d w action).issued := by
  cases action with
  | goOffline pc mirror =>
    change w.issued <+: (goOffline d w pc mirror).issued
    unfold goOffline
    rcases createWorkingCopy (w.pcs pc).dir (copyInput (d.deviceNo pc) (w.pcs pc) mirror) with refused | created
    · exact List.prefix_refl _
    · exact List.prefix_refl _
  | insert pc table =>
    change w.issued <+: (insert w pc table).issued
    unfold insert
    rcases (w.pcs pc).dir.working.bind (insertRow · table) with _ | ⟨file, id⟩
    · exact List.prefix_refl _
    · change w.issued <+: issue _ _
      unfold issue
      split_ifs
      · exact List.prefix_append _ _
      · exact List.prefix_refl _
  | finish pc stamp => exact List.prefix_refl _
  | checkIn pc received => exact List.prefix_refl _

theorem exec_sound {d : Devices Pc} {w : World Pc} (sound : Sound d w) (few : Few w.issued) (action : Action Pc) :
    Sound d (exec d w action) := by
  cases action with
  | goOffline pc mirror => exact goOffline_sound sound few pc mirror
  | insert pc table => exact insert_sound sound pc table
  | finish pc stamp => exact finish_sound sound few pc stamp
  | checkIn pc received => exact checkIn_sound sound few pc received

theorem Few.of_prefix {issued later : List (IssuedId Pc)} (few : Few later) (grows : issued <+: later) : Few issued := by
  obtain ⟨more, rfl⟩ := grows
  exact few.earlier

theorem newWorld_sound (d : Devices Pc) (tenantId : Nat) : Sound d (newWorld tenantId) where
  numbered := fun before entry after split => by cases before <;> cases split
  counts := fun _ _ _ _ =>
    { saved := Nat.zero_le _
      idle := fun _ => rfl
      working := fun _ none => nomatch none
      finished := fun _ none => nomatch none
      server := Nat.zero_le _ }

theorem run_sound (d : Devices Pc) (tenantId : Nat) (actions : List (Action Pc))
    (few : Few (run (exec d) (newWorld tenantId) actions).issued) :
    Sound d (run (exec d) (newWorld tenantId) actions) := by
  have keeps : ∀ w action, (Few w.issued → Sound d w) → Few (exec d w action).issued → Sound d (exec d w action) := by
    intro w action sound more
    have fewer := more.of_prefix (exec_issued d w action)
    exact exec_sound (sound fewer) fewer action
  exact run_always (fun w => Few w.issued → Sound d w) keeps (fun _ => newWorld_sound d tenantId) actions few

end

/-! The saved counters. -/

section
variable {Pc : Type*}

def saved (w : World Pc) (pc : Pc) (table : String) : Nat :=
  (w.pcs pc).pairing.lastUsedIds table

def SafeCounters (w : World Pc) : Prop :=
  ∀ pc table, saved w pc table ≤ maxSafeInteger

/-- Safe counters stay safe and do not decrease. -/
def CountersGrow (w w' : World Pc) : Prop :=
  SafeCounters w → SafeCounters w' ∧ ∀ pc table, saved w pc table ≤ saved w' pc table

theorem CountersGrow.refl (w : World Pc) : CountersGrow w w :=
  fun safe => ⟨safe, fun _ _ => le_refl _⟩

theorem CountersGrow.trans (a b c : World Pc) (first : CountersGrow a b) (second : CountersGrow b c) :
    CountersGrow a c := by
  intro safe
  obtain ⟨safe', grows⟩ := first safe
  obtain ⟨safe'', grows'⟩ := second safe'
  exact ⟨safe'', fun pc table => (grows pc table).trans (grows' pc table)⟩

variable [DecidableEq Pc]

theorem grows_at {w w' : World Pc} {pc : Pc} {state : PcState} (one : w'.pcs = Function.update w.pcs pc state)
    (safe : SafeCounters w → ∀ table, state.pairing.lastUsedIds table ≤ maxSafeInteger)
    (grows : SafeCounters w → ∀ table, saved w pc table ≤ state.pairing.lastUsedIds table) :
    CountersGrow w w' := by
  intro start
  have here : ∀ table, saved w' pc table = state.pairing.lastUsedIds table := by
    intro table
    rw [saved, one, Function.update_self]
  have elsewhere : ∀ other, other ≠ pc → ∀ table, saved w' other table = saved w other table := by
    intro other ne table
    rw [saved, one, Function.update_of_ne ne, saved]
  constructor
  · intro other table
    by_cases this : other = pc
    · rw [this, here]
      exact safe start table
    · rw [elsewhere other this]
      exact start other table
  · intro other table
    by_cases this : other = pc
    · rw [this, here]
      exact grows start table
    · rw [elsewhere other this]

theorem exec_grows (d : Devices Pc) (w : World Pc) (action : Action Pc) : CountersGrow w (exec d w action) := by
  cases action with
  | goOffline pc mirror =>
    change CountersGrow w (goOffline d w pc mirror)
    unfold goOffline
    rcases createWorkingCopy (w.pcs pc).dir (copyInput (d.deviceNo pc) (w.pcs pc) mirror) with refused | created
    · exact CountersGrow.refl w
    · exact grows_at rfl (fun start table => start pc table) fun _ _ => le_refl _
  | insert pc table =>
    change CountersGrow w (insert w pc table)
    unfold insert
    rcases (w.pcs pc).dir.working.bind (insertRow · table) with _ | ⟨file, id⟩
    · exact CountersGrow.refl w
    · exact grows_at rfl (fun start table => start pc table) fun _ _ => le_refl _
  | finish pc stamp =>
    change CountersGrow w (finish d w pc stamp)
    unfold finish finishWorkingCopy
    rcases (w.pcs pc).dir.working with _ | file
    · exact grows_at rfl (fun start table => start pc table) fun _ _ => le_refl _
    · apply grows_at rfl
      · exact fun _ table => maxMerge_safe _ table
      · exact fun start table => le_maxMerge List.mem_cons_self (start pc table)
  | checkIn pc received => exact grows_at rfl (fun start table => start pc table) fun _ _ => le_refl _

/-- The ids of all PCs are kept apart, and each says what it was given for. -/
structure IdsKept (d : Devices Pc) (issued : List (IssuedId Pc)) : Prop where
  unique : (issued.map (·.id)).Nodup
  decodes : ∀ before entry after, issued = before ++ entry :: after →
    ∃ t, offlineTableIndex entry.table = some t ∧
      encodeOfflineId (d.deviceNo entry.pc) t (given before entry.pc entry.table + 1) = .ok entry.id ∧
      decodeOfflineId entry.id =
        some { pc := d.deviceNo entry.pc, tableIndex := t, table := some entry.table,
               n := given before entry.pc entry.table + 1 }
  offline : ∀ entry ∈ issued, Channels.offlineIdFloor ≤ entry.id ∧ entry.id ≤ maxSafeInteger

theorem Sound.idsKept {d : Devices Pc} {w : World Pc} (sound : Sound d w) (few : Few w.issued) : IdsKept d w.issued where
  unique := sound.numbered.nodup few
  decodes := fun _ _ _ split => sound.numbered.decode few split
  offline := by
    intro entry here
    obtain ⟨before, after, split⟩ := List.append_of_mem here
    obtain ⟨_, _, _, decoded⟩ := sound.numbered.decode few split
    apply isOfflineId_iff.mp
    by_contra outside
    unfold decodeOfflineId at decoded
    rw [if_neg outside] at decoded
    cases decoded

/-- No PC gives an offline id again, over any number of outages, and no saved counter goes back. -/
theorem offline_ids_kept (d : Devices Pc) (tenantId : Nat) (actions : List (Action Pc))
    (few : Few (run (exec d) (newWorld tenantId) actions).issued) :
    IdsKept d (run (exec d) (newWorld tenantId) actions).issued ∧
      ∀ before more after, actions = before ++ more ++ after → ∀ pc table,
        saved (run (exec d) (newWorld tenantId) before) pc table ≤
          saved (run (exec d) (newWorld tenantId) (before ++ more)) pc table := by
  refine ⟨(run_sound d tenantId actions few).idsKept few, ?_⟩
  intro before more after _ pc table
  have start : SafeCounters (newWorld tenantId : World Pc) := fun _ _ => Nat.zero_le _
  have safe := (run_grows CountersGrow CountersGrow.refl CountersGrow.trans (exec_grows d) (newWorld tenantId) before start).1
  rw [run_append]
  exact (run_grows CountersGrow CountersGrow.refl CountersGrow.trans (exec_grows d) _ more safe).2 pc table

end

/-- PC 1 and PC 3. -/
def twoPcs : Devices Bool where
  deviceNo := fun second => if second then 3 else 1
  distinct := by
    intro a b same
    revert same
    cases a <;> cases b <;> decide
  inRange := by decide

def mirror : CopyFile where
  tenantId := some 7
  tables := fun table => if table = "sales" then some (some 2) else none

/-- Both PCs sell during one outage, and the first PC also during the next. -/
def twoOutages : List (Action Bool) :=
  [.goOffline false mirror, .goOffline true mirror, .insert false "sales", .insert true "sales", .finish false 1,
    .finish true 2, .checkIn false fun _ => false, .goOffline false mirror, .insert false "sales"]

theorem twoOutages_kept :
    IdsKept twoPcs (run (exec twoPcs) (newWorld 7) twoOutages).issued ∧
      ∀ before more after, twoOutages = before ++ more ++ after → ∀ pc table,
        saved (run (exec twoPcs) (newWorld 7) before) pc table ≤
          saved (run (exec twoPcs) (newWorld 7) (before ++ more)) pc table := by
  have short : (run (exec twoPcs) (newWorld 7) twoOutages).issued.length ≤ offlineNMax := by decide +kernel
  exact offline_ids_kept twoPcs 7 twoOutages fun _ _ => List.countP_le_length.trans short

example : (run (exec twoPcs) (newWorld 7) twoOutages).issued.map (·.id) =
    [1023000000001, 3023000000001, 1023000000002] := by decide +kernel

end Liratek.Offline.OfflineIds
