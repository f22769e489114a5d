import Liratek.Offline.IdRange
import Mathlib.Data.List.Sort
import Mathlib.Logic.Function.Basic

/-! The copy a PC works on while it is offline. Its counters continue where any earlier copy stopped. -/

namespace Liratek.Offline.WorkingCopy
open IdRange

/-- Per table the highest counter used. A missing table counts as nothing. -/
abbrev Counters := String → Nat

/-- A database file, with what is read of it here. -/
structure CopyFile where
  /-- the shop of its identity -/
  tenantId : Option Nat
  /-- the tables it has, each with its value in `sqlite_sequence` -/
  tables : String → Option (Option Nat)

/-- The counter in a table's sequence, when it is this PC's and the table's. -/
def counterIn (deviceNo : Nat) (table : String) (v : Nat) : Nat :=
  match decodeOfflineId v with
  | none => 0
  | some d => if d.pc = deviceNo ∧ d.table = some table then d.n else 0

def readCounters (file : CopyFile) (deviceNo : Nat) : Counters :=
  fun table => ((file.tables table).join.map (counterIn deviceNo table)).getD 0

def mergeCounter (out v : Nat) : Nat :=
  if v ≤ maxSafeInteger ∧ out < v then v else out

def maxMerge (maps : List Counters) : Counters :=
  fun table => maps.foldl (fun out m => mergeCounter out (m table)) 0

def serverCounters (deviceNo : Nat) (server : String → Option Nat) : Counters :=
  fun table => ((server table).map fun id => max 0 (counterIn deviceNo table id)).getD 0

structure OfflineDir where
  working : Option CopyFile := none
  /-- the copies in `finished/`, by the stamp of their name -/
  finished : List (Nat × CopyFile) := []

def finishedKept : Nat := 3

/-- Newest first. -/
def listFinished (finished : List (Nat × CopyFile)) : List (Nat × CopyFile) :=
  finished.insertionSort fun a b => b.1 ≤ a.1

def pruneFinished (finished : List (Nat × CopyFile)) : List (Nat × CopyFile) :=
  (listFinished finished).take finishedKept

inductive WorkingCopyError where
  | exists
  | noIdentity
  | otherShop
  deriving DecidableEq, Repr

def WorkingCopyError.message (file : String) : WorkingCopyError → String
  | .exists => "A working copy already exists (" ++ file ++ ") — it is resumed, never overwritten"
  | .noIdentity => "The copy has no identity — it cannot be used offline"
  | .otherShop => "The copy belongs to another shop — it cannot be used offline"

def seedTable (deviceNo : Nat) (lastUsed : Counters) (tables : String → Option (Option Nat)) (entry : String × Nat) :
    String → Option (Option Nat) :=
  if (tables entry.1).isSome then
    Function.update tables entry.1 (some (some (offlineIdAt deviceNo entry.2 (lastUsed entry.1))))
  else tables

/-- Every table of the list that the copy has goes on after its last counter. -/
def seedSequences (deviceNo : Nat) (lastUsed : Counters) (tables : String → Option (Option Nat)) :
    String → Option (Option Nat) :=
  offlineIdTables.zipIdx.foldl (seedTable deviceNo lastUsed) tables

structure CreateWorkingCopyInput where
  mirror : CopyFile
  deviceNo : Nat
  tenantId : Option Nat
  pairingLastUsed : Counters
  serverMaxOfflineIds : String → Option Nat

def lastUsedOf (dir : OfflineDir) (i : CreateWorkingCopyInput) : Counters :=
  maxMerge (i.pairingLastUsed :: ((listFinished dir.finished).map fun f => readCounters f.2 i.deviceNo) ++
    [serverCounters i.deviceNo i.serverMaxOfflineIds])

def createWorkingCopy (dir : OfflineDir) (i : CreateWorkingCopyInput) :
    Except WorkingCopyError (OfflineDir × Counters) :=
  if dir.working.isSome then .error .exists
  else
    match i.mirror.tenantId with
    | none => .error .noIdentity
    | some shop =>
      if i.tenantId.any (· ≠ shop) then .error .otherShop
      else
        let lastUsed := lastUsedOf dir i
        .ok
          ({ dir with
            working := some { i.mirror with tables := seedSequences i.deviceNo lastUsed i.mirror.tables } }, lastUsed)

/-- The copy moves to `finished/`, and its counters are merged into the saved ones. -/
def finishWorkingCopy (dir : OfflineDir) (deviceNo : Nat) (previousLastUsed : Counters) (stamp : Nat) :
    OfflineDir × Counters :=
  match dir.working with
  | none => (dir, previousLastUsed)
  | some file =>
    ({ working := none
       finished := pruneFinished ((stamp, file) :: dir.finished.filter fun f => f.1 ≠ stamp) },
      maxMerge [previousLastUsed, readCounters file deviceNo])

/-- The row gets the next value of the table's sequence. -/
def insertRow (file : CopyFile) (table : String) : Option (CopyFile × Nat) :=
  (file.tables table).map fun seq =>
    let id := seq.getD 0 + 1
    ({ file with tables := Function.update file.tables table (some (some id)) }, id)

theorem createWorkingCopy_ok {dir : OfflineDir} {i : CreateWorkingCopyInput} {r : OfflineDir × Counters}
    (done : createWorkingCopy dir i = .ok r) :
    dir.working = none ∧ r.2 = lastUsedOf dir i ∧
      r.1 = { dir with
        working := some { i.mirror with tables := seedSequences i.deviceNo (lastUsedOf dir i) i.mirror.tables } } := by
  unfold createWorkingCopy at done
  split_ifs at done with there
  rcases identity : i.mirror.tenantId with _ | shop
  · simp only [identity] at done
    cases done
  · simp only [identity] at done
    split_ifs at done
    cases done
    exact ⟨Option.not_isSome_iff_eq_none.mp there, rfl, by dsimp only; rw [identity]⟩

theorem insertRow_some {file file' : CopyFile} {table : String} {id : Nat}
    (done : insertRow file table = some (file', id)) :
    ∃ seq, file.tables table = some seq ∧ id = seq.getD 0 + 1 ∧
      file'.tables = Function.update file.tables table (some (some id)) := by
  obtain ⟨seq, has, both⟩ := Option.map_eq_some_iff.mp done
  cases both
  exact ⟨seq, has, rfl, rfl⟩

/-! Counters. -/

theorem counterIn_of_decoded {deviceNo t n v : Nat} {table : String}
    (decoded : decodeOfflineId v = some { pc := deviceNo, tableIndex := t, table := some table, n := n }) :
    counterIn deviceNo table v = n := by
  unfold counterIn
  rw [decoded]
  exact if_pos ⟨rfl, rfl⟩

theorem counterIn_at {deviceNo t : Nat} {table : String} (inRange : InRange deviceNo t)
    (found : offlineTableIndex table = some t) {n : Nat} (below : n ≤ offlineNMax) :
    counterIn deviceNo table (offlineIdAt deviceNo t n) = n :=
  counterIn_of_decoded (decodeOfflineId_table inRange found below)

/-- What every merge stays below, the merge of all stays below. -/
theorem merge_below {maps : List Counters} {table : String} {bound : Nat}
    (below : ∀ m ∈ maps, ∀ out ≤ bound, mergeCounter out (m table) ≤ bound) {out : Nat} (start : out ≤ bound) :
    maps.foldl (fun out m => mergeCounter out (m table)) out ≤ bound := by
  induction maps generalizing out with
  | nil => exact start
  | cons m rest ih =>
    obtain ⟨first, others⟩ := List.forall_mem_cons.mp below
    exact ih others (first out start)

theorem maxMerge_le {maps : List Counters} {table : String} {bound : Nat} (le : ∀ m ∈ maps, m table ≤ bound) :
    maxMerge maps table ≤ bound := by
  apply merge_below _ (Nat.zero_le _)
  intro m here out start
  unfold mergeCounter
  split_ifs
  · exact le m here
  · exact start

/-- Only safe counters are taken over. -/
theorem maxMerge_safe (maps : List Counters) (table : String) : maxMerge maps table ≤ maxSafeInteger := by
  apply merge_below _ (Nat.zero_le _)
  intro m _ out start
  unfold mergeCounter
  split_ifs with more
  · exact more.1
  · exact start

theorem le_mergeCounter (out v : Nat) : out ≤ mergeCounter out v := by
  unfold mergeCounter
  split_ifs with more
  · exact more.2.le
  · exact le_refl out

theorem merge_grows (maps : List Counters) (table : String) (out : Nat) :
    out ≤ maps.foldl (fun out m => mergeCounter out (m table)) out := by
  induction maps generalizing out with
  | nil => exact le_refl out
  | cons m rest ih => exact (le_mergeCounter out (m table)).trans (ih _)

/-- No safe counter is lost. -/
theorem le_maxMerge {maps : List Counters} {table : String} {m : Counters} (here : m ∈ maps)
    (safe : m table ≤ maxSafeInteger) : m table ≤ maxMerge maps table := by
  obtain ⟨before, after, rfl⟩ := List.append_of_mem here
  unfold maxMerge
  rw [List.foldl_append, List.foldl_cons]
  refine le_trans ?_ (merge_grows after table _)
  unfold mergeCounter
  split_ifs with more
  · exact le_refl _
  · omega

/-! The sequences of a new copy. -/

section
variable {deviceNo : Nat} {lastUsed : Counters}

theorem seedTable_other (tables : String → Option (Option Nat)) {entry : String × Nat} {table : String}
    (other : table ≠ entry.1) : seedTable deviceNo lastUsed tables entry table = tables table := by
  unfold seedTable
  split_ifs
  · exact Function.update_of_ne other _ _
  · rfl

theorem seedTable_self (tables : String → Option (Option Nat)) (entry : String × Nat) :
    seedTable deviceNo lastUsed tables entry entry.1 =
      (tables entry.1).map fun _ => some (offlineIdAt deviceNo entry.2 (lastUsed entry.1)) := by
  unfold seedTable
  rcases found : tables entry.1 with _ | seq
  · rw [if_neg (by simp), found]
    rfl
  · rw [if_pos (by simp), Function.update_self]
    rfl

theorem seed_other (entries : List (String × Nat)) (tables : String → Option (Option Nat)) {table : String}
    (other : table ∉ entries.map Prod.fst) : entries.foldl (seedTable deviceNo lastUsed) tables table = tables table := by
  induction entries generalizing tables with
  | nil => rfl
  | cons entry rest ih =>
    rw [List.map_cons, List.mem_cons, not_or] at other
    rw [List.foldl_cons, ih _ other.2, seedTable_other tables other.1]

theorem seed_get {entries : List (String × Nat)} (distinct : (entries.map Prod.fst).Nodup)
    (tables : String → Option (Option Nat)) {entry : String × Nat} (here : entry ∈ entries) :
    entries.foldl (seedTable deviceNo lastUsed) tables entry.1 =
      (tables entry.1).map fun _ => some (offlineIdAt deviceNo entry.2 (lastUsed entry.1)) := by
  obtain ⟨before, after, rfl⟩ := List.append_of_mem here
  rw [List.map_append, List.map_cons, List.nodup_append] at distinct
  have later : entry.1 ∉ after.map Prod.fst := (List.nodup_cons.mp distinct.2.1).1
  have earlier : entry.1 ∉ before.map Prod.fst := fun early => distinct.2.2 _ early _ List.mem_cons_self rfl
  rw [List.foldl_append, List.foldl_cons, seed_other after _ later, seedTable_self, seed_other before tables earlier]

/-- Each table of a list without repeats gets its own place. -/
theorem seed_place {names : List String} (distinct : names.Nodup) (tables : String → Option (Option Nat))
    {table : String} {t : Nat} (found : names[t]? = some table) :
    names.zipIdx.foldl (seedTable deviceNo lastUsed) tables table =
      (tables table).map fun _ => some (offlineIdAt deviceNo t (lastUsed table)) := by
  have places : (names.zipIdx.map Prod.fst).Nodup := by
    rw [List.zipIdx_map_fst]
    exact distinct
  have here : (table, t) ∈ names.zipIdx := List.mk_mem_zipIdx_iff_getElem?.mpr found
  exact seed_get places tables here

theorem seedSequences_get (tables : String → Option (Option Nat)) {table : String} {t : Nat}
    (found : offlineTableIndex table = some t) :
    seedSequences deviceNo lastUsed tables table =
      (tables table).map fun _ => some (offlineIdAt deviceNo t (lastUsed table)) :=
  seed_place offlineIdTables_nodup tables (offlineTableIndex_get found)

end

end Liratek.Offline.WorkingCopy
