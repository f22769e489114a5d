import Liratek.Lib.Runs
import Liratek.Tenant.DatabasePool

/-! Whole runs of the pool: one open connection for a tenant, migrated before it is handed out, never more than the cap, and closed
in a transaction at shutdown only. -/

namespace Liratek.Tenant.PoolRuns
open Lib Lib.Runs DatabasePool

structure Sound (s : System) : Prop where
  entry : ∀ t e, s.entries.get t = some e → ∃ c, s.connections.get e.db = some c ∧ c.tenantId = t ∧ c.isMigrated = true ∧ c.isOpen = true
  opened : ∀ db c, s.connections.get db = some c → c.isOpen = true →
    (∃ e, s.entries.get c.tenantId = some e ∧ e.db = db) ∨ .leaked db ∈ s.log
  poisoned : ∀ t e, s.entries.get t = some e → s.poisoned.get t = none
  closes : ∀ db atShutdown, .closed db true atShutdown ∈ s.log → atShutdown = true

theorem sound_empty : Sound {} where
  entry _ _ found := by cases found
  opened _ _ found := by cases found
  poisoned _ _ found := by cases found
  closes _ _ member := by cases member

section
variable {filePath : ℕ → String} {maxOpen : ℕ} {idleMs : ℤ} {s : System} {outside : Outside} {t : ℕ}

/-- Two tenants have two connections. -/
theorem Sound.same_tenant (sound : Sound s) {t' : ℕ} {e e' : PoolEntry} (there : s.entries.get t = some e)
    (there' : s.entries.get t' = some e') (same : e.db = e'.db) : t = t' := by
  obtain ⟨c, found, isT, -⟩ := sound.entry t e there
  obtain ⟨c', found', isT', -⟩ := sound.entry t' e' there'
  rw [same, found'] at found
  cases found
  exact isT.symm.trans isT'

theorem closeConnection_get {db other : ℕ} {atShutdown : Bool} {c : Connection}
    (is : (s.closeConnection outside db atShutdown).connections.get other = some c) (isOpen : c.isOpen = true) :
    s.connections.get other = some c ∧ (other = db → outside.closeFails db = true) := by
  unfold System.closeConnection at is
  split_ifs at is with fails
  · exact ⟨is, fun _ => fails⟩
  · dsimp only at is
    by_cases isIt : other = db
    · rw [isIt, Table.get_update_self] at is
      obtain ⟨before, -, rfl⟩ := Option.map_eq_some_iff.mp is
      cases isOpen
    · rw [Table.get_update_of_ne _ _ isIt] at is
      exact ⟨is, fun same => absurd same isIt⟩

theorem closeConnection_other {db other : ℕ} {atShutdown : Bool} (ne : other ≠ db) :
    (s.closeConnection outside db atShutdown).connections.get other = s.connections.get other := by
  unfold System.closeConnection
  split_ifs
  · rfl
  · exact Table.get_update_of_ne _ _ ne

@[simp] theorem closeConnection_entries (s : System) (outside : Outside) (db : ℕ) (atShutdown : Bool) :
    (s.closeConnection outside db atShutdown).entries = s.entries := by
  unfold System.closeConnection
  split_ifs <;> rfl

@[simp] theorem closeConnection_poisoned (s : System) (outside : Outside) (db : ℕ) (atShutdown : Bool) :
    (s.closeConnection outside db atShutdown).poisoned = s.poisoned := by
  unfold System.closeConnection
  split_ifs <;> rfl

theorem closeConnection_log (s : System) (outside : Outside) (db : ℕ) (atShutdown : Bool) :
    (s.closeConnection outside db atShutdown).log =
      (if outside.closeFails db then .leaked db else .closed db (s.inTransaction db) atShutdown) :: s.log := by
  unfold System.closeConnection
  split_ifs <;> rfl

/-- An entry goes with its connection. -/
theorem close_sound {e : PoolEntry} {atShutdown : Bool} (sound : Sound s) (there : s.entries.get t = some e)
    (allowed : s.inTransaction e.db = true → atShutdown = true) :
    Sound ((s.closeConnection outside e.db atShutdown).removeEntry t) := by
  have log : s.log ⊆ ((s.closeConnection outside e.db atShutdown).removeEntry t).log := by
    unfold System.removeEntry
    rw [closeConnection_log]
    exact List.subset_cons_self _ _
  refine ⟨fun t' e' there' => ?_, fun db c found isOpen => ?_, fun t' e' there' => ?_, fun db shutdown member => ?_⟩
  · unfold System.removeEntry at there' ⊢
    rw [closeConnection_entries, Entries.get_erase] at there'
    split_ifs at there' with other
    have apart : e'.db ≠ e.db := fun same => other (sound.same_tenant there there' same.symm)
    rw [closeConnection_other apart]
    exact sound.entry t' e' there'
  · obtain ⟨was, fails⟩ := closeConnection_get found isOpen
    by_cases isIt : db = e.db
    · right
      unfold System.removeEntry
      rw [closeConnection_log, if_pos (fails isIt), isIt]
      exact List.mem_cons_self
    · rcases sound.opened db c was isOpen with ⟨e', there', rfl⟩ | leaked
      · left
        refine ⟨e', ?_, rfl⟩
        unfold System.removeEntry
        rw [closeConnection_entries, Entries.get_erase, if_neg, there']
        intro same
        rw [← same, there] at there'
        cases there'
        exact isIt rfl
      · exact .inr (log leaked)
  · unfold System.removeEntry at there' ⊢
    rw [closeConnection_entries, Entries.get_erase] at there'
    split_ifs at there'
    rw [closeConnection_poisoned]
    exact sound.poisoned t' e' there'
  · unfold System.removeEntry at member
    rw [closeConnection_log] at member
    rcases List.mem_cons.mp member with here | earlier
    · split_ifs at here
      injection here with _ wasIn isShutdown
      rw [isShutdown]
      exact allowed wasIn.symm
    · exact sound.closes db shutdown earlier

theorem closeOne_sound (sound : Sound s) : Sound (s.closeOne outside t) := by
  unfold System.closeOne
  split
  · exact sound
  · next e there =>
    split_ifs with busy
    · exact sound
    · exact close_sound sound there fun impossible => absurd impossible busy

theorem foldl_sound {α : Type*} {step : System → α → System} (keeps : ∀ s a, Sound s → Sound (step s a)) (items : List α)
    (sound : Sound s) : Sound (items.foldl step s) :=
  run_always Sound keeps sound items

theorem closeIdle_sound (sound : Sound s) : Sound (s.closeIdle idleMs outside) := by
  refine foldl_sound (fun s entry sound => ?_) _ sound
  split_ifs
  · exact sound
  · exact closeOne_sound sound
  · exact sound

theorem closeAll_sound (sound : Sound s) : Sound (s.closeAll outside) := by
  refine foldl_sound (fun s tenantId sound => ?_) _ sound
  split
  · exact sound
  · next e there => exact close_sound sound there fun _ => rfl

theorem evict_sound (sound : Sound s) : Sound (s.evict outside t).1 := by
  unfold System.evict
  split
  · exact sound
  · next e there =>
    split_ifs with busy
    · exact sound
    · exact close_sound sound there fun impossible => absurd impossible busy

theorem enforceMaxOpen_sound (sound : Sound s) : Sound (s.enforceMaxOpen maxOpen outside) := by
  unfold System.enforceMaxOpen
  split_ifs
  · exact sound
  · split
    · exact sound
    · exact closeOne_sound sound

theorem setTransaction_sound {db : ℕ} {begins : Bool} (sound : Sound s) : Sound (s.setTransaction db begins) := by
  refine ⟨fun t e there => ?_, fun db' c found isOpen => ?_, sound.poisoned, sound.closes⟩
  · obtain ⟨c, found, isT, migrated, isOpen⟩ := sound.entry t e there
    unfold System.setTransaction
    dsimp only
    by_cases isIt : e.db = db
    · rw [isIt, Table.updateIf_self, ← isIt, found, Option.map_some, if_pos isOpen]
      exact ⟨_, rfl, isT, migrated, isOpen⟩
    · rw [Table.updateIf_other isIt]
      exact ⟨c, found, isT, migrated, isOpen⟩
  · obtain ⟨before, was, same | ⟨-, wasOpen, changed⟩⟩ := Table.get_updateIf found
    · rw [same] at isOpen ⊢
      exact sound.opened db' before was isOpen
    · rw [changed]
      exact sound.opened db' before was wasOpen

/-! The least recently used. -/

theorem leastRecent_append (s : System) (entries : List (ℕ × PoolEntry)) (entry : ℕ × PoolEntry) :
    s.leastRecent (entries ++ [entry]) =
      if s.inTransaction entry.2.db then s.leastRecent entries
      else
        match s.leastRecent entries with
        | none => some entry
        | some first => if entry.2.lastUsedAt < first.2.lastUsedAt then some entry else some first := by
  unfold System.leastRecent
  rw [List.foldl_append]
  rfl

/-- The entry that is found, and why: it is idle and no idle one was used before it. -/
structure Oldest (s : System) (entries : List (ℕ × PoolEntry)) (found : ℕ × PoolEntry) : Prop where
  mem : found ∈ entries
  idle : s.inTransaction found.2.db = false
  least : ∀ entry ∈ entries, s.inTransaction entry.2.db = false → found.2.lastUsedAt ≤ entry.2.lastUsedAt

theorem leastRecent_spec (s : System) (entries : List (ℕ × PoolEntry)) :
    (s.leastRecent entries = none ∧ ∀ entry ∈ entries, s.inTransaction entry.2.db = true) ∨
      ∃ found, s.leastRecent entries = some found ∧ Oldest s entries found := by
  induction entries using List.reverseRecOn with
  | nil => exact .inl ⟨rfl, fun _ member => absurd member List.not_mem_nil⟩
  | append_singleton rest entry ih =>
    rw [leastRecent_append]
    by_cases busy : s.inTransaction entry.2.db = true
    · rw [if_pos busy]
      rcases ih with ⟨none, all⟩ | ⟨found, isFound, oldest⟩
      · refine .inl ⟨none, fun e member => ?_⟩
        rcases List.mem_append.mp member with old | new
        · exact all e old
        · rw [List.mem_singleton.mp new]
          exact busy
      · refine .inr ⟨found, isFound, List.mem_append_left _ oldest.mem, oldest.idle, fun e member idle => ?_⟩
        rcases List.mem_append.mp member with old | new
        · exact oldest.least e old idle
        · rw [List.mem_singleton.mp new, busy] at idle
          cases idle
    · rw [if_neg busy]
      have idle : s.inTransaction entry.2.db = false := by simpa using busy
      have last : entry ∈ rest ++ [entry] := List.mem_append_right _ (List.mem_singleton_self entry)
      right
      rcases ih with ⟨none, all⟩ | ⟨found, isFound, oldest⟩
      · rw [none]
        refine ⟨entry, rfl, last, idle, fun e member idle' => ?_⟩
        rcases List.mem_append.mp member with old | new
        · rw [all e old] at idle'
          cases idle'
        · rw [List.mem_singleton.mp new]
      · rw [isFound]
        dsimp only
        by_cases older : entry.2.lastUsedAt < found.2.lastUsedAt
        · rw [if_pos older]
          refine ⟨entry, rfl, last, idle, fun e member idle' => ?_⟩
          rcases List.mem_append.mp member with old | new
          · exact older.le.trans (oldest.least e old idle')
          · rw [List.mem_singleton.mp new]
        · rw [if_neg older]
          refine ⟨found, rfl, List.mem_append_left _ oldest.mem, oldest.idle, fun e member idle' => ?_⟩
          rcases List.mem_append.mp member with old | new
          · exact oldest.least e old idle'
          · rw [List.mem_singleton.mp new]
            exact not_lt.mp older

/-! A connection is handed out. -/

/-- A tenant's new connection in the pool, before the cap. -/
def pooled (s : System) (outside : Outside) (t : ℕ) : System :=
  (s.openConnection t).keepConnection outside t s.connections.nextId

theorem pooled_new (s : System) (outside : Outside) (t : ℕ) :
    (pooled s outside t).connections.get s.connections.nextId = some { tenantId := t, isMigrated := true } := by
  unfold pooled System.keepConnection System.openConnection
  dsimp only
  rw [Table.get_update_self, Table.get_insert_self]
  rfl

theorem pooled_other {db : ℕ} (other : db ≠ s.connections.nextId) : (pooled s outside t).connections.get db = s.connections.get db := by
  unfold pooled System.keepConnection System.openConnection
  dsimp only
  rw [Table.get_update_of_ne _ _ other, Table.get_insert_of_ne _ _ other]

theorem pooled_entries (s : System) (outside : Outside) (t : ℕ) :
    (pooled s outside t).entries = s.entries.set t { db := s.connections.nextId, lastUsedAt := outside.clock } :=
  rfl

theorem Sound.db_lt (sound : Sound s) {e : PoolEntry} (there : s.entries.get t = some e) : e.db < s.connections.nextId := by
  obtain ⟨c, found, -⟩ := sound.entry t e there
  exact Table.get_lt found

theorem pooled_sound (sound : Sound s) (fresh : s.entries.get t = none) (healthy : s.poisoned.get t = none) : Sound (pooled s outside t) := by
  refine ⟨fun t' e there => ?_, fun db c found isOpen => ?_, fun t' e there => ?_, sound.closes⟩
  · rw [pooled_entries, Entries.get_set] at there
    split_ifs at there with isIt
    · cases there
      exact ⟨_, pooled_new s outside t, isIt, rfl, rfl⟩
    · rw [pooled_other (sound.db_lt there).ne]
      exact sound.entry t' e there
  · by_cases isNew : db = s.connections.nextId
    · rw [isNew, pooled_new] at found
      cases found
      left
      exact ⟨_, by rw [pooled_entries, Entries.get_set, if_pos rfl], isNew.symm⟩
    · rw [pooled_other isNew] at found
      refine (sound.opened db c found isOpen).imp_left ?_
      rintro ⟨e, there, isDb⟩
      refine ⟨e, ?_, isDb⟩
      rw [pooled_entries, Entries.get_set, if_neg, there]
      intro same
      rw [← same, fresh] at there
      cases there
  · rw [pooled_entries, Entries.get_set] at there
    split_ifs at there with isIt
    · rw [← isIt]
      exact healthy
    · exact sound.poisoned t' e there

theorem poison_sound {error : String} (sound : Sound s) (fresh : s.entries.get t = none) :
    Sound ({ s.openConnection t with poisoned := (s.openConnection t).poisoned.set t error }.closeConnection outside
      s.connections.nextId false) := by
  have idle : ({ s.openConnection t with poisoned := (s.openConnection t).poisoned.set t error } : System).inTransaction
      s.connections.nextId = false := by
    unfold System.inTransaction System.openConnection
    rw [Table.get_insert_self]
    rfl
  refine ⟨fun t' e there => ?_, fun db c found isOpen => ?_, fun t' e there => ?_, fun db atShutdown member => ?_⟩
  · rw [closeConnection_entries] at there
    rw [closeConnection_other (sound.db_lt there).ne]
    obtain ⟨c, found, facts⟩ := sound.entry t' e there
    exact ⟨c, Table.get_insert_of_get found, facts⟩
  · obtain ⟨was, fails⟩ := closeConnection_get found isOpen
    rw [closeConnection_log]
    by_cases isNew : db = s.connections.nextId
    · right
      rw [if_pos (fails isNew), isNew]
      exact List.mem_cons_self
    · rcases Table.get_insert was with old | ⟨new, -⟩
      · rw [closeConnection_entries]
        exact (sound.opened db c old isOpen).imp_right (List.mem_cons_of_mem _)
      · exact absurd new isNew
  · rw [closeConnection_entries] at there
    rw [closeConnection_poisoned]
    dsimp only [System.openConnection]
    rw [Entries.get_set, if_neg]
    · exact sound.poisoned t' e there
    · rintro rfl
      exact absurd (fresh.symm.trans there) (by simp)
  · rw [closeConnection_log, idle] at member
    rcases List.mem_cons.mp member with here | earlier
    · split_ifs at here
      injection here with _ impossible
      cases impossible
    · exact sound.closes db atShutdown earlier

/-- A tenant whose migration has thrown: its connection is closed, and its error kept. -/
def poison (s : System) (outside : Outside) (t : ℕ) (error : String) : System :=
  { s.openConnection t with poisoned := (s.openConnection t).poisoned.set t error }.closeConnection outside s.connections.nextId false

/-- All that a call can do. -/
theorem get_cases (filePath : ℕ → String) (maxOpen : ℕ) (s : System) (outside : Outside) (t : ℕ) :
    (∃ cached, s.entries.get t = some cached ∧ s.get filePath maxOpen outside t =
      ({ s with entries := s.entries.set t { cached with lastUsedAt := outside.clock } }, .ok cached.db)) ∨
    s.entries.get t = none ∧
      ((∃ error, s.poisoned.get t = some error ∧ s.get filePath maxOpen outside t = (s, .error error)) ∨
        s.poisoned.get t = none ∧
          ((∃ error, s.get filePath maxOpen outside t = (s, .error error)) ∨
            (∃ error, s.get filePath maxOpen outside t = (poison s outside t error, .error error)) ∨
            s.get filePath maxOpen outside t = ((pooled s outside t).enforceMaxOpen maxOpen outside, .ok s.connections.nextId))) := by
  unfold System.get
  cases there : s.entries.get t with
  | some cached => exact .inl ⟨cached, rfl, rfl⟩
  | none =>
    refine .inr ⟨rfl, ?_⟩
    cases healthy : s.poisoned.get t with
    | some error => exact .inl ⟨error, rfl, rfl⟩
    | none =>
      refine .inr ⟨rfl, ?_⟩
      dsimp only
      split_ifs
      · exact .inl ⟨_, rfl⟩
      · split
        · exact .inl ⟨_, rfl⟩
        · split
          · exact .inr (.inl ⟨_, rfl⟩)
          · exact .inr (.inr rfl)

theorem touch_sound {cached : PoolEntry} {now : ℤ} (sound : Sound s) (there : s.entries.get t = some cached) :
    Sound { s with entries := s.entries.set t { cached with lastUsedAt := now } } := by
  refine ⟨fun t' e there' => ?_, fun db c found isOpen => ?_, fun t' e there' => ?_, sound.closes⟩
  · dsimp only at there'
    rw [Entries.get_set] at there'
    split_ifs at there' with isIt
    · cases there'
      rw [← isIt]
      exact sound.entry t cached there
    · exact sound.entry t' e there'
  · refine (sound.opened db c found isOpen).imp_left ?_
    rintro ⟨e, there', isDb⟩
    dsimp only
    rw [Entries.get_set]
    split_ifs with isIt
    · rw [← isIt, there] at there'
      cases there'
      exact ⟨_, rfl, isDb⟩
    · exact ⟨e, there', isDb⟩
  · dsimp only at there'
    rw [Entries.get_set] at there'
    split_ifs at there' with isIt
    · rw [← isIt]
      exact sound.poisoned t cached there
    · exact sound.poisoned t' e there'

theorem get_sound (sound : Sound s) : Sound (s.get filePath maxOpen outside t).1 := by
  rcases get_cases filePath maxOpen s outside t with
    ⟨cached, there, got⟩ | ⟨fresh, ⟨error, -, got⟩ | ⟨healthy, ⟨error, got⟩ | ⟨error, got⟩ | got⟩⟩ <;> rw [got]
  · exact touch_sound sound there
  · exact sound
  · exact sound
  · exact poison_sound sound fresh
  · exact enforceMaxOpen_sound (pooled_sound sound fresh healthy)

theorem exec_sound (sound : Sound s) (action : Action) : Sound (exec filePath maxOpen idleMs s action) := by
  cases action with
  | get tenantId outside => exact get_sound sound
  | closeIdle outside => exact closeIdle_sound sound
  | evict tenantId outside => exact evict_sound sound
  | closeAll outside => exact closeAll_sound sound
  | resetPoisoned tenantId =>
    refine ⟨sound.entry, sound.opened, fun t e there => ?_, sound.closes⟩
    dsimp only [exec, System.resetPoisoned]
    rw [Entries.get_erase]
    split_ifs
    · rfl
    · exact sound.poisoned t e there
  | setTransaction db begins => exact setTransaction_sound sound
  | setFile tenantId isThere => exact ⟨sound.entry, sound.opened, sound.poisoned, sound.closes⟩

/-! The cap. -/

theorem removeEntry_size (s : System) (outside : Outside) (db : ℕ) (atShutdown : Bool) (t : ℕ) :
    ((s.closeConnection outside db atShutdown).removeEntry t).entries.size ≤ s.entries.size := by
  unfold System.removeEntry
  rw [closeConnection_entries]
  exact Entries.size_erase_le _ _

theorem closeOne_size (s : System) (outside : Outside) (t : ℕ) : (s.closeOne outside t).entries.size ≤ s.entries.size := by
  unfold System.closeOne
  split
  · exact le_rfl
  · split_ifs
    · exact le_rfl
    · exact removeEntry_size ..

/-- The entry that the cap closes, if any. -/
theorem enforceMaxOpen_cases (maxOpen : ℕ) (s : System) (outside : Outside) :
    (s.entries.size ≤ maxOpen ∧ s.enforceMaxOpen maxOpen outside = s) ∨
    (maxOpen < s.entries.size ∧ (∀ entry ∈ s.entries.list, s.inTransaction entry.2.db = true) ∧ s.enforceMaxOpen maxOpen outside = s) ∨
    (maxOpen < s.entries.size ∧ ∃ found, s.leastRecent s.entries.list = some found ∧ Oldest s s.entries.list found ∧
      s.enforceMaxOpen maxOpen outside = (s.closeConnection outside found.2.db false).removeEntry found.1) := by
  unfold System.enforceMaxOpen
  by_cases fits : s.entries.size ≤ maxOpen
  · exact .inl ⟨fits, if_pos fits⟩
  · rw [if_neg fits]
    right
    rcases leastRecent_spec s s.entries.list with ⟨none, busy⟩ | ⟨found, isFound, oldest⟩
    · exact .inl ⟨not_le.mp fits, busy, by rw [none]⟩
    · refine .inr ⟨not_le.mp fits, found, isFound, oldest, ?_⟩
      rw [isFound]
      dsimp only
      unfold System.closeOne
      rw [Entries.get_eq_some.mpr oldest.mem]
      dsimp only
      rw [if_neg (by simp [oldest.idle])]

theorem pooled_idle (s : System) (outside : Outside) (t : ℕ) : (pooled s outside t).inTransaction s.connections.nextId = false := by
  unfold System.inTransaction
  rw [pooled_new]
  rfl

/-- The new connection is idle itself, so the cap always finds one to close. -/
theorem pooled_size (fits : s.entries.size ≤ maxOpen) (fresh : s.entries.get t = none) :
    ((pooled s outside t).enforceMaxOpen maxOpen outside).entries.size ≤ maxOpen := by
  have size : (pooled s outside t).entries.size = s.entries.size + 1 := Entries.size_set fresh _
  have isNew : (t, { db := s.connections.nextId, lastUsedAt := outside.clock }) ∈ (pooled s outside t).entries.list := by
    rw [pooled_entries, Entries.list_set fresh]
    exact List.mem_append_right _ (List.mem_singleton_self _)
  rcases enforceMaxOpen_cases maxOpen (pooled s outside t) outside with ⟨le, same⟩ | ⟨-, busy, -⟩ | ⟨-, found, -, oldest, closed⟩
  · rw [same]
    exact le
  · have impossible := busy _ isNew
    rw [pooled_idle] at impossible
    cases impossible
  · rw [closed]
    unfold System.removeEntry
    rw [closeConnection_entries]
    dsimp only
    have less := Entries.size_erase (pooled s outside t).entries (Entries.get_eq_some.mpr oldest.mem)
    omega

theorem foldl_size {α : Type*} {step : System → α → System} (keeps : ∀ s a, (step s a).entries.size ≤ s.entries.size) (items : List α)
    (s : System) : (items.foldl step s).entries.size ≤ s.entries.size := by
  induction items generalizing s with
  | nil => exact le_rfl
  | cons item rest ih => exact (ih (step s item)).trans (keeps s item)

theorem exec_size (fits : s.entries.size ≤ maxOpen) (action : Action) : (exec filePath maxOpen idleMs s action).entries.size ≤ maxOpen := by
  cases action with
  | get tenantId outside =>
    dsimp only [exec]
    rcases get_cases filePath maxOpen s outside tenantId with
      ⟨cached, there, got⟩ | ⟨fresh, ⟨error, -, got⟩ | ⟨healthy, ⟨error, got⟩ | ⟨error, got⟩ | got⟩⟩ <;> rw [got]
    · exact (Entries.size_set_of_get there _).trans_le fits
    · exact fits
    · exact fits
    · unfold poison
      rw [closeConnection_entries]
      exact fits
    · exact pooled_size fits fresh
  | closeIdle outside =>
    refine (foldl_size (fun s entry => ?_) _ s).trans fits
    split_ifs
    · exact le_rfl
    · exact closeOne_size ..
    · exact le_rfl
  | evict tenantId outside =>
    dsimp only [exec, System.evict]
    split
    · exact fits
    · split_ifs
      · exact fits
      · exact (removeEntry_size ..).trans fits
  | closeAll outside =>
    refine (foldl_size (fun s tenantId => ?_) _ s).trans fits
    split
    · exact le_rfl
    · exact removeEntry_size ..
  | resetPoisoned tenantId => exact fits
  | setTransaction db begins => exact fits
  | setFile tenantId isThere => exact fits

/-! What a call answers. -/

variable (maxOpen s outside t) in
/-- The connection that a call answers with stays in the pool: it was there, or there is room, or an idle connection to close that was not
used after the call. -/
def HasRoom : Prop :=
  s.entries.get t ≠ none ∨ s.entries.size < maxOpen ∨
    ∃ t' e, s.entries.get t' = some e ∧ s.inTransaction e.db = false ∧ e.lastUsedAt ≤ outside.clock

variable (maxOpen s) in
/-- An entry that a call closes for another tenant. -/
structure GivesWay (s' : System) (t' : ℕ) (e : PoolEntry) : Prop where
  gone : s'.entries.get t' = none
  full : maxOpen ≤ s.entries.size
  idle : s.inTransaction e.db = false
  least : ∀ t'' e'', s.entries.get t'' = some e'' → s.inTransaction e''.db = false → e.lastUsedAt ≤ e''.lastUsedAt

variable (maxOpen s outside t) in
structure Served (s' : System) (db : ℕ) : Prop where
  connection : ∃ c, s'.connections.get db = some c ∧ c.tenantId = t ∧ c.isMigrated = true
  inPool : s'.entries.get t = some { db, lastUsedAt := outside.clock } ↔ HasRoom maxOpen s outside t
  others : ∀ t' e, t' ≠ t → s.entries.get t' = some e → s'.entries.get t' = some e ∨ GivesWay maxOpen s s' t' e

variable (s t) in
/-- A refusal touches no entry. It is repeated for good, or nothing has changed. -/
structure Refused (s' : System) (error : String) : Prop where
  notOpen : s.entries.get t = none
  entries : s'.entries = s.entries
  again : s'.poisoned.get t = some error ∨ s' = s

variable (s outside t) in
/-- A call that has a connection to migrate. -/
structure Opens : Prop where
  notOpen : s.entries.get t = none
  healthy : s.poisoned.get t = none
  isThere : s.existsSync t = true
  opened : outside.openDatabase = .ok ()

variable (s t) in
/-- What a migration that throws leaves: its own error, for this tenant alone, and no connection. -/
structure Poisoned (s' : System) (error : String) : Prop where
  kept : s'.poisoned.get t = some error
  others : ∀ t', t' ≠ t → s'.poisoned.get t' = s.poisoned.get t'
  entries : s'.entries = s.entries

theorem closeConnection_keeps {db other : ℕ} {atShutdown : Bool} {c : Connection} (there : s.connections.get other = some c) :
    ∃ c', (s.closeConnection outside db atShutdown).connections.get other = some c' ∧ c'.tenantId = c.tenantId ∧
      c'.isMigrated = c.isMigrated := by
  unfold System.closeConnection
  split_ifs
  · exact ⟨c, there, rfl, rfl⟩
  · by_cases isIt : other = db
    · rw [isIt, Table.get_update_self, ← isIt, there, Option.map_some]
      exact ⟨_, rfl, rfl, rfl⟩
    · rw [Table.get_update_of_ne _ _ isIt]
      exact ⟨c, there, rfl, rfl⟩

theorem pooled_inTransaction (sound : Sound s) {t' : ℕ} {e : PoolEntry} (there : s.entries.get t' = some e) :
    (pooled s outside t).inTransaction e.db = s.inTransaction e.db := by
  unfold System.inTransaction
  rw [pooled_other (sound.db_lt there).ne]

/-- The pool is full: it closes the oldest of the idle ones, which may be the new one. -/
theorem full_served {found : ℕ × PoolEntry} (sound : Sound s) (fresh : s.entries.get t = none)
    (full : maxOpen < (pooled s outside t).entries.size) (isFound : (pooled s outside t).leastRecent (pooled s outside t).entries.list = some found)
    (oldest : Oldest (pooled s outside t) (pooled s outside t).entries.list found) :
    Served maxOpen s outside t (((pooled s outside t).closeConnection outside found.2.db false).removeEntry found.1)
      s.connections.nextId := by
  have size : (pooled s outside t).entries.size = s.entries.size + 1 := Entries.size_set fresh _
  have get (t' : ℕ) : (((pooled s outside t).closeConnection outside found.2.db false).removeEntry found.1).entries.get t' =
      if found.1 = t' then none
      else if t = t' then some { db := s.connections.nextId, lastUsedAt := outside.clock } else s.entries.get t' := by
    unfold System.removeEntry
    dsimp only
    rw [closeConnection_entries, Entries.get_erase, pooled_entries, Entries.get_set]
  have idleOnes (t' : ℕ) (e : PoolEntry) (there : s.entries.get t' = some e) (idle : s.inTransaction e.db = false) :
      found.2.lastUsedAt ≤ e.lastUsedAt := by
    refine oldest.least (t', e) ?_ ((pooled_inTransaction sound there).trans idle)
    rw [pooled_entries, Entries.list_set fresh]
    exact List.mem_append_left _ (Entries.get_eq_some.mp there)
  obtain ⟨c, there, isT, migrated⟩ : ∃ c, (((pooled s outside t).closeConnection outside found.2.db false).removeEntry found.1).connections.get
      s.connections.nextId = some c ∧ c.tenantId = t ∧ c.isMigrated = true := closeConnection_keeps (pooled_new s outside t)
  have list : (pooled s outside t).entries.list = s.entries.list ++ [(t, { db := s.connections.nextId, lastUsedAt := outside.clock })] := by
    rw [pooled_entries, Entries.list_set fresh]
  have isOld (other : found.1 ≠ t) : s.entries.get found.1 = some found.2 := by
    have member := oldest.mem
    rw [list] at member
    rcases List.mem_append.mp member with old | new
    · exact Entries.get_eq_some.mpr old
    · exact absurd (congrArg Prod.fst (List.mem_singleton.mp new)) other
  refine ⟨⟨c, there, isT, migrated⟩, ?_, fun t' e other was => ?_⟩
  · rw [get]
    by_cases isNew : found.1 = t
    · rw [if_pos isNew]
      refine ⟨(fun impossible => by cases impossible), fun room => ?_⟩
      rw [list, leastRecent_append, if_neg (by simp [pooled_idle])] at isFound
      rcases room with cached | space | ⟨t', e, was, idle, notAfter⟩
      · exact absurd fresh cached
      · omega
      · have member : (t', e) ∈ s.entries.list := Entries.get_eq_some.mp was
        have isIdle : (pooled s outside t).inTransaction e.db = false := (pooled_inTransaction sound was).trans idle
        rcases leastRecent_spec (pooled s outside t) s.entries.list with ⟨-, busy⟩ | ⟨first, isFirst, oldestOfOld⟩
        · rw [busy _ member] at isIdle
          cases isIdle
        · rw [isFirst] at isFound
          dsimp only at isFound
          split_ifs at isFound with before
          · exact absurd (before.trans_le (oldestOfOld.least _ member isIdle)) (not_lt.mpr notAfter)
          · cases isFound
            rw [← isNew, Entries.get_eq_some.mpr oldestOfOld.mem] at fresh
            cases fresh
    · rw [if_neg isNew, if_pos rfl]
      refine ⟨fun _ => .inr (.inr ⟨found.1, found.2, isOld isNew, ?_, ?_⟩), fun _ => rfl⟩
      · exact (pooled_inTransaction sound (isOld isNew)).symm.trans oldest.idle
      · refine oldest.least (t, { db := s.connections.nextId, lastUsedAt := outside.clock }) ?_ (pooled_idle s outside t)
        rw [list]
        exact List.mem_append_right _ (List.mem_singleton_self _)
  · rw [get, if_neg (Ne.symm other), was]
    split_ifs with isIt
    · right
      have isFoundEntry : found.2 = e := by
        rw [← isIt, isOld (isIt ▸ other)] at was
        exact Option.some.inj was
      refine ⟨by rw [get, if_pos isIt], by omega, ?_, ?_⟩
      · rw [← isFoundEntry]
        exact (pooled_inTransaction sound (isOld (isIt ▸ other))).symm.trans oldest.idle
      · rw [← isFoundEntry]
        exact idleOnes
    · exact .inl rfl

theorem get_served {s' : System} {db : ℕ} (sound : Sound s) (got : s.get filePath maxOpen outside t = (s', .ok db)) :
    Served maxOpen s outside t s' db := by
  rcases get_cases filePath maxOpen s outside t with
    ⟨cached, there, is⟩ | ⟨fresh, ⟨error, -, is⟩ | ⟨healthy, ⟨error, is⟩ | ⟨error, is⟩ | is⟩⟩ <;> rw [is] at got <;> cases got
  · obtain ⟨c, found, isT, migrated, -⟩ := sound.entry t cached there
    refine ⟨⟨c, found, isT, migrated⟩, ?_, fun t' e other was => .inl ?_⟩
    · dsimp only
      rw [Entries.get_set, if_pos rfl]
      exact ⟨fun _ => .inl (by simp [there]), fun _ => rfl⟩
    · dsimp only
      rw [Entries.get_set, if_neg (Ne.symm other), was]
  · have size : (pooled s outside t).entries.size = s.entries.size + 1 := Entries.size_set fresh _
    rcases enforceMaxOpen_cases maxOpen (pooled s outside t) outside with ⟨fits, same⟩ | ⟨-, busy, -⟩ | ⟨full, found, isFound, oldest, closed⟩
    · rw [same]
      refine ⟨⟨_, pooled_new s outside t, rfl, rfl⟩, ?_, fun t' e other was => .inl ?_⟩
      · rw [pooled_entries, Entries.get_set, if_pos rfl]
        exact ⟨fun _ => .inr (.inl (by omega)), fun _ => rfl⟩
      · rw [pooled_entries, Entries.get_set, if_neg (Ne.symm other), was]
    · have isNew : (t, { db := s.connections.nextId, lastUsedAt := outside.clock }) ∈ (pooled s outside t).entries.list := by
        rw [pooled_entries, Entries.list_set fresh]
        exact List.mem_append_right _ (List.mem_singleton_self _)
      have impossible := busy _ isNew
      rw [pooled_idle] at impossible
      cases impossible
    · rw [closed]
      exact full_served sound fresh full isFound oldest

theorem get_refused {s' : System} {error : String} (got : s.get filePath maxOpen outside t = (s', .error error)) : Refused s t s' error := by
  rcases get_cases filePath maxOpen s outside t with
    ⟨cached, there, is⟩ | ⟨fresh, ⟨error, poisoned, is⟩ | ⟨healthy, ⟨error, is⟩ | ⟨error, is⟩ | is⟩⟩ <;> rw [is] at got <;> cases got
  · exact ⟨fresh, rfl, .inl poisoned⟩
  · exact ⟨fresh, rfl, .inr rfl⟩
  · refine ⟨fresh, ?_, .inl ?_⟩
    · unfold poison
      rw [closeConnection_entries]
      rfl
    · unfold poison
      rw [closeConnection_poisoned, Entries.get_set, if_pos rfl]

/-! A failed migration. -/

theorem get_poisons {error : String} (opens : Opens s outside t) (threw : outside.migrate = .error error) :
    (s.get filePath maxOpen outside t).2 = .error error ∧ Poisoned s t (s.get filePath maxOpen outside t).1 error := by
  have got : s.get filePath maxOpen outside t = (poison s outside t error, .error error) := by
    unfold System.get
    rw [opens.notOpen, opens.healthy]
    dsimp only
    rw [opens.isThere, opens.opened, threw]
    rfl
  rw [got]
  unfold poison
  refine ⟨rfl, ?_, fun t' other => ?_, ?_⟩
  · rw [closeConnection_poisoned, Entries.get_set, if_pos rfl]
  · rw [closeConnection_poisoned, Entries.get_set, if_neg (Ne.symm other)]
    rfl
  · rw [closeConnection_entries]
    rfl

theorem foldl_poisoned {α : Type*} {step : System → α → System} (keeps : ∀ s a, (step s a).poisoned = s.poisoned) (items : List α)
    (s : System) : (items.foldl step s).poisoned = s.poisoned := by
  induction items generalizing s with
  | nil => rfl
  | cons item rest ih => exact (ih (step s item)).trans (keeps s item)

theorem closeOne_poisoned (s : System) (outside : Outside) (t : ℕ) : (s.closeOne outside t).poisoned = s.poisoned := by
  unfold System.closeOne
  split
  · rfl
  · split_ifs
    · rfl
    · exact closeConnection_poisoned ..

/-- Only `resetPoisoned` lets a tenant's migration run again. -/
theorem exec_poisoned {error : String} (poisoned : s.poisoned.get t = some error) {action : Action} (notReset : action ≠ .resetPoisoned t) :
    (exec filePath maxOpen idleMs s action).poisoned.get t = some error := by
  cases action with
  | get tenantId outside =>
    dsimp only [exec]
    rcases get_cases filePath maxOpen s outside tenantId with
      ⟨cached, there, got⟩ | ⟨fresh, ⟨e, -, got⟩ | ⟨healthy, ⟨e, got⟩ | ⟨e, got⟩ | got⟩⟩ <;> rw [got]
    · exact poisoned
    · exact poisoned
    · exact poisoned
    · unfold poison
      rw [closeConnection_poisoned, Entries.get_set, if_neg]
      · exact poisoned
      · rintro rfl
        rw [healthy] at poisoned
        cases poisoned
    · have same : ((pooled s outside tenantId).enforceMaxOpen maxOpen outside).poisoned = s.poisoned := by
        unfold System.enforceMaxOpen
        split_ifs
        · rfl
        · split
          · rfl
          · exact closeOne_poisoned ..
      rw [same]
      exact poisoned
  | closeIdle outside =>
    dsimp only [exec, System.closeIdle]
    rw [foldl_poisoned]
    · exact poisoned
    · intro s entry
      split_ifs
      · rfl
      · exact closeOne_poisoned ..
      · rfl
  | evict tenantId outside =>
    dsimp only [exec, System.evict]
    split
    · exact poisoned
    · split_ifs
      · exact poisoned
      · unfold System.removeEntry
        rw [closeConnection_poisoned]
        exact poisoned
  | closeAll outside =>
    dsimp only [exec, System.closeAll]
    rw [foldl_poisoned]
    · exact poisoned
    · intro s tenantId
      split
      · rfl
      · exact closeConnection_poisoned ..
  | resetPoisoned tenantId =>
    dsimp only [exec, System.resetPoisoned]
    rw [Entries.get_erase, if_neg]
    · exact poisoned
    · rintro rfl
      exact notReset rfl
  | setTransaction db begins => exact poisoned
  | setFile tenantId isThere => exact poisoned

theorem run_poisoned {error : String} {actions : List Action} (poisoned : s.poisoned.get t = some error)
    (notReset : ∀ action ∈ actions, action ≠ .resetPoisoned t) :
    (run (exec filePath maxOpen idleMs) s actions).poisoned.get t = some error := by
  have keeps (s : System) (action : Action) (poisoned : s.poisoned.get t = some error) (notReset : action ≠ .resetPoisoned t) :
      (exec filePath maxOpen idleMs s action).poisoned.get t = some error := exec_poisoned poisoned notReset
  exact run_invariant keeps poisoned (meets_of_forall notReset s)

/-- The same error each time. -/
theorem get_of_poisoned {error : String} (sound : Sound s) (poisoned : s.poisoned.get t = some error) :
    s.get filePath maxOpen outside t = (s, .error error) := by
  have notOpen : s.entries.get t = none := by
    cases there : s.entries.get t with
    | none => rfl
    | some e =>
      rw [sound.poisoned t e there] at poisoned
      cases poisoned
  unfold System.get
  rw [notOpen, poisoned]

end

/-- Whatever is opened, migrated, used, evicted and swept in whatever order, and whatever fails. -/
theorem run_pooled (filePath : ℕ → String) (maxOpen : ℕ) (idleMs : ℤ) (actions : List Action) :
    let s := run (exec filePath maxOpen idleMs) {} actions
    Sound s ∧ s.entries.size ≤ maxOpen ∧
      (∀ t outside s' db, s.get filePath maxOpen outside t = (s', .ok db) → Served maxOpen s outside t s' db) ∧
      (∀ t outside s' error, s.get filePath maxOpen outside t = (s', .error error) → Refused s t s' error) ∧
      (∀ t outside error, Opens s outside t → outside.migrate = .error error →
        (s.get filePath maxOpen outside t).2 = .error error ∧ Poisoned s t (s.get filePath maxOpen outside t).1 error) ∧
      ∀ t error more outside, s.poisoned.get t = some error → (∀ action ∈ more, action ≠ .resetPoisoned t) →
        ((run (exec filePath maxOpen idleMs) s more).get filePath maxOpen outside t).2 = .error error := by
  intro s
  have soundAfter (s : System) (sound : Sound s) (actions : List Action) : Sound (run (exec filePath maxOpen idleMs) s actions) :=
    run_always Sound (fun _ action sound => exec_sound sound action) sound actions
  have sound : Sound s := soundAfter {} sound_empty actions
  have size : s.entries.size ≤ maxOpen := by
    have keeps (s : System) (action : Action) (fits : s.entries.size ≤ maxOpen) :
        (exec filePath maxOpen idleMs s action).entries.size ≤ maxOpen := exec_size fits action
    have start : ({} : System).entries.size ≤ maxOpen := Nat.zero_le maxOpen
    exact run_always (fun s : System => s.entries.size ≤ maxOpen) keeps start actions
  refine ⟨sound, size, fun t outside s' db => get_served sound, fun t outside s' error => get_refused,
    fun t outside error => get_poisons, ?_⟩
  intro t error more outside poisoned notReset
  rw [get_of_poisoned (soundAfter s sound more) (run_poisoned poisoned notReset)]

/-- Where every connection is in a transaction, a call for a further tenant answers with a connection that it has closed. -/
example :
    let outside : Outside := { clock := 0, openDatabase := .ok (), migrate := .ok (), closeFails := fun _ => false }
    let s := run (exec (fun _ => "") 1 300000) {} [.setFile 1 true, .setFile 2 true, .get 1 outside, .setTransaction 0 true]
    (s.get (fun _ => "") 1 outside 2).2 = .ok 1 ∧
      ((s.get (fun _ => "") 1 outside 2).1.connections.get 1).map (·.isOpen) = some false := by
  decide

end Liratek.Tenant.PoolRuns
