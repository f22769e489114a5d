import Liratek.Offline.Replay

/-! What one call of the replay engine writes, in four cases. Every later invariant is a case analysis
over `process_cases` and never unfolds the engine. -/

namespace Liratek.Offline.Outcomes
open Tables Channels Replay

/-- `t` is `s` with row `id` of the events rewritten to `row`, which keeps the uploaded record. -/
structure RowWritten (s t : Store) (id : RowId) (row : EventRow) : Prop where
  here : t.events[id]? = some row
  others : ∀ j, j ≠ id → t.events[j]? = s.events[j]?
  record : ∀ old, s.events[id]? = some old → row.toEventRecord = old.toEventRecord
  devices : t.devices = s.devices
  length : t.events.length = s.events.length

theorem rowWritten_updateEvent (s : Store) (id : RowId) (event : EventRow) (change : EventRow → EventRow)
    (found : s.events[id]? = some event) (keeps : (change event).toEventRecord = event.toEventRecord) :
    RowWritten s (s.updateEvent id change) id (change event) where
  here := by rw [events_updateEvent, if_pos rfl, found, Option.map_some]
  others j different := by rw [events_updateEvent, if_neg different]
  record old there := by
    rw [found] at there
    rw [keeps, Option.some.inj there]
  devices := rfl
  length := events_length_updateEvent s id change

theorem rowWritten_refl (s : Store) (id : RowId) (event : EventRow) (found : s.events[id]? = some event) :
    RowWritten s s id event where
  here := found
  others _ _ := rfl
  record old there := by
    rw [found] at there
    rw [Option.some.inj there]
  devices := rfl
  length := rfl

theorem RowWritten.trans {s t u : Store} {id : RowId} {row last : EventRow} (first : RowWritten s t id row)
    (second : RowWritten t u id last) : RowWritten s u id last where
  here := second.here
  others j different := (second.others j different).trans (first.others j different)
  record old there := (second.record row first.here).trans (first.record old there)
  devices := second.devices.trans first.devices
  length := second.length.trans first.length

theorem RowWritten.congr {s t u : Store} {id : RowId} {row : EventRow} (written : RowWritten s t id row)
    (events : u.events = t.events) (devices : u.devices = t.devices) : RowWritten s u id row where
  here := by rw [events, written.here]
  others j different := by rw [events, written.others j different]
  record := written.record
  devices := devices.trans written.devices
  length := by rw [events, written.length]

theorem RowWritten.base {s s' t : Store} {id : RowId} {row : EventRow} (written : RowWritten s' t id row)
    (events : s'.events = s.events) (devices : s'.devices = s.devices) : RowWritten s t id row where
  here := written.here
  others j different := by rw [written.others j different, events]
  record old there := written.record old (by rw [events, there])
  devices := written.devices.trans devices
  length := by rw [written.length, events]

/-! Id map and notes. -/

/-- The map rows a booking adds all name the booked event. -/
def MapsOnly (s t : Store) (eventId : EventId) : Prop :=
  ∃ added : List IdMapRow, t = { s with idMap := s.idMap ++ added } ∧ ∀ row ∈ added, row.eventId = eventId

theorem mapsOnly_refl (s : Store) (eventId : EventId) : MapsOnly s s eventId :=
  ⟨[], by simp, by simp⟩

theorem MapsOnly.trans {s t u : Store} {eventId : EventId} (one : MapsOnly s t eventId)
    (two : MapsOnly t u eventId) : MapsOnly s u eventId := by
  obtain ⟨first, rfl, named⟩ := one
  obtain ⟨second, rfl, named'⟩ := two
  refine ⟨first ++ second, by simp, ?_⟩
  intro row member
  rcases List.mem_append.mp member with early | late
  · exact named row early
  · exact named' row late

theorem mapMainRow_mapsOnly (s : Store) (event : EventRow) (table : String) (serverId : Nat) (linkKind : LinkKind) :
    MapsOnly s (mapMainRow s event table serverId linkKind).1 event.eventId := by
  unfold mapMainRow
  split
  · exact mapsOnly_refl s _
  · split
    · exact mapsOnly_refl s _
    · exact ⟨_, rfl, by simp⟩

theorem foldlM_mapsOnly {α : Type} (eventId : EventId) (step : Store → α → Option Store)
    (maps : ∀ s x t, step s x = some t → MapsOnly s t eventId) (xs : List α) (s t : Store)
    (done : xs.foldlM step s = some t) : MapsOnly s t eventId := by
  induction xs generalizing s with
  | nil =>
    simp only [List.foldlM_nil, Option.pure_def, Option.some.injEq] at done
    rw [← done]
    exact mapsOnly_refl s eventId
  | cons x rest ih =>
    simp only [List.foldlM_cons, Option.bind_eq_bind, Option.bind_eq_some_iff] at done
    obtain ⟨middle, first, later⟩ := done
    exact (maps s x middle first).trans (ih middle later)

theorem mapTable_mapsOnly (event : EventRow) (server : CreatedRows) (acc after : Store × List String)
    (table : String) (done : mapTable event server acc table = some after) :
    MapsOnly acc.1 after.1 event.eventId := by
  unfold mapTable at done
  simp only [ne_eq, ite_not] at done
  split at done
  · obtain ⟨store, folded, rfl⟩ := Option.map_eq_some_iff.mp done
    refine foldlM_mapsOnly event.eventId _ ?_ _ _ _ folded
    intro s pair t inserted
    unfold Store.insertMap at inserted
    split at inserted
    · cases inserted
    · exact ⟨_, (Option.some.inj inserted).symm, by simp⟩
  · rw [← Option.some.inj done]
    exact mapsOnly_refl _ _

theorem mapTables_mapsOnly (event : EventRow) (server : CreatedRows) (tables : List String)
    (acc after : Store × List String) (done : tables.foldlM (mapTable event server) acc = some after) :
    MapsOnly acc.1 after.1 event.eventId := by
  induction tables generalizing acc with
  | nil =>
    simp only [List.foldlM_nil, Option.pure_def, Option.some.injEq] at done
    rw [← done]
    exact mapsOnly_refl _ _
  | cons table rest ih =>
    simp only [List.foldlM_cons, Option.bind_eq_bind, Option.bind_eq_some_iff] at done
    obtain ⟨middle, first, later⟩ := done
    exact (mapTable_mapsOnly event server acc middle table first).trans (ih middle later)

def NotesOnly (notes : List Note) : Prop :=
  ∀ note ∈ notes, note.kind.watched = false

theorem mapBooking_spec (s t : Store) (event : EventRow) (result : BindingResult) (notes : List Note)
    (done : mapBooking s event result = some (t, notes)) : MapsOnly s t event.eventId ∧ NotesOnly notes := by
  unfold mapBooking at done
  split at done
  · cases done
    exact ⟨mapMainRow_mapsOnly _ _ _ _ _, by simp [NotesOnly]⟩
  · split at done
    · split at done
      · cases done
        exact ⟨mapMainRow_mapsOnly _ _ _ _ _, by simp [NotesOnly]⟩
      · cases done
        exact ⟨mapsOnly_refl _ _, by simp [NotesOnly]⟩
    · obtain ⟨mapped, folded, same⟩ := Option.map_eq_some_iff.mp done
      cases same
      refine ⟨mapTables_mapsOnly event _ _ _ _ folded, ?_⟩
      split <;> simp [NotesOnly, ReviewKind.watched, ReviewKind.decisive, ReviewKind.holding]

theorem bookingNotes_notesOnly (answers : Answers) (result : BindingResult) (mapping : List Note)
    (only : NotesOnly mapping) : NotesOnly (bookingNotes answers result mapping) := by
  intro note member
  simp only [bookingNotes, List.mem_append, Option.mem_toList, Option.map_eq_some_iff, List.mem_map] at member
  rcases member with ((((actor | rate) | stock) | day) | replay) | mapped
  · unfold actorNote at actor
    split at actor
    · rw [List.mem_singleton.mp actor]; rfl
    · cases actor
  · obtain ⟨_, -, rfl⟩ := rate; rfl
  · obtain ⟨_, -, rfl⟩ := stock; rfl
  · obtain ⟨_, -, rfl⟩ := day; rfl
  · obtain ⟨⟨kind, _⟩, -, rfl⟩ := replay
    cases kind <;> rfl
  · exact only note mapped

theorem insertNotes_frame (s : Store) (id : RowId) (event : EventRow) (notes : List Note) :
    (insertNotes s id event notes).events = s.events ∧ (insertNotes s id event notes).idMap = s.idMap ∧
      (insertNotes s id event notes).audit = s.audit ∧ (insertNotes s id event notes).devices = s.devices := by
  induction notes generalizing s with
  | nil => exact ⟨rfl, rfl, rfl, rfl⟩
  | cons note rest ih => exact ih (s.insertItem _)

/-- Notes never count as an open decision. -/
theorem insertNotes_openItem (s : Store) (id : RowId) (event : EventRow) (notes : List Note) (only : NotesOnly notes)
    (item : ItemId) (other : RowId) (kind : ReviewKind) (watched : kind.watched = true) :
    OpenItem (insertNotes s id event notes) item other kind ↔ OpenItem s item other kind := by
  induction notes generalizing s with
  | nil => rfl
  | cons note rest ih =>
    have tail : NotesOnly rest := fun n member => only n (List.mem_cons_of_mem _ member)
    have step := ih (s.insertItem
      { eventRowId := some id, deviceId := event.deviceId, kind := note.kind, details := note.details }) tail
    rw [openItem_insertItem _ rfl] at step
    refine step.trans (or_iff_left ?_)
    rintro ⟨-, -, same⟩
    have quiet := only note List.mem_cons_self
    rw [show note.kind = kind from same, watched] at quiet
    cases quiet

theorem insertNotes_elsewhere (s : Store) (id : RowId) (event : EventRow) (notes : List Note) (item : ItemId)
    (other : RowId) (kind : ReviewKind) (different : other ≠ id)
    (opened : OpenItem (insertNotes s id event notes) item other kind) : OpenItem s item other kind := by
  induction notes generalizing s with
  | nil => exact opened
  | cons note rest ih =>
    have step := ih (s.insertItem
      { eventRowId := some id, deviceId := event.deviceId, kind := note.kind, details := note.details }) opened
    rw [openItem_insertItem _ rfl] at step
    rcases step with was | ⟨-, same, -⟩
    · exact was
    · exact absurd (Option.some.inj same).symm different

/-! The four cases. -/

/-- Nothing but the event row and one fresh open item differ. -/
structure Opened (s t : Store) (id : RowId) (row : EventRow) (kind : ReviewKind) : Prop where
  written : RowWritten s t id row
  opens : ∀ item other kind', OpenItem t item other kind' ↔
    OpenItem s item other kind' ∨ (item = s.items.length ∧ other = id ∧ kind' = kind)
  idMap : t.idMap = s.idMap
  audit : t.audit = s.audit

/-- Why the engine put an event on the review list. -/
inductive Parking (policy : Policy) (s : Store) (event : EventRow) (opts : ReplayOptions) :
    EventStatus → ReviewKind → Prop where
  | refused : opts.mode = .auto → Parking policy s event opts .refused .refused
  | waiting : opts.mode = .auto → Parking policy s event opts .held .waiting
  | heldCheckpoint : opts.mode = .auto → policy.isCheckpoint event.channel = true →
      Parking policy s event opts .held .heldCheckpoint
  | possibleDuplicate : opts.bypassDuplicate = false → (dependencyState s event).blocking = [] →
      Parking policy s event opts .held .possibleDuplicate

/-- A booking, as the transaction stands when `onBooked` runs. -/
structure Booked (s t : Store) (id : RowId) (event row : EventRow) : Prop where
  written : RowWritten s t id row
  opens : ∀ item other kind, kind.watched = true → (OpenItem t item other kind ↔ OpenItem s item other kind)
  owner : ∀ item other kind, other ≠ id → OpenItem t item other kind → OpenItem s item other kind
  maps : ∃ added : List IdMapRow, t.idMap = s.idMap ++ added ∧ ∀ m ∈ added, m.eventId = event.eventId
  audit : t.audit = s.audit ++ [event.eventId]

inductive Processed (policy : Policy) (s : Store) (id : RowId) (event : EventRow) (opts : ReplayOptions)
    (answers : Answers) : Store × ReplayOutcome → Prop where
  | kept (t : Store) (out : ReplayOutcome) (row : EventRow) (written : RowWritten s t id row)
      (status : row.status = event.status) (items : t.items = s.items) (idMap : t.idMap = s.idMap)
      (audit : t.audit = s.audit)
      (quiet : (out.technical = true ∧ (out.status = .received ∨ out.status = event.status)) ∨
        (out.status = event.status ∧ ((opts.mode = .apply ∧ out.refusedOnApply = true) ∨ due event opts = false))) :
      Processed policy s id event opts answers (t, out)
  | parked (t : Store) (out : ReplayOutcome) (row : EventRow) (kind : ReviewKind) (opened : Opened s t id row kind)
      (isDue : due event opts = true) (status : row.status = out.status)
      (parking : Parking policy s event opts out.status kind) (settledCall : out.technical = false)
      (fresh : out.refusedOnApply = false) : Processed policy s id event opts answers (t, out)
  | skipped (t : Store) (out : ReplayOutcome) (row : EventRow) (opened : Opened s t id row .certainDuplicate)
      (isDue : due event opts = true) (status : row.status = .skipped) (answer : out.status = .skipped)
      (settledCall : out.technical = false) (certain : HookCertain policy s event opts answers)
      (ready : (dependencyState s event).blocking = [])
      (admitted : policy.isCheckpoint event.channel = true → opts.bypassCheckpoint = true) : Processed policy s id event opts answers (t, out)
  | booked (t : Store) (out : ReplayOutcome) (row : EventRow) (booking : Booked s t id event row)
      (isDue : due event opts = true) (status : row.status = bookedStatus opts.mode)
      (answer : out.status = bookedStatus opts.mode) (settledCall : out.technical = false)
      (ready : (dependencyState s event).blocking = [])
      (admitted : policy.isCheckpoint event.channel = true → opts.bypassCheckpoint = true) :
      Processed policy s id event opts answers (opts.onBooked t, out)

section
variable {policy : Policy} {s : Store} {id : RowId} {event : EventRow} {opts : ReplayOptions} {answers : Answers}

theorem opened_insertItem {s' : Store} {row : EventRow} (written : RowWritten s s' id row)
    (items : s'.items = s.items) (idMap : s'.idMap = s.idMap) (audit : s'.audit = s.audit) (new : ReviewRow)
    (owner : new.eventRowId = some id) (isOpen : new.state = .opened) (kind : ReviewKind) (named : new.kind = kind) :
    Opened s (s'.insertItem new) id row kind where
  written := written.congr rfl rfl
  opens item other kind' := by
    rw [openItem_insertItem new isOpen, openItem_congr items, items, owner, named]
    simp only [Option.some.injEq, eq_comm]
  idMap := idMap
  audit := audit

/-- `base` is the store after a counted attempt, or `s` itself. -/
theorem haltEvent_processed (isDue : due event opts = true) (base : Store)
    (current : EventRow) (counted : RowWritten s base id current) (items : base.items = s.items)
    (idMap : base.idMap = s.idMap) (audit : base.audit = s.audit) (same : current.status = event.status)
    (status : EventStatus) (kind : ReviewKind) (error : String) (details : Details)
    (parking : opts.mode = .auto → Parking policy s event opts status kind) :
    Processed policy s id event opts answers (haltEvent base id event opts.mode status kind error details) := by
  unfold haltEvent
  split_ifs with applying
  · have written := rowWritten_updateEvent base id current (fun row => { row with error := some error })
      counted.here rfl
    exact .kept _ _ _ (counted.trans written) same items idMap audit (.inr ⟨rfl, .inl ⟨applying, rfl⟩⟩)
  · have auto : opts.mode = .auto := by cases mode : opts.mode <;> simp_all
    have written := rowWritten_updateEvent base id current
      (fun row => { row with status := status, serverIds := none, error := some error }) counted.here rfl
    exact .parked _ _ _ kind
      (opened_insertItem (counted.trans written) items idMap audit _ rfl rfl kind rfl)
      isDue rfl (parking auto) rfl rfl

theorem technicalFailure_processed (found : s.events[id]? = some event) (isDue : due event opts = true)
    (error : String) :
    Processed policy s id event opts answers (technicalFailure policy s id event error opts.mode) := by
  have counted := rowWritten_updateEvent s id event
    (fun row => { row with attempts := row.attempts + 1, error := some error }) found rfl
  unfold technicalFailure
  split_ifs with applying
  · exact .kept _ _ _ (rowWritten_refl s id event found) rfl rfl rfl rfl (.inl ⟨rfl, .inr rfl⟩)
  · have auto : opts.mode = .auto := by cases mode : opts.mode <;> simp_all
    dsimp only
    split_ifs with limit
    · have halted (text : String) : Processed policy s id event opts answers
          (haltEvent (s.incrementAttempts id error) id event opts.mode .refused .refused text {}) :=
        haltEvent_processed isDue _ _ counted rfl rfl rfl rfl .refused .refused text {} (fun mode => .refused mode)
      rw [auto] at halted
      exact halted _
    · exact .kept _ _ _ counted rfl rfl rfl rfl (.inl ⟨rfl, .inl rfl⟩)

theorem commitBooking_booked (found : s.events[id]? = some event) {mapped : Store} {notes : List Note}
    (maps : MapsOnly s mapped event.eventId) (only : NotesOnly notes) (mode : Mode) (created : CreatedRows) :
    ∃ t row, Booked s t id event row ∧ row.status = bookedStatus mode ∧
      ∀ opts : ReplayOptions, opts.mode = mode → commitBooking mapped id event opts created notes =
        (opts.onBooked t, { status := bookedStatus mode, serverIds := some created }) := by
  obtain ⟨added, rfl, named⟩ := maps
  set audited : Store := { s with idMap := s.idMap ++ added, audit := s.audit ++ [event.eventId] }
  have written := rowWritten_updateEvent audited id event
    (fun row => { row with status := bookedStatus mode, serverIds := some created, error := none }) found rfl
  have frame := insertNotes_frame (audited.updateOutcome id (bookedStatus mode) (some created) none) id event notes
  refine ⟨insertNotes (audited.updateOutcome id (bookedStatus mode) (some created) none) id event notes, _,
    ⟨(written.congr frame.1 frame.2.2.2).base rfl rfl, ?_, ?_, ⟨added, frame.2.1, named⟩, frame.2.2.1⟩, rfl, ?_⟩
  · intro item other kind watched
    rw [insertNotes_openItem _ _ _ _ only _ _ _ watched]
    rfl
  · intro item other kind different opened
    have there := insertNotes_elsewhere _ id event notes item other kind different opened
    exact there
  · rintro opts rfl
    rfl

theorem storeDuplicate_opened (found : s.events[id]? = some event) (status : EventStatus) (kind : ReviewKind)
    (details : Details) : ∃ t row error, Opened s t id row kind ∧ row.status = status ∧
      storeDuplicate s id event status kind details = (t, { status := status, error := some error }) := by
  have written := rowWritten_updateEvent s id event (fun row => { row with status := status, serverIds := none, error := some (details.reason.getD
    (if kind = .certainDuplicate then "certain_duplicate" else "possible_duplicate")) }) found rfl
  exact ⟨_, _, _, opened_insertItem written rfl rfl rfl _ rfl rfl kind rfl, rfl, rfl⟩

theorem checkReferences_none {ids : List Nat} (pass : checkReferences policy s event answers ids = none) :
    (dependencyState s event).blocking = [] := by
  unfold checkReferences at pass
  dsimp only at pass
  split at pass
  · cases pass
  · rename_i unblocked
    simpa using unblocked

theorem checkReferences_hold {ids : List Nat} {kind : HoldKind} {error : String}
    (held : checkReferences policy s event answers ids = some (.hold kind error)) : kind = .waiting := by
  unfold checkReferences at held
  dsimp only at held
  split at held
  · cases held; rfl
  · split at held
    · cases held; rfl
    · split at held
      · cases held
      · split at held <;> cases held

/-- An open booking window has no blocking dependency, and a checkpoint only opens it for an admin. -/
theorem checkEvent_none (pass : checkEvent policy s event opts answers = none) :
    (dependencyState s event).blocking = [] ∧
      (policy.isCheckpoint event.channel = true → opts.bypassCheckpoint = true) := by
  unfold checkEvent at pass
  split at pass
  · cases pass
  · split at pass
    · cases pass
    · split at pass
      · cases pass
      · rename_i unheld
        refine ⟨?_, fun checkpoint => by simpa [checkpoint] using unheld⟩
        split at pass
        · split at pass
          · cases pass
          · exact checkReferences_none pass
        · cases pass

theorem checkEvent_heldCheckpoint {error : String}
    (held : checkEvent policy s event opts answers = some (.hold .heldCheckpoint error)) :
    policy.isCheckpoint event.channel = true := by
  unfold checkEvent at held
  split at held
  · cases held
  · split at held
    · cases held
    · split at held
      · rename_i parked
        exact (Bool.and_eq_true_iff.mp parked).1
      · split at held
        · split at held
          · cases held
          · cases checkReferences_hold held
        · cases held

theorem bookingWindow_processed (found : s.events[id]? = some event) (isDue : due event opts = true)
    (faultless : answers.fault = none) (pass : checkEvent policy s event opts answers = none) (written : Store × ReplayOutcome)
    (done : bookingWindow s id event opts answers = .booked written) :
    Processed policy s id event opts answers written := by
  obtain ⟨ready, admitted⟩ := checkEvent_none pass
  unfold bookingWindow at done
  split at done
  · cases done
  · cases done
  · rename_i result success
    split at done
    · cases done
    · rename_i onTime
      split at done
      · rename_i details verdict
        cases done
        obtain ⟨t, row, error, opened, status, same⟩ :=
          storeDuplicate_opened found .skipped .certainDuplicate details
        have asked : opts.bypassDuplicate = false := by
          cases bypass : opts.bypassDuplicate with
          | false => rfl
          | true => rw [bypass] at verdict; cases verdict
        rw [asked] at verdict
        have certain : Answers.certain answers = true := by
          simp [Answers.certain, success, onTime, show result.duplicate = .skipped details from verdict]
        rw [same]
        exact .skipped t _ row opened isDue status rfl rfl ⟨asked, faultless, pass, certain⟩ ready admitted
      · rename_i details verdict
        cases done
        obtain ⟨t, row, error, opened, status, same⟩ := storeDuplicate_opened found .held .possibleDuplicate details
        have asked : opts.bypassDuplicate = false := by
          cases bypass : opts.bypassDuplicate with
          | false => rfl
          | true => rw [bypass] at verdict; cases verdict
        rw [same]
        exact .parked t _ row _ opened isDue status (.possibleDuplicate asked ready) rfl rfl
      · split at done
        · cases done
        · rename_i mapped notes mapping
          cases done
          obtain ⟨maps, only⟩ := mapBooking_spec _ _ _ _ _ mapping
          obtain ⟨t, row, booking, status, same⟩ := commitBooking_booked found maps
            (bookingNotes_notesOnly answers result notes only) opts.mode result.created
          rw [same opts rfl]
          exact .booked t _ row booking isDue status rfl rfl ready admitted

/-- Everything one call of the engine can do. -/
theorem process_cases (found : s.events[id]? = some event) :
    Processed policy s id event opts answers (process policy s id event opts answers) := by
  have here := rowWritten_refl s id event found
  unfold process
  split_ifs with idle
  · exact .kept _ _ _ here rfl rfl rfl rfl (.inr ⟨rfl, .inr (by simpa using idle)⟩)
  · have isDue : due event opts = true := by simpa using idle
    split
    · exact technicalFailure_processed found isDue _
    · rename_i faultless
      unfold processOnce
      split
      · exact haltEvent_processed isDue s event here rfl rfl rfl rfl _ _ _ _ (fun mode => .refused mode)
      · rename_i kind error held
        refine haltEvent_processed isDue s event here rfl rfl rfl rfl _ _ _ _ (fun mode => ?_)
        cases kind with
        | heldCheckpoint => exact .heldCheckpoint mode (checkEvent_heldCheckpoint held)
        | waiting => exact .waiting mode
      · rename_i pass
        split
        · rename_i written done
          exact bookingWindow_processed found isDue faultless pass written done
        · exact haltEvent_processed isDue s event here rfl rfl rfl rfl _ _ _ _ (fun mode => .refused mode)
        · exact technicalFailure_processed found isDue _

end

end Liratek.Offline.Outcomes
