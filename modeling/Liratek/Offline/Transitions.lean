import Liratek.Offline.Consistency

/-! The engine's four cases as transitions of the invariant, each together with the items its caller closes. -/

namespace Liratek.Offline.Transitions
open Tables Channels Replay Outcomes Consistency

/-- Open items of row `id` are closed, and nothing else differs. -/
structure Closes (t u : Store) (id : RowId) (gone : ItemId → Prop) : Prop where
  events : u.events = t.events
  idMap : u.idMap = t.idMap
  audit : u.audit = t.audit
  devices : u.devices = t.devices
  opens : ∀ item other kind, OpenItem u item other kind ↔ OpenItem t item other kind ∧ ¬ gone item
  owned : ∀ item other kind, gone item → OpenItem t item other kind → other = id

theorem closes_resolveAll (t : Store) (id : RowId) (items : List ItemId) (state : ReviewState) (adminId : Nat)
    (closing : state ≠ .opened) (owned : ∀ item other kind, item ∈ items → OpenItem t item other kind → other = id) :
    Closes t (t.resolveAll items state adminId) id fun item => item ∈ items where
  events := events_resolveAll t items state adminId
  idMap := idMap_resolveAll t items state adminId
  audit := audit_resolveAll t items state adminId
  devices := devices_resolveAll t items state adminId
  opens _ _ _ := openItem_resolveAll closing items adminId
  owned := owned

theorem closes_resolve (t : Store) (id : RowId) (item : ItemId) (state : ReviewState) (adminId : Nat)
    (closing : state ≠ .opened) (owned : ∀ other kind, OpenItem t item other kind → other = id) :
    Closes t (t.resolve item state adminId) id fun other => other = item where
  events := rfl
  idMap := rfl
  audit := rfl
  devices := rfl
  opens _ _ _ := openItem_resolve closing adminId
  owned other row kind same opened := by
    subst same
    exact owned row kind opened

/-- One row is rewritten and the invariant's demands on it hold. -/
structure Moves (policy : Policy) (tidy : Prop) (s u : Store) (id : RowId) (old row : EventRow) : Prop where
  step : RowStep s u id old row
  ready : RowReady policy tidy s u id old row

section
variable {policy : Policy} {tidy : Prop} {s t u : Store} {id : RowId} {old row : EventRow}

theorem Moves.consistent (moves : Moves policy tidy s u id old row) (c : Consistent policy tidy s) :
    Consistent policy tidy u :=
  c.step moves.step moves.ready

theorem Moves.settled_mono (moves : Moves policy tidy s u id old row) (eventId : EventId)
    (done : settled s eventId = true) : settled u eventId = true :=
  moves.step.settled_mono moves.ready.monotone eventId done

/-- Statuses under which the engine may still write an outcome. -/
def Fresh (old : EventRow) : Prop :=
  old.status = .received ∨ old.status.awaits = true

theorem Fresh.not_booked (fresh : Fresh old) : old.status.isBooked = false := by
  rcases fresh with received | awaits
  · rw [received]; rfl
  · cases status : old.status <;> simp_all [EventStatus.awaits, EventStatus.isBooked]

theorem Fresh.not_skipped (fresh : Fresh old) : old.status ≠ .skipped := by
  rcases fresh with received | awaits
  · simp [received]
  · intro skipped
    simp [skipped, EventStatus.awaits] at awaits

theorem Fresh.not_dismissed (fresh : Fresh old) : old.status ≠ .dismissed := by
  rcases fresh with received | awaits
  · simp [received]
  · intro dismissed
    simp [dismissed, EventStatus.awaits] at awaits

/-- A fresh event has no id-map row. -/
theorem unmapped (c : Consistent policy tidy s) (found : s.events[id]? = some old)
    (unsettled : old.status.isBooked = false) (undismissed : old.status ≠ .dismissed)
    (skipped : old.status = .skipped → ∃ item, OpenItem s item id .certainDuplicate) :
    ∀ m ∈ s.idMap, m.eventId ≠ old.eventId := by
  intro m member same
  obtain ⟨j, r, there, named, status⟩ := c.linked m member
  obtain rfl := c.distinct j id r old there found (named.trans same)
  rw [found] at there
  obtain rfl := Option.some.inj there
  rcases status with booked | dismissed | ⟨isSkipped, closed⟩
  · rw [unsettled] at booked
    cases booked
  · exact undismissed dismissed
  · obtain ⟨item, opened⟩ := skipped isSkipped
    exact closed item opened

/-- An undecided event is not settled: no dependant may pass it. -/
theorem not_settled (c : Consistent policy tidy s) (found : s.events[id]? = some old)
    (unsettled : old.status.isBooked = false) (undismissed : old.status ≠ .dismissed)
    (skipped : old.status = .skipped → ∃ item, OpenItem s item id .certainDuplicate) :
    settled s old.eventId = false := by
  rw [← Bool.not_eq_true]
  intro done
  obtain ⟨j, r, there, named, settles⟩ := (settled_iff s old.eventId).mp done
  obtain rfl := c.distinct j id r old there found named
  rw [found] at there
  obtain rfl := Option.some.inj there
  have empty := (listForEvent_isEmpty s old.eventId).mpr
    (unmapped c found unsettled undismissed skipped)
  simp [settledRow, unsettled, empty] at settles

/-! The cases. -/

theorem moves_kept (c : Consistent policy tidy s) (found : s.events[id]? = some old)
    (written : RowWritten s t id row) (status : row.status = old.status) (items : t.items = s.items)
    (idMap : t.idMap = s.idMap) (audit : t.audit = s.audit) : Moves policy tidy s t id old row := by
  have opens : ∀ item other kind, OpenItem t item other kind ↔ OpenItem s item other kind :=
    fun _ _ _ => openItem_congr items
  have record := written.record old found
  refine ⟨⟨found, written, fun item other kind _ _ => opens item other kind,
    fun item other kind opened => .inl ((opens item other kind).mp opened), ⟨[], by simp [idMap], by simp⟩⟩, ?_⟩
  refine ⟨?quiet, ?isHeld, ?single, ?duplicate, ?oneDuplicate, ?noMismatch, ?once, ?audit, ?linked, ?parked, ?monotone⟩
  case quiet =>
    intro calm item kind opened
    exact c.quiet id old found (status ▸ calm) item kind ((opens item id kind).mp opened)
  case isHeld =>
    intro awaiting
    obtain ⟨item, kind, opened, holding⟩ := c.held id old found (status ▸ awaiting)
    exact ⟨item, kind, (opens item id kind).mpr opened, holding⟩
  case single =>
    intro strict item item' kind kind' one two
    exact c.single strict id item item' kind kind' ((opens item id kind).mp one) ((opens item' id kind').mp two)
  case duplicate =>
    intro unskipped item opened
    exact c.duplicate id old found (status ▸ unskipped) item ((opens item id _).mp opened)
  case oneDuplicate =>
    intro item item' one two
    exact c.oneDuplicate id item item' ((opens item id _).mp one) ((opens item' id _).mp two)
  case noMismatch => exact fun item opened => c.noMismatch item id ((opens item id _).mp opened)
  case once =>
    rw [audit, status]
    exact c.once id old found
  case audit =>
    intro eventId _
    rw [audit]
  case linked =>
    rintro ⟨m, member, same⟩
    rw [idMap] at member
    obtain ⟨j, r, there, named, state⟩ := c.linked m member
    obtain rfl := c.distinct j id r old there found (named.trans same)
    rw [found] at there
    obtain rfl := Option.some.inj there
    rw [status]
    exact state.imp_right (Or.imp_right fun skipped =>
      ⟨skipped.1, fun item opened => skipped.2 item ((opens item j _).mp opened)⟩)
  case parked =>
    rintro isHeld plain ⟨item, kind, opened, holding, unlike⟩ d dependency
    exact c.parked id old found (status ▸ isHeld) plain
      ⟨item, kind, (opens item id kind).mp opened, holding, unlike⟩ d dependency
  case monotone =>
    intro done
    have nothing : t.idMap = s.idMap ++ [] := by rw [idMap, List.append_nil]
    exact settledRow_of_more nothing status (by rw [record]) done

variable {gone : ItemId → Prop} {kind : ReviewKind}

/-- The open items after a fresh item and the closing of others. -/
theorem opened_closes (opened : Opened s t id row kind) (closes : Closes t u id gone) (item : ItemId) (other : RowId)
    (kind' : ReviewKind) : OpenItem u item other kind' ↔
      (OpenItem s item other kind' ∨ (item = s.items.length ∧ other = id ∧ kind' = kind)) ∧ ¬ gone item := by
  rw [closes.opens, opened.opens]

theorem step_opened (found : s.events[id]? = some old) (opened : Opened s t id row kind)
    (closes : Closes t u id gone) : RowStep s u id old row where
  before := found
  written := opened.written.congr closes.events closes.devices
  elsewhere item other kind' different _ := by
    rw [opened_closes opened closes]
    constructor
    · rintro ⟨was | ⟨-, same, -⟩, -⟩
      · exact was
      · exact absurd same different
    · intro was
      refine ⟨.inl was, fun closed => different (closes.owned item other kind' closed ?_)⟩
      exact (opened.opens item other kind').mpr (.inl was)
  owner item other kind' there := by
    obtain ⟨was | ⟨-, same, -⟩, -⟩ := (opened_closes opened closes item other kind').mp there
    · exact .inl was
    · exact .inr same
  maps := ⟨[], by rw [closes.idMap, opened.idMap, List.append_nil], by simp⟩

/-- A fresh event that is not booked has no audit row, before and after. -/
theorem once_opened (c : Consistent policy tidy s) (found : s.events[id]? = some old) (fresh : Fresh old)
    (opened : Opened s t id row kind) (closes : Closes t u id gone) : u.audit.count old.eventId = 0 := by
  rw [closes.audit, opened.audit, c.once id old found, fresh.not_booked]
  rfl

theorem not_mapped (c : Consistent policy tidy s) (found : s.events[id]? = some old) (fresh : Fresh old)
    (opened : Opened s t id row kind) (closes : Closes t u id gone) :
    ¬ ∃ m ∈ u.idMap, m.eventId = old.eventId := by
  rintro ⟨m, member, same⟩
  rw [closes.idMap, opened.idMap] at member
  exact unmapped c found fresh.not_booked fresh.not_dismissed
    (fun skipped => absurd skipped fresh.not_skipped) m member same

theorem not_settledRow (c : Consistent policy tidy s) (found : s.events[id]? = some old) (fresh : Fresh old) :
    settledRow s old = false := by
  have unmapped := unmapped c found fresh.not_booked fresh.not_dismissed
    (fun skipped => absurd skipped fresh.not_skipped)
  simp [settledRow, fresh.not_booked, (listForEvent_isEmpty s old.eventId).mpr unmapped]

/-- The event is put on the review list and its earlier items are closed. -/
theorem moves_opened (c : Consistent policy tidy s) (found : s.events[id]? = some old) (fresh : Fresh old)
    (opened : Opened s t id row kind) (holding : kind.holding = true) (awaits : row.status.awaits = true)
    (closes : Closes t u id gone) (keepsNew : ¬ gone s.items.length)
    (clears : tidy → ∀ item kind', OpenItem s item id kind' → kind'.holding = true → gone item)
    (rests : row.status = .held → policy.isCheckpoint old.channel = false →
      (∀ d ∈ old.dependsOn, settled s d = true) ∨
        (kind = .waiting ∧ ∀ item kind', OpenItem s item id kind' → kind'.holding = true → kind' = .waiting)) :
    Moves policy tidy s u id old row := by
  have opens := opened_closes opened closes
  have unbooked : row.status.isBooked = false := by
    cases status : row.status <;> simp_all [EventStatus.awaits, EventStatus.isBooked]
  have unskipped : old.status ≠ .skipped := fresh.not_skipped
  refine ⟨step_opened found opened closes, ?_⟩
  refine ⟨?quiet, ?isHeld, ?single, ?duplicate, ?oneDuplicate, ?noMismatch, ?once, ?audit, ?linked, ?parked, ?monotone⟩
  case quiet =>
    intro calm
    rw [awaits] at calm
    cases calm
  case isHeld =>
    intro _
    exact ⟨s.items.length, kind, (opens _ _ _).mpr ⟨.inr ⟨rfl, rfl, rfl⟩, keepsNew⟩, holding⟩
  case single =>
    intro strict item item' kind' kind'' one two holds holds'
    obtain ⟨was | ⟨here, -, -⟩, stays⟩ := (opens item id kind').mp one
    · exact absurd (clears strict item kind' was holds) stays
    · obtain ⟨was' | ⟨here', -, -⟩, stays'⟩ := (opens item' id kind'').mp two
      · exact absurd (clears strict item' kind'' was' holds') stays'
      · rw [here, here']
  case duplicate =>
    intro _ item there
    obtain ⟨was | ⟨-, -, same⟩, -⟩ := (opens item id _).mp there
    · exact c.duplicate id old found unskipped item was
    · rw [← same] at holding
      cases holding
  case oneDuplicate =>
    intro item item' one two
    obtain ⟨was | ⟨-, -, same⟩, -⟩ := (opens item id _).mp one
    · exact absurd was (c.duplicate id old found unskipped item)
    · rw [← same] at holding
      cases holding
  case noMismatch =>
    intro item there
    obtain ⟨was | ⟨-, -, same⟩, -⟩ := (opens item id _).mp there
    · exact c.noMismatch item id was
    · rw [← same] at holding
      cases holding
  case once =>
    rw [unbooked]
    exact once_opened c found fresh opened closes
  case audit =>
    intro eventId _
    rw [closes.audit, opened.audit]
  case linked => exact fun mapped => absurd mapped (not_mapped c found fresh opened closes)
  case parked =>
    rintro isHeld plain ⟨item, kind', there, holds, unlike⟩
    rcases rests isHeld plain with ready | ⟨isWaiting, allWaiting⟩
    · exact ready
    · obtain ⟨was | ⟨-, -, same⟩, -⟩ := (opens item id kind').mp there
      · exact absurd (allWaiting item kind' was holds) unlike
      · exact absurd (same.trans isWaiting) unlike
  case monotone =>
    intro done
    rw [not_settledRow c found fresh] at done
    cases done

/-- The event is recognised as a certain duplicate and its holding items are closed. -/
theorem moves_skipped (c : Consistent policy tidy s) (found : s.events[id]? = some old) (fresh : Fresh old)
    (opened : Opened s t id row .certainDuplicate) (status : row.status = .skipped) (closes : Closes t u id gone)
    (clears : ∀ item kind', OpenItem s item id kind' → kind'.holding = true → gone item) :
    Moves policy tidy s u id old row := by
  have opens := opened_closes opened closes
  have noneHolding : ∀ item kind', OpenItem u item id kind' → kind'.holding = false := by
    intro item kind' there
    obtain ⟨was | ⟨-, -, same⟩, stays⟩ := (opens item id kind').mp there
    · by_contra holds
      exact stays (clears item kind' was (by simpa using holds))
    · rw [same]
      rfl
  refine ⟨step_opened found opened closes, ?_⟩
  refine ⟨?quiet, ?isHeld, ?single, ?duplicate, ?oneDuplicate, ?noMismatch, ?once, ?audit, ?linked, ?parked, ?monotone⟩
  case quiet => exact fun _ => noneHolding
  case isHeld =>
    intro awaits
    rw [status] at awaits
    cases awaits
  case single =>
    intro _ item item' kind' kind'' one two holds
    rw [noneHolding item kind' one] at holds
    cases holds
  case duplicate => exact fun unskipped => absurd status unskipped
  case oneDuplicate =>
    intro item item' one two
    obtain ⟨was | ⟨here, -, -⟩, -⟩ := (opens item id _).mp one
    · exact absurd was (c.duplicate id old found fresh.not_skipped item)
    · obtain ⟨was' | ⟨here', -, -⟩, -⟩ := (opens item' id _).mp two
      · exact absurd was' (c.duplicate id old found fresh.not_skipped item')
      · rw [here, here']
  case noMismatch =>
    intro item there
    obtain ⟨was | ⟨-, -, same⟩, -⟩ := (opens item id _).mp there
    · exact c.noMismatch item id was
    · cases same
  case once =>
    rw [status]
    exact once_opened c found fresh opened closes
  case audit =>
    intro eventId _
    rw [closes.audit, opened.audit]
  case linked => exact fun mapped => absurd mapped (not_mapped c found fresh opened closes)
  case parked =>
    intro isHeld
    rw [status] at isHeld
    cases isHeld
  case monotone =>
    intro done
    rw [not_settledRow c found fresh] at done
    cases done

/-- The event is booked and every decisive item of it is closed. -/
theorem moves_booked (c : Consistent policy tidy s) (found : s.events[id]? = some old)
    (unbooked : old.status.isBooked = false) (booking : Booked s t id old row)
    (status : row.status.isBooked = true) (closes : Closes t u id gone)
    (clears : ∀ item kind', OpenItem s item id kind' → kind'.decisive = true → gone item) :
    Moves policy tidy s u id old row := by
  have opens : ∀ item other kind', kind'.watched = true →
      (OpenItem u item other kind' ↔ OpenItem s item other kind' ∧ ¬ gone item) := by
    intro item other kind' watched
    rw [closes.opens, booking.opens item other kind' watched]
  have noneDecisive : ∀ item kind', kind'.decisive = true → ¬ OpenItem u item id kind' := by
    intro item kind' decisive there
    obtain ⟨was, stays⟩ := (opens item id kind' (ReviewKind.watched_of_decisive decisive)).mp there
    exact stays (clears item kind' was decisive)
  have noneHolding : ∀ item kind', OpenItem u item id kind' → kind'.holding = false := by
    intro item kind' there
    by_contra holds
    exact noneDecisive item kind' (ReviewKind.decisive_of_holding (by simpa using holds)) there
  obtain ⟨added, idMap, named⟩ := booking.maps
  refine ⟨⟨found, booking.written.congr closes.events closes.devices, ?_, ?_, ⟨added, by rw [closes.idMap, idMap],
    named⟩⟩, ?_⟩
  · intro item other kind' different watched
    rw [opens item other kind' watched]
    refine and_iff_left_of_imp fun was closed => different (closes.owned item other kind' closed ?_)
    exact (booking.opens item other kind' watched).mpr was
  · intro item other kind' there
    by_cases same : other = id
    · exact .inr same
    · exact .inl (booking.owner item other kind' same ((closes.opens item other kind').mp there).1)
  refine ⟨?quiet, ?isHeld, ?single, ?duplicate, ?oneDuplicate, ?noMismatch, ?once, ?audit, ?linked, ?parked, ?monotone⟩
  case quiet => exact fun _ => noneHolding
  case isHeld =>
    intro awaits
    cases state : row.status <;> simp_all [EventStatus.awaits, EventStatus.isBooked]
  case single =>
    intro _ item item' kind' kind'' one two holds
    rw [noneHolding item kind' one] at holds
    cases holds
  case duplicate => exact fun _ item => noneDecisive item _ rfl
  case oneDuplicate => exact fun item item' one => absurd one (noneDecisive item _ rfl)
  case noMismatch =>
    intro item there
    exact c.noMismatch item id ((opens item id _ rfl).mp there).1
  case once =>
    rw [closes.audit, booking.audit, List.count_append, c.once id old found, unbooked, status]
    simp
  case audit =>
    intro eventId different
    have absent : [old.eventId].count eventId = 0 := List.count_eq_zero_of_not_mem (by simpa using different)
    rw [closes.audit, booking.audit, List.count_append, absent, Nat.add_zero]
  case linked => exact fun _ => .inl status
  case parked =>
    intro isHeld
    rw [isHeld] at status
    cases status
  case monotone =>
    intro _
    simp [settledRow, status]

end

end Liratek.Offline.Transitions
