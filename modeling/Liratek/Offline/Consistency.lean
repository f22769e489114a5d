import Liratek.Offline.Outcomes

/-! The invariant behind exactly-once booking: event status, open items, id map and audit rows agree.
A transition rewrites one event row, so one lemma carries the invariant over every engine call. -/

namespace Liratek.Offline.Consistency
open Tables Channels Replay Outcomes

/-! Settled dependencies. -/

theorem settled_iff (s : Store) (eventId : EventId) :
    settled s eventId = true ↔
      ∃ (id : RowId) (row : EventRow), s.events[id]? = some row ∧ row.eventId = eventId ∧ settledRow s row = true := by
  simp only [settled, List.any_eq_true, Bool.and_eq_true, hasEventId, decide_eq_true_eq, List.mem_iff_getElem?]
  constructor
  · rintro ⟨row, ⟨id, found⟩, named, done⟩
    exact ⟨id, row, found, named, done⟩
  · rintro ⟨id, row, found, named, done⟩
    exact ⟨row, ⟨id, found⟩, named, done⟩

theorem blocking_eq_nil (s : Store) (event : EventRow) :
    (dependencyState s event).blocking = [] ↔ ∀ d ∈ event.dependsOn, settled s d = true := by
  simp [dependencyState, List.filter_eq_nil_iff]

theorem listForEvent_isEmpty (s : Store) (eventId : EventId) :
    (s.listForEvent eventId).isEmpty = true ↔ ∀ m ∈ s.idMap, m.eventId ≠ eventId := by
  simp [Store.listForEvent, List.isEmpty_iff, List.filter_eq_nil_iff]

theorem settledRow_of_more {s u : Store} {row row' : EventRow} {added : List IdMapRow}
    (idMap : u.idMap = s.idMap ++ added) (status : row'.status = row.status) (named : row'.eventId = row.eventId)
    (done : settledRow s row = true) : settledRow u row' = true := by
  unfold settledRow at done ⊢
  rw [status, named]
  have grows : (s.listForEvent row.eventId).isEmpty = false → (u.listForEvent row.eventId).isEmpty = false := by
    intro mapped
    rw [← Bool.not_eq_true, listForEvent_isEmpty] at mapped ⊢
    intro unmapped
    exact mapped fun m member => unmapped m (by rw [idMap]; exact List.mem_append_left added member)
  cases booked : row.status.isBooked with
  | true => rfl
  | false =>
    simp only [booked, Bool.false_or, Bool.and_eq_true, Bool.not_eq_true'] at done ⊢
    exact ⟨done.1, grows done.2⟩

/-! The invariant. `tidy` adds that a waiting event has one open item, not several. -/

structure Consistent (policy : Policy) (tidy : Prop) (s : Store) : Prop where
  distinct : ∀ (i j : RowId) (a b : EventRow), s.events[i]? = some a → s.events[j]? = some b → a.eventId = b.eventId → i = j
  owned : ∀ item id kind, OpenItem s item id kind → id < s.events.length
  quiet : ∀ (id : RowId) (row : EventRow), s.events[id]? = some row → row.status.awaits = false →
    ∀ item kind, OpenItem s item id kind → kind.holding = false
  held : ∀ (id : RowId) (row : EventRow), s.events[id]? = some row → row.status.awaits = true →
    ∃ item kind, OpenItem s item id kind ∧ kind.holding = true
  single : tidy → ∀ id item item' kind kind', OpenItem s item id kind → OpenItem s item' id kind' →
    kind.holding = true → kind'.holding = true → item = item'
  duplicate : ∀ (id : RowId) (row : EventRow), s.events[id]? = some row → row.status ≠ .skipped →
    ∀ item, ¬ OpenItem s item id .certainDuplicate
  oneDuplicate : ∀ id item item', OpenItem s item id .certainDuplicate →
    OpenItem s item' id .certainDuplicate → item = item'
  noMismatch : ∀ item id, ¬ OpenItem s item id .pcDataMismatch
  once : ∀ (id : RowId) (row : EventRow), s.events[id]? = some row → s.audit.count row.eventId = if row.status.isBooked then 1 else 0
  audited : ∀ eventId ∈ s.audit, ∃ (id : RowId) (row : EventRow), s.events[id]? = some row ∧ row.eventId = eventId
  linked : ∀ m ∈ s.idMap, ∃ (id : RowId) (row : EventRow), s.events[id]? = some row ∧ row.eventId = m.eventId ∧
    (row.status.isBooked = true ∨ row.status = .dismissed ∨
      (row.status = .skipped ∧ ∀ item, ¬ OpenItem s item id .certainDuplicate))
  parked : ∀ (id : RowId) (row : EventRow), s.events[id]? = some row → row.status = .held → policy.isCheckpoint row.channel = false →
    (∃ item kind, OpenItem s item id kind ∧ kind.holding = true ∧ kind ≠ .waiting) →
    ∀ d ∈ row.dependsOn, settled s d = true

/-- A transition that rewrites one event row. Items of other events stay as open as they were. -/
structure RowStep (s u : Store) (id : RowId) (old row : EventRow) : Prop where
  before : s.events[id]? = some old
  written : RowWritten s u id row
  elsewhere : ∀ item other kind, other ≠ id → kind.watched = true →
    (OpenItem u item other kind ↔ OpenItem s item other kind)
  owner : ∀ item other kind, OpenItem u item other kind → OpenItem s item other kind ∨ other = id
  maps : ∃ added : List IdMapRow, u.idMap = s.idMap ++ added ∧ ∀ m ∈ added, m.eventId = old.eventId

/-- What the rewritten row has to satisfy in the new store. -/
structure RowReady (policy : Policy) (tidy : Prop) (s u : Store) (id : RowId) (old row : EventRow) : Prop where
  quiet : row.status.awaits = false → ∀ item kind, OpenItem u item id kind → kind.holding = false
  held : row.status.awaits = true → ∃ item kind, OpenItem u item id kind ∧ kind.holding = true
  single : tidy → ∀ item item' kind kind', OpenItem u item id kind → OpenItem u item' id kind' →
    kind.holding = true → kind'.holding = true → item = item'
  duplicate : row.status ≠ .skipped → ∀ item, ¬ OpenItem u item id .certainDuplicate
  oneDuplicate : ∀ item item', OpenItem u item id .certainDuplicate → OpenItem u item' id .certainDuplicate →
    item = item'
  noMismatch : ∀ item, ¬ OpenItem u item id .pcDataMismatch
  once : u.audit.count old.eventId = if row.status.isBooked then 1 else 0
  audit : ∀ eventId, eventId ≠ old.eventId → u.audit.count eventId = s.audit.count eventId
  linked : (∃ m ∈ u.idMap, m.eventId = old.eventId) → row.status.isBooked = true ∨ row.status = .dismissed ∨
    (row.status = .skipped ∧ ∀ item, ¬ OpenItem u item id .certainDuplicate)
  parked : row.status = .held → policy.isCheckpoint old.channel = false →
    (∃ item kind, OpenItem u item id kind ∧ kind.holding = true ∧ kind ≠ .waiting) →
    ∀ d ∈ old.dependsOn, settled s d = true
  monotone : settledRow s old = true → settledRow u row = true

section
variable {policy : Policy} {tidy : Prop} {s u : Store} {id : RowId} {old row : EventRow}

theorem RowStep.record (step : RowStep s u id old row) : row.toEventRecord = old.toEventRecord :=
  step.written.record old step.before

theorem RowStep.rows (step : RowStep s u id old row) (j : RowId) (r : EventRow) (found : u.events[j]? = some r) :
    (j = id ∧ r = row) ∨ (j ≠ id ∧ s.events[j]? = some r) := by
  by_cases same : j = id
  · subst same
    rw [step.written.here] at found
    exact .inl ⟨rfl, (Option.some.inj found).symm⟩
  · rw [step.written.others j same] at found
    exact .inr ⟨same, found⟩

/-- A dependency that was settled stays settled. -/
theorem RowStep.settled_mono (step : RowStep s u id old row)
    (monotone : settledRow s old = true → settledRow u row = true) (eventId : EventId)
    (done : settled s eventId = true) : settled u eventId = true := by
  obtain ⟨j, r, found, named, settles⟩ := (settled_iff s eventId).mp done
  obtain ⟨added, idMap, -⟩ := step.maps
  apply (settled_iff u eventId).mpr
  by_cases same : j = id
  · subst same
    rw [step.before] at found
    obtain rfl := Option.some.inj found
    exact ⟨j, row, step.written.here, by rw [step.record, named], monotone settles⟩
  · exact ⟨j, r, by rw [step.written.others j same, found], named, settledRow_of_more idMap rfl rfl settles⟩

theorem Consistent.step (c : Consistent policy tidy s) (step : RowStep s u id old row)
    (ready : RowReady policy tidy s u id old row) : Consistent policy tidy u := by
  have record := step.record
  have named : row.eventId = old.eventId := by rw [record]
  have mono := step.settled_mono ready.monotone
  obtain ⟨added, idMap, onlyOld⟩ := step.maps
  have other : ∀ (j : RowId) (r : EventRow), j ≠ id → s.events[j]? = some r → r.eventId ≠ old.eventId := by
    intro j r different found same
    exact different (c.distinct j id r old found step.before same)
  have holdingElsewhere : ∀ item j kind, j ≠ id → kind.holding = true →
      (OpenItem u item j kind ↔ OpenItem s item j kind) := fun item j kind different holding =>
    step.elsewhere item j kind different (ReviewKind.watched_of_decisive (ReviewKind.decisive_of_holding holding))
  refine ⟨?distinct, ?owned, ?quiet, ?held, ?single, ?duplicate, ?oneDuplicate, ?noMismatch, ?once, ?audited, ?linked,
    ?parked⟩
  case distinct =>
    intro i j a b foundA foundB same
    rcases step.rows i a foundA with ⟨rfl, rfl⟩ | ⟨differentA, wasA⟩ <;>
      rcases step.rows j b foundB with ⟨rfl, rfl⟩ | ⟨differentB, wasB⟩
    · rfl
    · exact absurd (same.symm.trans named) (other j b differentB wasB)
    · exact absurd (same.trans named) (other i a differentA wasA)
    · exact c.distinct i j a b wasA wasB same
  case owned =>
    intro item j kind opened
    rw [step.written.length]
    rcases step.owner item j kind opened with was | rfl
    · exact c.owned item j kind was
    · exact (List.getElem?_eq_some_iff.mp step.before).1
  case quiet =>
    intro j r found calm item kind opened
    rcases step.rows j r found with ⟨rfl, rfl⟩ | ⟨different, was⟩
    · exact ready.quiet calm item kind opened
    · by_contra holding
      have holding : kind.holding = true := by simpa using holding
      have before := c.quiet j r was calm item kind ((holdingElsewhere item j kind different holding).mp opened)
      rw [before] at holding
      cases holding
  case held =>
    intro j r found awaiting
    rcases step.rows j r found with ⟨rfl, rfl⟩ | ⟨different, was⟩
    · exact ready.held awaiting
    · obtain ⟨item, kind, opened, holding⟩ := c.held j r was awaiting
      exact ⟨item, kind, (holdingElsewhere item j kind different holding).mpr opened, holding⟩
  case single =>
    intro strict j item item' kind kind' one two holding holding'
    by_cases same : j = id
    · subst same
      exact ready.single strict item item' kind kind' one two holding holding'
    · exact c.single strict j item item' kind kind' ((holdingElsewhere item j kind same holding).mp one)
        ((holdingElsewhere item' j kind' same holding').mp two) holding holding'
  case duplicate =>
    intro j r found unskipped item opened
    rcases step.rows j r found with ⟨rfl, rfl⟩ | ⟨different, was⟩
    · exact ready.duplicate unskipped item opened
    · exact c.duplicate j r was unskipped item ((step.elsewhere item j _ different rfl).mp opened)
  case oneDuplicate =>
    intro j item item' one two
    by_cases same : j = id
    · subst same
      exact ready.oneDuplicate item item' one two
    · exact c.oneDuplicate j item item' ((step.elsewhere item j _ same rfl).mp one)
        ((step.elsewhere item' j _ same rfl).mp two)
  case noMismatch =>
    intro item j opened
    by_cases same : j = id
    · subst same
      exact ready.noMismatch item opened
    · exact c.noMismatch item j ((step.elsewhere item j _ same rfl).mp opened)
  case once =>
    intro j r found
    rcases step.rows j r found with ⟨rfl, rfl⟩ | ⟨different, was⟩
    · rw [named]
      exact ready.once
    · rw [ready.audit _ (other j r different was)]
      exact c.once j r was
  case audited =>
    intro eventId member
    by_cases same : eventId = old.eventId
    · exact ⟨id, row, step.written.here, by rw [named, same]⟩
    · have counted : 0 < s.audit.count eventId := by
        rw [← ready.audit eventId same]
        exact List.count_pos_iff.mpr member
      obtain ⟨j, r, found, isNamed⟩ := c.audited eventId (List.count_pos_iff.mp counted)
      have different : j ≠ id := by
        rintro rfl
        rw [step.before] at found
        rw [Option.some.inj found] at same
        exact same isNamed.symm
      exact ⟨j, r, by rw [step.written.others j different, found], isNamed⟩
  case linked =>
    intro m member
    by_cases same : m.eventId = old.eventId
    · exact ⟨id, row, step.written.here, by rw [named, same], ready.linked ⟨m, member, same⟩⟩
    · have was : m ∈ s.idMap := by
        rw [idMap] at member
        exact (List.mem_append.mp member).resolve_right fun late => same (onlyOld m late)
      obtain ⟨j, r, found, isNamed, status⟩ := c.linked m was
      have different : j ≠ id := by
        rintro rfl
        rw [step.before] at found
        rw [Option.some.inj found] at same
        exact same isNamed.symm
      refine ⟨j, r, by rw [step.written.others j different, found], isNamed, ?_⟩
      refine status.imp_right (Or.imp_right fun skipped => ⟨skipped.1, fun item opened => ?_⟩)
      exact skipped.2 item ((step.elsewhere item j _ different rfl).mp opened)
  case parked =>
    intro j r found isHeld plain other' d dependency
    rcases step.rows j r found with ⟨rfl, rfl⟩ | ⟨different, was⟩
    · rw [record] at plain dependency
      exact mono d (ready.parked isHeld plain other' d dependency)
    · obtain ⟨item, kind, opened, holding, unlike⟩ := other'
      exact mono d (c.parked j r was isHeld plain
        ⟨item, kind, (holdingElsewhere item j kind different holding).mp opened, holding, unlike⟩ d dependency)

end

end Liratek.Offline.Consistency
