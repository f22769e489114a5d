import Liratek.Offline.Transitions
import Liratek.Offline.Review

/-! Rounds of engine calls: the calls of a merge round, and the release of held dependants. An event
waiting for an unsettled parent has waiting items only, so a release closes all it holds. -/

namespace Liratek.Offline.ReleaseRounds
open Tables Channels Replay Outcomes Consistency Transitions Review

/-- Rows stay with their records, bookings stay as they are, and nothing becomes unprocessed again. -/
def Persists (s u : Store) : Prop :=
  ∀ (id : RowId) (old : EventRow), s.events[id]? = some old → ∃ row : EventRow, u.events[id]? = some row ∧
    row.toEventRecord = old.toEventRecord ∧ (old.status.isBooked = true → row.status = old.status) ∧
    (old.status ≠ .received → row.status ≠ .received)

theorem persists_refl (s : Store) : Persists s s :=
  fun _ old found => ⟨old, found, rfl, fun _ => rfl, fun was => was⟩

theorem Persists.trans {s t u : Store} (first : Persists s t) (second : Persists t u) : Persists s u := by
  intro id old found
  obtain ⟨middle, there, record, booked, processed⟩ := first id old found
  obtain ⟨row, last, record', booked', processed'⟩ := second id middle there
  refine ⟨row, last, record'.trans record, fun isBooked => ?_, fun was => processed' (processed was)⟩
  rw [booked' (by rw [booked isBooked]; exact isBooked), booked isBooked]

theorem persists_of_events {s u : Store} (same : u.events = s.events) : Persists s u := by
  intro id old found
  exact ⟨old, by rw [same, found], rfl, fun _ => rfl, fun was => was⟩

section
variable {policy : Policy} {tidy : Prop} {s t u : Store} {id : RowId} {old row : EventRow}
variable {answers : Answers} {opts : ReplayOptions}

theorem persists_of_step (step : RowStep s u id old row)
    (booked : old.status.isBooked = true → row.status = old.status)
    (processed : old.status ≠ .received → row.status ≠ .received) : Persists s u := by
  intro j r found
  by_cases same : j = id
  · subst same
    rw [step.before] at found
    obtain rfl := Option.some.inj found
    exact ⟨row, step.written.here, step.record, booked, processed⟩
  · exact ⟨r, by rw [step.written.others j same, found], rfl, fun _ => rfl, fun was => was⟩

/-- The invariant with what dependants rely on, across one transition. -/
structure Advances (policy : Policy) (tidy : Prop) (s u : Store) : Prop where
  consistent : Consistent policy tidy u
  persists : Persists s u
  settled : ∀ eventId, settled s eventId = true → settled u eventId = true

theorem advances_refl (c : Consistent policy tidy s) : Advances policy tidy s s :=
  ⟨c, persists_refl s, fun _ done => done⟩

theorem Advances.trans (first : Advances policy tidy s t) (second : Advances policy tidy t u) :
    Advances policy tidy s u :=
  ⟨second.consistent, first.persists.trans second.persists, fun e done => second.settled e (first.settled e done)⟩

theorem advances_of_moves (moves : Moves policy tidy s u id old row) (c : Consistent policy tidy s)
    (booked : old.status.isBooked = true → row.status = old.status)
    (processed : old.status ≠ .received → row.status ≠ .received) : Advances policy tidy s u :=
  ⟨moves.consistent c, persists_of_step moves.step booked processed, moves.settled_mono⟩

/-! One automatic engine call on a fresh event, with the waiting items that go with it. -/

/-- The caller's share of a call in auto mode: unless the event was booked or is retried, the stale
items are closed. -/
def settleTurn (adminId : Nat) (stale : List ItemId) (done : Store × ReplayOutcome) : Store :=
  if done.2.status = .booked then done.1
  else if !done.2.technical then done.1.resolveAll stale .reviewed adminId
  else done.1

theorem parking_awaits {status : EventStatus} {kind : ReviewKind}
    (parking : Parking policy s old opts status kind) : status.awaits = true ∧ kind.holding = true := by
  cases parking <;> exact ⟨rfl, rfl⟩

/-- What a call in auto mode may assume of the items of its event. -/
structure TurnReady (policy : Policy) (tidy : Prop) (s : Store) (id : RowId) (old : EventRow)
    (stale : List ItemId) : Prop where
  before : s.events[id]? = some old
  fresh : Fresh old
  owned : ∀ item ∈ stale, OpenItem s item id .waiting
  clears : policy.isCheckpoint old.channel = false → ∀ item kind, OpenItem s item id kind →
    kind.holding = true → item ∈ stale ∧ kind = .waiting
  tidyClears : tidy → ∀ item kind, OpenItem s item id kind → kind.holding = true → item ∈ stale

theorem closes_stale {stale : List ItemId} (turn : TurnReady policy tidy s id old stale) {state : ReviewState}
    (closing : state ≠ .opened) (adminId : Nat)
    (owner : ∀ item other kind, other ≠ id → OpenItem t item other kind → OpenItem s item other kind) :
    Closes t (t.resolveAll stale state adminId) id fun item => item ∈ stale := by
  refine closes_resolveAll t id stale state adminId closing fun item other kind member there => ?_
  by_contra different
  exact different ((owner item other kind different there).owner_unique (turn.owned item member))

theorem opened_owner {kind : ReviewKind} (opened : Opened s t id row kind) (item : ItemId) (other : RowId)
    (kind' : ReviewKind) (different : other ≠ id) (there : OpenItem t item other kind') :
    OpenItem s item other kind' := by
  rcases (opened.opens item other kind').mp there with was | ⟨-, same, -⟩
  · exact was
  · exact absurd same different

theorem autoTurn {stale : List ItemId} (c : Consistent policy tidy s)
    (turn : TurnReady policy tidy s id old stale) (adminId : Nat) (opts : ReplayOptions) (answers : Answers)
    (auto : opts.mode = .auto)
    (unforced : opts.bypassCheckpoint = false) (isDue : due old opts = true)
    (onBooked : opts.onBooked = fun t => t.resolveAll stale .applied adminId) :
    ∃ row, Moves policy tidy s (settleTurn adminId stale (process policy s id old opts answers)) id old row ∧
      (old.status ≠ .received → row.status ≠ .received) := by
  have cases : Processed policy s id old opts answers (process policy s id old opts answers) :=
    process_cases turn.before
  have keepsNew : s.items.length ∉ stale := fun member => (turn.owned _ member).lt_length.false
  generalize process policy s id old opts answers = result at cases
  cases cases with
  | kept t out row written status items idMap audit quiet =>
    have unbooked := turn.fresh.not_booked
    have technical : out.technical = true ∧ out.status ≠ .booked := by
      rcases quiet with ⟨technical, received | same⟩ | ⟨-, ⟨applying, -⟩ | idle⟩
      · exact ⟨technical, by simp [received]⟩
      · refine ⟨technical, fun booked => ?_⟩
        rw [← same, booked] at unbooked
        cases unbooked
      · rw [auto] at applying
        cases applying
      · rw [isDue] at idle
        cases idle
    refine ⟨row, ?_, fun was => status ▸ was⟩
    simp only [settleTurn, technical.1, technical.2, if_false, Bool.not_true, Bool.false_eq_true]
    exact moves_kept c turn.before written status items idMap audit
  | parked t out row kind opened _ status parking settledCall _ =>
    obtain ⟨awaits, holding⟩ := parking_awaits parking
    have unbooked : out.status ≠ .booked := by
      rintro same
      rw [same] at awaits
      cases awaits
    have closes := closes_stale turn (by decide : ReviewState.reviewed ≠ .opened) adminId (opened_owner opened)
    refine ⟨row, ?_, fun _ received => by rw [← status, received] at awaits; cases awaits⟩
    simp only [settleTurn, unbooked, settledCall, if_false, Bool.not_false, if_true]
    refine moves_opened c turn.before turn.fresh opened holding (status ▸ awaits) closes keepsNew
      turn.tidyClears ?_
    intro isHeld plain
    rw [status] at isHeld
    generalize out.status = now at parking isHeld
    cases parking with
    | refused _ => cases isHeld
    | waiting _ => exact .inr ⟨rfl, fun item kind' was holds => (turn.clears plain item kind' was holds).2⟩
    | heldCheckpoint _ checkpoint => rw [checkpoint] at plain; cases plain
    | possibleDuplicate _ ready => exact .inl ((blocking_eq_nil s old).mp ready)
  | skipped t out row opened _ status answer settledCall _ _ admitted =>
    have plain : policy.isCheckpoint old.channel = false := by
      by_contra checkpoint
      rw [admitted (by simpa using checkpoint)] at unforced
      cases unforced
    have closes := closes_stale turn (by decide : ReviewState.reviewed ≠ .opened) adminId (opened_owner opened)
    refine ⟨row, ?_, fun _ => by simp [status]⟩
    simp only [settleTurn, answer, settledCall, Bool.not_false, if_true, reduceCtorEq, if_false]
    exact moves_skipped c turn.before turn.fresh opened status closes
      fun item kind' was holds => (turn.clears plain item kind' was holds).1
  | booked t out row booking _ status answer settledCall _ admitted =>
    have plain : policy.isCheckpoint old.channel = false := by
      by_contra checkpoint
      rw [admitted (by simpa using checkpoint)] at unforced
      cases unforced
    have closes := closes_stale turn (by decide : ReviewState.applied ≠ .opened) adminId booking.owner
    rw [auto] at status answer
    refine ⟨row, ?_, fun _ => by simp [status, bookedStatus]⟩
    simp only [settleTurn, answer, bookedStatus, if_true, onBooked]
    refine moves_booked c turn.before turn.fresh.not_booked booking (by rw [status]; rfl) closes ?_
    intro item kind' was decisive
    have holds : kind'.holding = true := by
      by_contra unheld
      have certain : kind' = .certainDuplicate := by simpa [ReviewKind.decisive, unheld] using decisive
      subst certain
      exact c.duplicate id old turn.before turn.fresh.not_skipped item was
    exact (turn.clears plain item kind' was holds).1

/-! Merge rounds. -/

theorem settleTurn_nil (adminId : Nat) (done : Store × ReplayOutcome) : settleTurn adminId [] done = done.1 := by
  unfold settleTurn
  split_ifs <;> rfl

/-- An event that waits for its first processing has no open holding item. -/
theorem received_turn (c : Consistent policy tidy s) (found : s.events[id]? = some old)
    (received : old.status = .received) : TurnReady policy tidy s id old [] := by
  have none : ∀ item kind, OpenItem s item id kind → kind.holding = false :=
    c.quiet id old found (by rw [received]; rfl)
  refine ⟨found, .inl received, by simp, fun _ item kind was holds => ?_, fun _ item kind was holds => ?_⟩ <;>
    · rw [none item kind was] at holds
      cases holds

/-- One engine call of a merge round. -/
theorem merge_advances (c : Consistent policy tidy s) (found : s.events[id]? = some old) :
    Advances policy tidy s (process policy s id old { mode := .auto } answers).1 := by
  by_cases received : old.status = .received
  · obtain ⟨row, moves, processed⟩ := autoTurn c (received_turn c found received) 0 { mode := .auto } answers rfl rfl
      (by simp [due, received]) rfl
    rw [settleTurn_nil] at moves
    exact advances_of_moves moves c (fun booked => by rw [received] at booked; cases booked) processed
  · have idle : due old { mode := .auto } = false := by simp [due, received]
    simp only [process, idle, Bool.not_false, if_true]
    exact advances_refl c

/-! The release of dependants. -/

/-- Every held event that a released event leads to, and that was not tried, has waiting items only. -/
structure Releasing (policy : Policy) (tidy : Prop) (s : Store) (parent : EventId) (r : Release) : Prop where
  advances : Advances policy tidy s r.store
  untried : ∀ id, id ∉ r.tried → r.store.events[id]? = s.events[id]?
  waiting : ∀ (id : RowId) (row : EventRow), r.store.events[id]? = some row → row.status = .held → id ∉ r.tried →
    policy.isCheckpoint row.channel = false → (∃ d ∈ row.dependsOn, d ∈ r.released) →
    ∀ item kind, OpenItem r.store item id kind → kind.holding = true → kind = .waiting
  released : ∀ eventId ∈ r.released, eventId = parent ∨
    ∃ (id : RowId) (row : EventRow), Downstream s parent id row ∧ row.eventId = eventId
  length : r.store.events.length = s.events.length
  distinct : r.tried.Nodup
  bounded : ∀ id ∈ r.tried, id < s.events.length

/-- A row the current round still has to try. -/
def Due (r : Release) (dep : RowId) : Prop :=
  dep ∉ r.tried ∧ ∃ row : EventRow, r.store.events[dep]? = some row ∧ row.status = .held ∧
    ∃ d ∈ row.dependsOn, d ∈ r.released

theorem mem_nextDependants (r : Release) (dep : RowId) : dep ∈ nextDependants r ↔ Due r dep := by
  simp only [nextDependants, listHeldDependingOn, List.mem_filter, List.mem_insertionSort, List.mem_range,
    Option.any_eq_true, heldDependingOn, Bool.and_eq_true, decide_eq_true_eq, List.any_eq_true,
    List.contains_iff_mem, Bool.not_eq_true', Due]
  constructor
  · rintro ⟨⟨-, row, found, held, d, names, isReleased⟩, untried⟩
    exact ⟨by simpa using untried, row, found, held, d, names, isReleased⟩
  · rintro ⟨untried, row, found, held, d, names, isReleased⟩
    exact ⟨⟨(List.getElem?_eq_some_iff.mp found).1, row, found, held, d, names, isReleased⟩, by simpa using untried⟩

theorem nextDependants_nodup (r : Release) : (nextDependants r).Nodup := by
  apply List.Nodup.filter
  exact (List.perm_insertionSort _ _).nodup_iff.mpr (List.nodup_range.filter _)

theorem openOfKind_waiting {item : ItemId} : item ∈ s.openOfKind id (· = .waiting) ↔ OpenItem s item id .waiting := by
  rw [mem_openOfKind]
  constructor
  · rintro ⟨kind, opened, isWaiting⟩
    rw [decide_eq_true_eq] at isWaiting
    exact isWaiting ▸ opened
  · exact fun opened => ⟨.waiting, opened, by simp⟩

/-- The options of a dependant's turn. -/
def releaseOptions (adminId : Nat) (stale : List ItemId) : ReplayOptions where
  mode := .auto
  release := true
  onBooked := fun t => t.resolveAll stale .applied adminId

theorem releaseOne_eq (policy : Policy) (adminId : Nat) (answers : RowId → Answers) {r : Release} {dep : RowId}
    (found : r.store.events[dep]? = some old) :
    (releaseOne policy adminId answers r dep).store = settleTurn adminId (r.store.openOfKind dep (· = .waiting))
        (process policy r.store dep old (releaseOptions adminId (r.store.openOfKind dep (· = .waiting))) (answers dep)) ∧
      (releaseOne policy adminId answers r dep).tried = r.tried ++ [dep] ∧
      ∃ more, (∀ eventId ∈ more, eventId = old.eventId) ∧
        (releaseOne policy adminId answers r dep).released = r.released ++ more := by
  unfold releaseOne settleTurn releaseOptions
  rw [found]
  dsimp only
  split_ifs with booked settledCall
  · exact ⟨rfl, rfl, [old.eventId], by simp, rfl⟩
  · exact ⟨rfl, rfl, [], by simp, by simp⟩
  · exact ⟨rfl, rfl, [], by simp, by simp⟩

/-- One dependant's turn. Its siblings of the round stay due. -/
theorem releaseOne_releasing {parent : EventId} (adminId : Nat) (answers : RowId → Answers) {r : Release} {dep : RowId}
    (clear : tidy → ∀ (id : RowId) (row : EventRow), Downstream s parent id row →
      policy.isCheckpoint row.channel = false)
    (releasing : Releasing policy tidy s parent r) (isDue : Due r dep) :
    Releasing policy tidy s parent (releaseOne policy adminId answers r dep) ∧
      ∀ other, other ≠ dep → Due r other → Due (releaseOne policy adminId answers r dep) other := by
  obtain ⟨untried, old, found, held, d, names, isReleased⟩ := isDue
  have c := releasing.advances.consistent
  have origin : s.events[dep]? = some old := (releasing.untried dep untried).symm.trans found
  have below : Downstream s parent dep old := by
    rcases releasing.released d isReleased with rfl | ⟨middle, between, above, rfl⟩
    · exact .direct dep old origin held names
    · exact .through dep middle old between above origin held names
  obtain ⟨store, tried, more, onlyOld, released⟩ :=
    releaseOne_eq policy adminId answers found
  set stale := r.store.openOfKind dep (· = .waiting)
  have clears : policy.isCheckpoint old.channel = false → ∀ item kind, OpenItem r.store item dep kind →
      kind.holding = true → item ∈ stale ∧ kind = .waiting := by
    intro plain item kind opened holding
    have isWaiting := releasing.waiting dep old found held untried plain ⟨d, names, isReleased⟩ item kind opened holding
    exact ⟨openOfKind_waiting.mpr (isWaiting ▸ opened), isWaiting⟩
  have turn : TurnReady policy tidy r.store dep old stale :=
    ⟨found, .inr (by rw [held]; rfl), fun item member => openOfKind_waiting.mp member, clears,
      fun strict item kind opened holding => (clears (clear strict dep old below) item kind opened holding).1⟩
  obtain ⟨row, moves, processed⟩ := autoTurn c turn adminId (releaseOptions adminId stale) (answers dep) rfl rfl
    (by simp [due, releaseOptions, held]) rfl
  rw [← store] at moves
  set after := releaseOne policy adminId answers r dep
  have unsettled : settled r.store old.eventId = false :=
    not_settled c found (by rw [held]; rfl) (by simp [held]) (by simp [held])
  have advances := advances_of_moves moves c (fun booked => by rw [held] at booked; cases booked) processed
  have elsewhere : ∀ j, j ≠ dep → after.store.events[j]? = r.store.events[j]? := moves.step.written.others
  have within : dep < s.events.length := (List.getElem?_eq_some_iff.mp origin).1
  refine ⟨⟨releasing.advances.trans advances, ?_, ?_, ?_, moves.step.written.length.trans releasing.length, ?_, ?_⟩, ?_⟩
  · intro j absent
    rw [tried, List.mem_append, List.mem_singleton, not_or] at absent
    rw [elsewhere j absent.2, releasing.untried j absent.1]
  · intro j other there isHeld absent plain ⟨e, needs, isIn⟩ item kind opened holding
    rw [tried, List.mem_append, List.mem_singleton, not_or] at absent
    rw [elsewhere j absent.2] at there
    have was : OpenItem r.store item j kind := (moves.step.elsewhere item j kind absent.2
      (ReviewKind.watched_of_decisive (ReviewKind.decisive_of_holding holding))).mp opened
    rw [released, List.mem_append] at isIn
    rcases isIn with early | late
    · exact releasing.waiting j other there isHeld absent.1 plain ⟨e, needs, early⟩ item kind was holding
    · -- a parked dependant would have had every dependency settled, `old` among them
      by_contra unlike
      have ready := c.parked j other there isHeld plain ⟨item, kind, was, holding, unlike⟩ e needs
      rw [onlyOld e late, unsettled] at ready
      cases ready
  · intro e isIn
    rw [released, List.mem_append] at isIn
    rcases isIn with early | late
    · exact releasing.released e early
    · exact .inr ⟨dep, old, below, (onlyOld e late).symm⟩
  · rw [tried]
    exact List.nodup_append.mpr ⟨releasing.distinct, List.nodup_singleton dep, fun a early b last => by
      rw [List.mem_singleton.mp last]
      rintro rfl
      exact untried early⟩
  · intro j member
    rw [tried, List.mem_append, List.mem_singleton] at member
    rcases member with early | rfl
    · exact releasing.bounded j early
    · exact within
  · rintro other different ⟨absent, row', there, isHeld, e, needs, isIn⟩
    refine ⟨?_, row', by rw [elsewhere other different, there], isHeld, e, needs, ?_⟩
    · rw [tried, List.mem_append, List.mem_singleton, not_or]
      exact ⟨absent, different⟩
    · rw [released]
      exact List.mem_append_left more isIn

/-- One round tries the rows that were due when it began. -/
theorem round_releasing {parent : EventId} (adminId : Nat) (answers : RowId → Answers)
    (clear : tidy → ∀ (id : RowId) (row : EventRow), Downstream s parent id row →
      policy.isCheckpoint row.channel = false) (deps : List RowId) (r : Release)
    (releasing : Releasing policy tidy s parent r) (distinct : deps.Nodup) (allDue : ∀ dep ∈ deps, Due r dep) :
    Releasing policy tidy s parent (deps.foldl (releaseOne policy adminId answers) r) := by
  induction deps generalizing r with
  | nil => exact releasing
  | cons dep rest ih =>
    obtain ⟨absent, distinct⟩ := List.nodup_cons.mp distinct
    obtain ⟨after, stays⟩ := releaseOne_releasing adminId answers clear releasing
      (allDue dep List.mem_cons_self)
    refine ih _ after distinct fun other member => stays other ?_ (allDue other (List.mem_cons_of_mem _ member))
    rintro rfl
    exact absent member

theorem releaseLoop_releasing {parent : EventId} (adminId : Nat) (answers : RowId → Answers)
    (clear : tidy → ∀ (id : RowId) (row : EventRow), Downstream s parent id row →
      policy.isCheckpoint row.channel = false) (fuel : Nat) (r : Release)
    (releasing : Releasing policy tidy s parent r) :
    Releasing policy tidy s parent (releaseLoop policy adminId answers fuel r) := by
  induction fuel generalizing r with
  | zero => exact releasing
  | succ fuel ih =>
    unfold releaseLoop
    split_ifs with finished
    · exact releasing
    · exact ih _ (round_releasing adminId answers clear (nextDependants r) r releasing (nextDependants_nodup r)
        fun dep member => (mem_nextDependants r dep).mp member)

theorem round_tried (adminId : Nat) (answers : RowId → Answers) (deps : List RowId) (r : Release) :
    (deps.foldl (releaseOne policy adminId answers) r).tried = r.tried ++ deps := by
  induction deps generalizing r with
  | nil => simp
  | cons dep rest ih =>
    have one : (releaseOne policy adminId answers r dep).tried = r.tried ++ [dep] := by
      unfold releaseOne
      split
      · rfl
      · dsimp only
        split_ifs <;> rfl
    rw [List.foldl_cons, ih, one, List.append_assoc, List.singleton_append]

/-- The fuel of a release is never used up: every round tries a row for the first time. -/
theorem releaseLoop_finished {parent : EventId} (adminId : Nat) (answers : RowId → Answers)
    (clear : tidy → ∀ (id : RowId) (row : EventRow), Downstream s parent id row →
      policy.isCheckpoint row.channel = false) (fuel : Nat) (r : Release)
    (releasing : Releasing policy tidy s parent r) (enough : s.events.length < r.tried.length + fuel) :
    nextDependants (releaseLoop policy adminId answers fuel r) = [] := by
  induction fuel generalizing r with
  | zero =>
    have pigeonhole : r.tried.length ≤ (List.range s.events.length).length :=
      (List.subperm_of_subset releasing.distinct fun id member =>
        List.mem_range.mpr (releasing.bounded id member)).length_le
    rw [List.length_range] at pigeonhole
    omega
  | succ fuel ih =>
    unfold releaseLoop
    split_ifs with finished
    · exact List.isEmpty_iff.mp finished
    · have some : 0 < (nextDependants r).length :=
        List.length_pos_iff.mpr fun none => finished (List.isEmpty_iff.mpr none)
      apply ih _ (round_releasing adminId answers clear (nextDependants r) r releasing (nextDependants_nodup r)
        fun dep member => (mem_nextDependants r dep).mp member)
      rw [round_tried, List.length_append]
      omega

end

end Liratek.Offline.ReleaseRounds
