import Liratek.Offline.ReleaseRounds

/-! The admin actions keep the invariant, as long as no Apply is answered with a certain duplicate. That
answer leaves the item open on a skipped event, and the item is what a later Apply books again from. -/

namespace Liratek.Offline.Actions
open Tables Channels Replay Outcomes Consistency Transitions Review ReleaseRounds

section
variable {policy : Policy} {tidy : Prop} {s t u : Store} {id : RowId} {old row : EventRow} {item : ItemId}
variable {kind : ReviewKind}

/-- An event with an open decisive item is not settled. -/
structure Undecided (s : Store) (id : RowId) (old : EventRow) : Prop where
  unbooked : old.status.isBooked = false
  undismissed : old.status ≠ .dismissed
  skipped : old.status = .skipped → ∃ item, OpenItem s item id .certainDuplicate

theorem open_holding_awaits (c : Consistent policy tidy s) (found : s.events[id]? = some old)
    (opened : OpenItem s item id kind) (holding : kind.holding = true) : old.status.awaits = true := by
  by_contra calm
  rw [c.quiet id old found (by simpa using calm) item kind opened] at holding
  cases holding

theorem open_duplicate_skipped (c : Consistent policy tidy s) (found : s.events[id]? = some old)
    (opened : OpenItem s item id .certainDuplicate) : old.status = .skipped := by
  by_contra unskipped
  exact c.duplicate id old found unskipped item opened

theorem undecided_of_awaits (awaits : old.status.awaits = true) : Undecided s id old := by
  refine ⟨?_, ?_, ?_⟩
  · cases status : old.status <;> simp_all [EventStatus.awaits, EventStatus.isBooked]
  · rintro dismissed
    rw [dismissed] at awaits
    cases awaits
  · intro skipped
    rw [skipped] at awaits
    cases awaits

theorem undecided_of_open (c : Consistent policy tidy s) (found : s.events[id]? = some old)
    (opened : OpenItem s item id kind) (decisive : kind.decisive = true) : Undecided s id old := by
  cases holding : kind.holding with
  | true => exact undecided_of_awaits (open_holding_awaits c found opened holding)
  | false =>
    have certain : kind = .certainDuplicate := by simpa [ReviewKind.decisive, holding] using decisive
    subst certain
    have skipped := open_duplicate_skipped c found opened
    exact ⟨by rw [skipped]; rfl, by simp [skipped], fun _ => ⟨item, opened⟩⟩

theorem Undecided.unsettled (undecided : Undecided s id old) (c : Consistent policy tidy s)
    (found : s.events[id]? = some old) : settled s old.eventId = false :=
  not_settled c found undecided.unbooked undecided.undismissed undecided.skipped

theorem downstream_before (moves : Moves policy tidy s u id old row) (unheld : row.status ≠ .held) {parent : EventId}
    {j : RowId} {r : EventRow} (below : Downstream u parent j r) : Downstream s parent j r := by
  have was : ∀ (k : RowId) (q : EventRow), u.events[k]? = some q → q.status = .held → s.events[k]? = some q := by
    intro k q found held
    rcases moves.step.rows k q found with ⟨rfl, rfl⟩ | ⟨-, there⟩
    · exact absurd held unheld
    · exact there
  induction below with
  | direct k q found held names => exact .direct k q (was k q found held) held names
  | through k m q b above found held names ih => exact .through k m q b ih (was k q found held) held names

/-- The release that follows a decision about an undecided event. -/
theorem release_advances (c : Consistent policy tidy s) (moves : Moves policy tidy s u id old row)
    (undecided : Undecided s id old) (unheld : row.status ≠ .held) (processed : row.status ≠ .received)
    (clear : tidy → ClearBelow policy s old.eventId) (adminId : Nat) (answers : RowId → Answers) :
    Advances policy tidy s (releaseDependants policy u old adminId answers) := by
  have unsettled := undecided.unsettled c moves.step.before
  have advances := advances_of_moves moves c
    (fun booked => by rw [undecided.unbooked] at booked; cases booked) fun _ => processed
  have start : Releasing policy tidy u old.eventId { store := u, released := [old.eventId] } := by
    refine ⟨advances_refl advances.consistent, fun _ _ => rfl, ?_, fun e member => .inl (by simpa using member), rfl,
      List.nodup_nil, by simp⟩
    intro j r there held _ plain ⟨d, needs, isParent⟩ item' kind' opened holding
    rcases moves.step.rows j r there with ⟨rfl, rfl⟩ | ⟨different, was⟩
    · exact absurd held unheld
    · by_contra unlike
      have before := (moves.step.elsewhere item' j kind' different
        (ReviewKind.watched_of_decisive (ReviewKind.decisive_of_holding holding))).mp opened
      have ready := c.parked j r was held plain ⟨item', kind', before, holding, unlike⟩ d needs
      rw [List.mem_singleton.mp isParent, unsettled] at ready
      cases ready
  have released := releaseLoop_releasing adminId answers
    (fun strict j r below => clear strict j r (downstream_before moves unheld below)) (u.events.length + 1) _ start
  exact advances.trans released.advances

theorem closeOpenItems_closes (t : Store) (id : RowId) (state : ReviewState) (adminId : Nat)
    (closing : state ≠ .opened) :
    Closes t (closeOpenItems t id state adminId) id fun item => item ∈ t.openOfKind id ReviewKind.decisive := by
  refine closes_resolveAll t id _ state adminId closing fun item other kind member there => ?_
  obtain ⟨kind', opened, -⟩ := mem_openOfKind.mp member
  exact there.owner_unique opened

/-! Apply and Book anyway. -/

theorem parking_onApply {status : EventStatus} {opts : ReplayOptions} (parking : Parking policy s old opts status kind)
    (applying : opts.mode = .apply) : status = .held ∧ kind = .possibleDuplicate ∧ opts.bypassDuplicate = false ∧
      (dependencyState s old).blocking = [] := by
  cases parking with
  | refused auto => rw [applying] at auto; cases auto
  | waiting auto => rw [applying] at auto; cases auto
  | heldCheckpoint auto _ => rw [applying] at auto; cases auto
  | possibleDuplicate asked ready => exact ⟨rfl, rfl, asked, ready⟩

/-- The engine call of an Apply or a Book anyway with what `afterBooking` makes of it. -/
theorem booking_advances (c : Consistent policy tidy s) (found : s.events[id]? = some old)
    (opened : OpenItem s item id kind) (decisive : kind.decisive = true) (adminId : Nat) (checkpoint duplicate : Bool)
    (answers : RowId → Answers)
    (uncertain : ¬ HookCertain policy s old (bookingOptions id adminId checkpoint duplicate) (answers id))
    (forced : kind = .certainDuplicate → duplicate = true) (clear : tidy → ClearBelow policy s old.eventId) :
    Advances policy tidy s (afterBooking policy
      (process policy s id old (bookingOptions id adminId checkpoint duplicate) (answers id)).1 item old
      (process policy s id old (bookingOptions id adminId checkpoint duplicate) (answers id)).2 adminId answers).1 := by
  have undecided := undecided_of_open c found opened decisive
  set opts := bookingOptions id adminId checkpoint duplicate
  have cases : Processed policy s id old opts (answers id) (process policy s id old opts (answers id)) :=
    process_cases found
  have owner : ∀ other kind', OpenItem s item other kind' → other = id :=
    fun other kind' there => there.owner_unique opened
  generalize process policy s id old opts (answers id) = result at cases
  cases cases with
  | kept t out row written status items idMap audit quiet =>
    have advances := advances_of_moves (moves_kept c found written status items idMap audit) c (fun _ => status)
      fun was => status ▸ was
    unfold afterBooking
    rcases quiet with ⟨technical, -⟩ | ⟨same, ⟨-, again⟩ | idle⟩
    · simpa only [technical, if_true] using advances
    · have unapplied : out.status ≠ .applied := by
        intro applied
        have unbooked := undecided.unbooked
        rw [← same, applied] at unbooked
        cases unbooked
      split_ifs with technical held
      · exact advances
      · simp [again] at held
      · exact advances
    · cases idle
  | parked t out row newKind opened' _ status parking settledCall fresh =>
    obtain ⟨isHeld, rfl, asked, ready⟩ := parking_onApply parking rfl
    have notForced : kind ≠ .certainDuplicate := by
      intro certain
      rw [show duplicate = false from asked] at forced
      cases forced certain
    have holding : kind.holding = true := by
      cases holds : kind.holding with
      | true => rfl
      | false => simp [ReviewKind.decisive, holds, notForced] at decisive
    have awaits := open_holding_awaits c found opened holding
    have closes : Closes t (t.resolve item .reviewed adminId) id fun other => other = item := by
      refine closes_resolve t id item .reviewed adminId (by decide) fun other kind' there => ?_
      by_contra different
      exact different (owner other kind' (opened_owner opened' item other kind' different there))
    have moves := moves_opened c found (.inr awaits) opened' rfl (by rw [status, isHeld]; rfl) closes
      (fun here => opened.lt_length.ne here.symm)
      (fun strict item' kind' was holds => c.single strict id item' item kind' kind was opened holds holding)
      (fun _ _ => .inl ((blocking_eq_nil s old).mp ready))
    simp only [afterBooking, settledCall, isHeld, fresh, Bool.not_false, Bool.and_true, decide_true, if_true,
      Bool.false_eq_true, if_false, reduceCtorEq]
    exact advances_of_moves moves c (fun booked => by rw [undecided.unbooked] at booked; cases booked)
      fun _ => by simp [status, isHeld]
  | skipped t out row opened' _ status answer settledCall certain _ _ => exact absurd certain uncertain
  | booked t out row booking _ status answer settledCall _ _ =>
    have closes := closeOpenItems_closes t id .applied adminId (by decide)
    have moves := moves_booked c found undecided.unbooked booking (by rw [status]; rfl) closes
      fun item' kind' was decides => mem_openOfKind.mpr
        ⟨kind', (booking.opens item' id kind' (ReviewKind.watched_of_decisive decides)).mpr was, decides⟩
    have applied : row.status = .applied := status
    simp only [afterBooking, settledCall, show out.status = .applied from answer, if_true, Bool.false_eq_true, if_false]
    exact release_advances c moves undecided (by simp [applied]) (by simp [applied]) clear adminId answers

theorem load_event {found : ReviewRow} (loaded : load s item = some (found, some (id, old)))
    (isOpen : found.state = .opened) : s.events[id]? = some old ∧ OpenItem s item id found.kind := by
  simp only [load, Option.map_eq_some_iff, Prod.mk.injEq, Option.bind_eq_some_iff] at loaded
  obtain ⟨row, there, rfl, owner, about, event, foundEvent, rfl, rfl⟩ := loaded
  exact ⟨foundEvent, row, there, about, isOpen, rfl⟩

theorem apply_advances (c : Consistent policy tidy s) (item : ItemId) (adminId : Nat) (answers : RowId → Answers)
    (uncertain : ∀ id old found, Applicable s item id old found →
      ¬ HookCertain policy s old (applyOptions id adminId found) (answers id))
    (clear : tidy → ∀ id old found, Applicable s item id old found → ClearBelow policy s old.eventId) :
    Advances policy tidy s (apply policy s item adminId answers).1 := by
  have still := advances_refl c
  unfold apply
  split
  · exact still
  · rename_i found loaded isLoaded
    split
    · exact still
    · rename_i closed
      split
      · exact still
      · rename_i id old
        split_ifs with note stale blocked
        · exact still
        · exact still
        · exact still
        · obtain ⟨there, opened⟩ := load_event isLoaded (by simpa using closed)
          have holding : found.kind.holding = true := by simpa using note
          have applicable : Applicable s item id old found :=
            ⟨⟨isLoaded, by simpa using closed⟩, holding, by simpa using stale, by simpa using blocked⟩
          refine booking_advances c there opened (ReviewKind.decisive_of_holding holding) adminId _ _ answers
            (uncertain id old found applicable) ?_ fun strict => clear strict id old found applicable
          intro certain
          rw [certain] at holding
          cases holding

theorem bookAnyway_advances (c : Consistent policy tidy s) (item : ItemId) (adminId : Nat) (answers : RowId → Answers)
    (clear : tidy → ∀ id old found, OpenOn s item id old found → found.kind = .certainDuplicate →
      ClearBelow policy s old.eventId) :
    Advances policy tidy s (bookAnyway policy s item adminId answers).1 := by
  have still := advances_refl c
  unfold bookAnyway
  split
  · exact still
  · rename_i found loaded isLoaded
    split
    · rename_i id old certain
      split_ifs with closed
      · exact still
      · obtain ⟨there, opened⟩ := load_event isLoaded (by simpa using closed)
        rw [certain] at opened
        exact booking_advances c there opened rfl adminId false true answers (fun hook => by cases hook.asked)
          (fun _ => rfl) fun strict => clear strict id old found ⟨isLoaded, by simpa using closed⟩ certain
    · exact still

/-! Dismiss and Mark reviewed. -/

theorem linkToMatch_mapsOnly (s : Store) (found : ReviewRow) (event : EventRow) :
    MapsOnly s (linkToMatch s found event).1 event.eventId := by
  unfold linkToMatch
  split
  · exact mapsOnly_refl s _
  · split_ifs
    · exact mapsOnly_refl s _
    · exact mapMainRow_mapsOnly _ _ _ _ _

/-- A decision that books nothing: the event ends dismissed, or skipped for good. -/
theorem moves_decided {gone : ItemId → Prop} {mapped : Store} (c : Consistent policy tidy s)
    (found : s.events[id]? = some old) (undecided : Undecided s id old) (maps : MapsOnly s mapped old.eventId)
    (written : RowWritten mapped t id row) (items : t.items = mapped.items) (idMap : t.idMap = mapped.idMap)
    (audit : t.audit = mapped.audit) (closes : Closes t u id gone)
    (clears : ∀ item' kind', OpenItem s item' id kind' → kind'.decisive = true → gone item')
    (decided : row.status = .dismissed ∨ row.status = .skipped) : Moves policy tidy s u id old row := by
  obtain ⟨added, rfl, named⟩ := maps
  have opens : ∀ item' other kind', OpenItem u item' other kind' ↔ OpenItem s item' other kind' ∧ ¬ gone item' := by
    intro item' other kind'
    rw [closes.opens, openItem_congr items]
    rfl
  have noneDecisive : ∀ item' kind', kind'.decisive = true → ¬ OpenItem u item' id kind' := by
    intro item' kind' decides there
    obtain ⟨was, stays⟩ := (opens item' id kind').mp there
    exact stays (clears item' kind' was decides)
  have noneHolding : ∀ item' kind', OpenItem u item' id kind' → kind'.holding = false := by
    intro item' kind' there
    by_contra holds
    exact noneDecisive item' kind' (ReviewKind.decisive_of_holding (by simpa using holds)) there
  have counts : u.audit = s.audit := by rw [closes.audit, audit]
  have unbooked : row.status.isBooked = false := by
    rcases decided with same | same <;> · rw [same]; rfl
  refine ⟨⟨found, (written.congr closes.events closes.devices).base rfl rfl, ?_, ?_, ⟨added, by rw [closes.idMap, idMap], named⟩⟩, ?_⟩
  · intro item' other kind' different _
    rw [opens]
    refine and_iff_left_of_imp fun was closed => different (closes.owned item' other kind' closed ?_)
    exact (openItem_congr items).mpr was
  · exact fun item' other kind' there => .inl ((opens item' other kind').mp there).1
  refine ⟨?quiet, ?isHeld, ?single, ?duplicate, ?oneDuplicate, ?noMismatch, ?once, ?audit, ?linked, ?parked, ?monotone⟩
  case quiet => exact fun _ => noneHolding
  case isHeld =>
    intro awaits
    rcases decided with same | same <;> · rw [same] at awaits; cases awaits
  case single =>
    intro _ item' item'' kind' kind'' one two holds
    rw [noneHolding item' kind' one] at holds
    cases holds
  case duplicate => exact fun _ item' => noneDecisive item' _ rfl
  case oneDuplicate => exact fun item' item'' one => absurd one (noneDecisive item' _ rfl)
  case noMismatch => exact fun item' there => c.noMismatch item' id ((opens item' id _).mp there).1
  case once =>
    rw [counts, unbooked, c.once id old found, undecided.unbooked]
  case audit =>
    intro eventId _
    rw [counts]
  case linked =>
    exact fun _ => .inr (decided.imp_right fun same => ⟨same, fun item' => noneDecisive item' _ rfl⟩)
  case parked =>
    intro isHeld
    rcases decided with same | same <;> · rw [isHeld] at same; cases same
  case monotone =>
    intro done
    have empty := (listForEvent_isEmpty s old.eventId).mpr
      (unmapped c found undecided.unbooked undecided.undismissed undecided.skipped)
    simp [settledRow, undecided.unbooked, empty] at done

/-- Steps that leave rows, maps, audit and every decisive item alone. -/
theorem advances_of_items (c : Consistent policy tidy s) (events : u.events = s.events) (idMap : u.idMap = s.idMap)
    (audit : u.audit = s.audit)
    (opens : ∀ item id kind, kind.decisive = true → (OpenItem u item id kind ↔ OpenItem s item id kind))
    (fewer : ∀ item id kind, OpenItem u item id kind → OpenItem s item id kind) : Advances policy tidy s u := by
  have sameSettled : ∀ eventId, settled u eventId = settled s eventId := by
    intro eventId
    unfold settled settledRow Store.listForEvent
    rw [events, idMap]
  have holdings : ∀ item id kind, kind.holding = true → (OpenItem u item id kind ↔ OpenItem s item id kind) :=
    fun item id kind holding => opens item id kind (ReviewKind.decisive_of_holding holding)
  refine ⟨?_, persists_of_events events, fun eventId done => by rw [sameSettled, done]⟩
  refine ⟨?distinct, ?owned, ?quiet, ?isHeld, ?single, ?duplicate, ?oneDuplicate, ?noMismatch, ?once, ?audited, ?linked,
    ?parked⟩
  case distinct => rw [events]; exact c.distinct
  case owned => rw [events]; exact fun item id kind opened => c.owned item id kind (fewer item id kind opened)
  case quiet =>
    rw [events]
    exact fun id row found calm item kind opened => c.quiet id row found calm item kind (fewer item id kind opened)
  case isHeld =>
    rw [events]
    intro id row found awaits
    obtain ⟨item, kind, opened, holding⟩ := c.held id row found awaits
    exact ⟨item, kind, (holdings item id kind holding).mpr opened, holding⟩
  case single =>
    exact fun strict id item item' kind kind' one two =>
      c.single strict id item item' kind kind' (fewer item id kind one) (fewer item' id kind' two)
  case duplicate =>
    rw [events]
    exact fun id row found unskipped item opened => c.duplicate id row found unskipped item (fewer item id _ opened)
  case oneDuplicate =>
    exact fun id item item' one two => c.oneDuplicate id item item' (fewer item id _ one) (fewer item' id _ two)
  case noMismatch => exact fun item id opened => c.noMismatch item id (fewer item id _ opened)
  case once => rw [events, audit]; exact c.once
  case audited => rw [events, audit]; exact c.audited
  case linked =>
    rw [events, idMap]
    intro m member
    obtain ⟨id, row, found, named, status⟩ := c.linked m member
    exact ⟨id, row, found, named, status.imp_right (Or.imp_right fun skipped =>
      ⟨skipped.1, fun item opened => skipped.2 item (fewer item id _ opened)⟩)⟩
  case parked =>
    rw [events]
    rintro id row found held plain ⟨item, kind, opened, holding, unlike⟩ d needs
    rw [sameSettled]
    exact c.parked id row found held plain ⟨item, kind, fewer item id kind opened, holding, unlike⟩ d needs

/-- Closing a note, or an item about no event. -/
theorem resolve_advances (c : Consistent policy tidy s) (item : ItemId) {state : ReviewState}
    (closing : state ≠ .opened) (adminId : Nat)
    (note : ∀ id kind, OpenItem s item id kind → kind.decisive = false) :
    Advances policy tidy s (s.resolve item state adminId) := by
  refine advances_of_items c rfl rfl rfl (fun other id kind decisive => ?_) fun other id kind opened =>
    ((openItem_resolve closing adminId).mp opened).1
  rw [openItem_resolve closing]
  refine and_iff_left_of_imp fun opened same => ?_
  subst same
  rw [note id kind opened] at decisive
  cases decisive

theorem setError_advances (c : Consistent policy tidy s) (dep : RowId) (error : String) :
    Advances policy tidy s (s.setError dep error) := by
  cases found : s.events[dep]? with
  | none =>
    have same : (s.setError dep error).events = s.events := by
      apply List.ext_getElem?
      intro j
      rw [Store.setError, events_updateEvent]
      split_ifs with here
      · rw [here, found, Option.map_none]
      · rfl
    exact advances_of_items c same rfl rfl (fun _ _ _ _ => Iff.rfl) fun _ _ _ opened => opened
  | some event =>
    have written := rowWritten_updateEvent s dep event (fun row => { row with error := some error }) found rfl
    exact advances_of_moves (moves_kept c found written rfl rfl rfl rfl) c (fun _ => rfl) fun was => was

theorem markDependantsDismissed_advances (c : Consistent policy tidy s) (event : EventRow) :
    Advances policy tidy s (markDependantsDismissed s event) := by
  unfold markDependantsDismissed
  generalize listHeldDependingOn s [event.eventId] = deps
  induction deps generalizing s with
  | nil => exact advances_refl c
  | cons dep rest ih =>
    have first := setError_advances c dep dismissedParent
    exact first.trans (ih first.consistent)

theorem dismissEvent_moves (c : Consistent policy tidy s) (found : s.events[id]? = some old)
    (undecided : Undecided s id old) (item : ReviewRow) (adminId : Nat) (note : Option String) :
    ∃ row, row.status = .dismissed ∧ Moves policy tidy s (dismissEvent s item id old adminId note).1 id old row := by
  set linked := dismissLink s item old with isLinked
  have maps : MapsOnly s linked.1 old.eventId := by
    rw [isLinked, dismissLink]
    split_ifs
    · exact linkToMatch_mapsOnly s item old
    · exact mapsOnly_refl s _
  have sameEvents : linked.1.events = s.events := by
    obtain ⟨added, same, -⟩ := maps
    rw [same]
  have there : linked.1.events[id]? = some old := by rw [sameEvents, found]
  have first := rowWritten_updateEvent linked.1 id old
    (fun row => { row with status := .dismissed, resolvedBy := some adminId }) there rfl
  have close : ∀ t row, RowWritten linked.1 t id row → t.items = linked.1.items → t.idMap = linked.1.idMap →
      t.audit = linked.1.audit → row.status = .dismissed →
      Moves policy tidy s (closeOpenItems t id .dismissed adminId) id old row := by
    intro t row written items idMap audit status
    refine moves_decided c found undecided maps written items idMap audit
      (closeOpenItems_closes t id .dismissed adminId (by decide)) ?_ (.inl status)
    intro item' kind' was decides
    have there' : OpenItem t item' id kind' := by
      obtain ⟨added, same, -⟩ := maps
      rw [openItem_congr items, same]
      exact was
    exact mem_openOfKind.mpr ⟨kind', there', decides⟩
  unfold dismissEvent
  rw [← isLinked]
  cases note with
  | none => exact ⟨_, rfl, close _ _ first rfl rfl rfl rfl⟩
  | some text =>
    dsimp only
    split_ifs
    · exact ⟨_, rfl, close _ _ first rfl rfl rfl rfl⟩
    · have second := rowWritten_updateEvent _ id _
        (fun row => { row with error := some ("Dismissed: " ++ text) }) first.here rfl
      exact ⟨_, rfl, close _ _ (first.trans second) rfl rfl rfl rfl⟩

theorem dismiss_advances (c : Consistent policy tidy s) (item : ItemId) (adminId : Nat) (note : Option String)
    (answers : RowId → Answers)
    (clear : tidy → ∀ id old found, OpenOn s item id old found → found.kind = .possibleDuplicate →
      ClearBelow policy s old.eventId) :
    Advances policy tidy s (dismiss policy s item adminId note answers).1 := by
  have still := advances_refl c
  unfold dismiss
  split
  · exact still
  · rename_i found loaded isLoaded
    split
    · exact still
    · rename_i closed
      have isOpen : found.state = .opened := by simpa using closed
      split
      · exact still
      · rename_i kinds
        dsimp only
        split
        · refine resolve_advances c item (by decide) adminId fun id kind opened => ?_
          have inside := c.owned item id kind opened
          obtain ⟨row, there, about, -, -⟩ := opened
          simp only [load, there, Option.map_some, Option.some.injEq, Prod.mk.injEq, about, Option.bind_some,
            List.getElem?_eq_getElem inside, reduceCtorEq, and_false] at isLoaded
        · rename_i id old
          obtain ⟨there, opened⟩ := load_event isLoaded isOpen
          have holding : found.kind.holding = true := by
            by_contra unheld
            have unholding : found.kind.holding = false := by simpa using unheld
            have mismatch : found.kind = .pcDataMismatch := by simpa [unholding] using kinds
            rw [mismatch] at opened
            exact c.noMismatch item id opened
          have undecided : Undecided s id old := undecided_of_awaits (open_holding_awaits c there opened holding)
          obtain ⟨row, dismissed, moves⟩ := dismissEvent_moves c there undecided found adminId note
          have advances := advances_of_moves moves c
            (fun booked => by rw [undecided.unbooked] at booked; cases booked) fun _ => by simp [dismissed]
          split
          · rename_i linked
            refine release_advances c moves undecided (by simp [dismissed]) (by simp [dismissed]) ?_ adminId answers
            refine fun strict => clear strict id old found ⟨isLoaded, isOpen⟩ ?_
            by_contra other
            simp [dismissEvent, dismissLink, other] at linked
          · exact advances.trans (markDependantsDismissed_advances advances.consistent old)

theorem markReviewed_advances (c : Consistent policy tidy s) (item : ItemId) (adminId : Nat)
    (answers : RowId → Answers)
    (clear : tidy → ∀ id old found, OpenOn s item id old found → found.kind = .certainDuplicate →
      ClearBelow policy s old.eventId) :
    Advances policy tidy s (markReviewed policy s item adminId answers).1 := by
  have still := advances_refl c
  unfold markReviewed
  split
  · exact still
  · rename_i found loaded isLoaded
    split
    · exact still
    · rename_i closed
      have isOpen : found.state = .opened := by simpa using closed
      split
      · exact still
      · rename_i unheld
        dsimp only
        split
        · rename_i id old certain
          obtain ⟨there, opened⟩ := load_event isLoaded isOpen
          rw [certain] at opened
          have skipped := open_duplicate_skipped c there opened
          have undecided := undecided_of_open c there opened rfl
          have maps := linkToMatch_mapsOnly s found old
          generalize linkToMatch s found old = linked at maps
          have sameEvents : linked.1.events = s.events := by
            obtain ⟨added, same, -⟩ := maps
            rw [same]
          have sameItems : linked.1.items = s.items := by
            obtain ⟨added, same, -⟩ := maps
            rw [same]
          have written := rowWritten_updateEvent linked.1 id old (fun row => { row with resolvedBy := some adminId })
            (by rw [sameEvents, there]) rfl
          have closes := closes_resolve (linked.1.markResolved id adminId) id item .reviewed adminId (by decide)
            fun other kind' isThere => ((openItem_congr sameItems).mp isThere).owner_unique opened
          have moves : Moves policy tidy s ((linked.1.markResolved id adminId).resolve item .reviewed adminId) id old
              { old with resolvedBy := some adminId } := by
            refine moves_decided c there undecided maps written rfl rfl rfl closes ?_ (.inr skipped)
            intro item' kind' was decides
            have unholding := c.quiet id old there (by rw [skipped]; rfl) item' kind' was
            have isCertain : kind' = .certainDuplicate := by simpa [ReviewKind.decisive, unholding] using decides
            exact c.oneDuplicate id item' item (isCertain ▸ was) opened
          have advances := advances_of_moves moves c (fun _ => rfl) fun _ => by simp [skipped]
          split
          · exact release_advances c moves undecided (by simp [skipped]) (by simp [skipped])
              (fun strict => clear strict id old found ⟨isLoaded, isOpen⟩ certain) adminId answers
          · exact advances
        · rename_i other
          refine resolve_advances c item (by decide) adminId fun id kind opened => ?_
          have inside := c.owned item id kind opened
          obtain ⟨row, there, about, -, rfl⟩ := opened
          simp only [load, there, Option.map_some, Option.some.injEq, Prod.mk.injEq, about, Option.bind_some,
            List.getElem?_eq_getElem inside] at isLoaded
          obtain ⟨rfl, rfl⟩ := isLoaded
          have unholding : row.kind.holding = false := by simpa using unheld
          by_contra decisive
          have certain : row.kind = .certainDuplicate := by simpa [ReviewKind.decisive, unholding] using decisive
          exact other id _ certain rfl

end

end Liratek.Offline.Actions
