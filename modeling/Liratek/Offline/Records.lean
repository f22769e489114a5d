import Liratek.Offline.Actions
import Liratek.Offline.Shop

/-! The uploaded records. Uploads alone add to them; every other step of the shop leaves them as they are. -/

namespace Liratek.Offline.Records
open Tables Channels Replay Outcomes Review Actions Upload Shop

/-- What the uploads stored, in the order of arrival. -/
def records (s : Store) : List EventRecord :=
  s.events.map (·.toEventRecord)

section
variable {policy : Policy} {s t : Store} {id : RowId} {event row : EventRow}

theorem records_of_events (same : t.events = s.events) : records t = records s := by
  unfold records
  rw [same]

theorem mem_records {r : EventRecord} :
    r ∈ records s ↔ ∃ (id : RowId) (row : EventRow), s.events[id]? = some row ∧ row.toEventRecord = r := by
  rw [records, List.mem_map]
  constructor
  · intro ⟨row, member, same⟩
    obtain ⟨id, found⟩ := List.mem_iff_getElem?.mp member
    exact ⟨id, row, found, same⟩
  · intro ⟨id, row, found, same⟩
    exact ⟨row, List.mem_of_getElem? found, same⟩

theorem records_updateEvent (s : Store) (id : RowId) (change : EventRow → EventRow)
    (keeps : ∀ row, (change row).toEventRecord = row.toEventRecord) : records (s.updateEvent id change) = records s := by
  unfold records
  apply List.ext_getElem?
  intro j
  rw [List.getElem?_map, List.getElem?_map, events_updateEvent]
  split_ifs
  · rw [Option.map_map]
    congr 1
    funext row
    exact keeps row
  · rfl

/-- The records and the PCs stay as they are, and no event goes back to waiting for a round. -/
structure Follows (s t : Store) : Prop where
  records : records t = records s
  devices : t.devices = s.devices
  settled : ∀ (id : RowId) (row : EventRow), s.events[id]? = some row → row.status ≠ .received →
    ∃ row', t.events[id]? = some row' ∧ row'.status ≠ .received

theorem follows_of_events (events : t.events = s.events) (devices : t.devices = s.devices) : Follows s t where
  records := records_of_events events
  devices := devices
  settled id row found done := ⟨row, by rw [events, found], done⟩

theorem follows_refl (s : Store) : Follows s s :=
  follows_of_events rfl rfl

theorem Follows.trans {u : Store} (first : Follows s t) (second : Follows t u) : Follows s u where
  records := second.records.trans first.records
  devices := second.devices.trans first.devices
  settled id row found done := by
    obtain ⟨row', found', done'⟩ := first.settled id row found done
    exact second.settled id row' found' done'

theorem follows_updateEvent (s : Store) (id : RowId) (change : EventRow → EventRow)
    (keeps : ∀ row, (change row).toEventRecord = row.toEventRecord)
    (settles : ∀ row : EventRow, row.status ≠ .received → (change row).status ≠ .received) :
    Follows s (s.updateEvent id change) where
  records := records_updateEvent s id change keeps
  devices := rfl
  settled j row found done := by
    rw [events_updateEvent, found]
    split_ifs
    · exact ⟨change row, rfl, settles row done⟩
    · exact ⟨row, rfl, done⟩

theorem follows_setError (s : Store) (id : RowId) (error : String) : Follows s (s.setError id error) :=
  follows_updateEvent s id _ (fun _ => rfl) fun _ done => done

theorem follows_dismissed (s : Store) (id : RowId) (adminId : Nat) : Follows s (s.setStatus id .dismissed adminId) :=
  follows_updateEvent s id _ (fun _ => rfl) fun _ _ => by simp

theorem follows_markResolved (s : Store) (id : RowId) (adminId : Nat) : Follows s (s.markResolved id adminId) :=
  follows_updateEvent s id _ (fun _ => rfl) fun _ done => done

theorem follows_written (found : s.events[id]? = some event) (written : RowWritten s t id row)
    (settles : event.status ≠ .received → row.status ≠ .received) : Follows s t where
  records := by
    unfold Records.records
    apply List.ext_getElem?
    intro j
    rw [List.getElem?_map, List.getElem?_map]
    by_cases same : j = id
    · subst same
      rw [written.here, found, Option.map_some, Option.map_some, written.record event found]
    · rw [written.others j same]
  devices := written.devices
  settled j old there done := by
    by_cases same : j = id
    · subst same
      rw [found] at there
      exact ⟨row, written.here, settles (Option.some.inj there ▸ done)⟩
    · exact ⟨old, by rw [written.others j same, there], done⟩

/-- What parks an event takes it out of the waiting ones. -/
theorem parking_status {policy : Policy} {opts : ReplayOptions} {status : EventStatus} {kind : ReviewKind}
    (parking : Parking policy s event opts status kind) : status ≠ .received := by
  cases parking <;> simp

/-- One call of the engine. -/
theorem follows_process (policy : Policy) (found : s.events[id]? = some event) (opts : ReplayOptions) (answers : Answers)
    (keeps : ∀ u, Follows u (opts.onBooked u)) : Follows s (process policy s id event opts answers).1 := by
  have cases : Processed policy s id event opts answers (process policy s id event opts answers) := process_cases found
  generalize process policy s id event opts answers = result at cases
  cases cases with
  | kept t out row written status => exact follows_written found written fun done => status ▸ done
  | parked t out row kind opened isDue status parking =>
    exact follows_written found opened.written fun _ => status ▸ parking_status parking
  | skipped t out row opened isDue status => exact follows_written found opened.written fun _ => by simp [status]
  | booked t out row booking isDue status =>
    refine (follows_written found booking.written fun _ => ?_).trans (keeps t)
    rw [status]
    cases opts.mode <;> simp [bookedStatus]

theorem follows_resolveAll (s : Store) (items : List ItemId) (state : ReviewState) (adminId : Nat) :
    Follows s (s.resolveAll items state adminId) :=
  follows_of_events (events_resolveAll s items state adminId) (devices_resolveAll s items state adminId)

theorem follows_releaseOne (adminId : Nat) (answers : RowId → Answers) (r : Release) (dep : RowId) :
    Follows r.store (releaseOne policy adminId answers r dep).store := by
  unfold releaseOne
  split
  · exact follows_refl _
  · rename_i event found
    have done := follows_process policy found
      { mode := .auto, release := true
        onBooked := fun t => t.resolveAll (r.store.openOfKind dep (· = .waiting)) .applied adminId }
      (answers dep) fun u => follows_resolveAll u _ _ _
    dsimp only
    split_ifs
    · exact done
    · exact done.trans (follows_resolveAll _ _ _ _)
    · exact done

theorem follows_releaseLoop (adminId : Nat) (answers : RowId → Answers) (fuel : Nat) (r : Release) :
    Follows r.store (releaseLoop policy adminId answers fuel r).store := by
  induction fuel generalizing r with
  | zero => exact follows_refl _
  | succ fuel ih =>
    have round : ∀ (deps : List RowId) (r : Release),
        Follows r.store (deps.foldl (releaseOne policy adminId answers) r).store := by
      intro deps
      induction deps with
      | nil => exact fun _ => follows_refl _
      | cons dep rest each =>
        intro r
        exact (follows_releaseOne adminId answers r dep).trans (each _)
    unfold releaseLoop
    split_ifs
    · exact follows_refl _
    · exact (round _ r).trans (ih _)

theorem follows_releaseDependants (s : Store) (parent : EventRow) (adminId : Nat) (answers : RowId → Answers) :
    Follows s (releaseDependants policy s parent adminId answers) :=
  follows_releaseLoop adminId answers _ { store := s, released := [parent.eventId] }

theorem follows_markDependantsDismissed (s : Store) (parent : EventRow) :
    Follows s (markDependantsDismissed s parent) := by
  unfold markDependantsDismissed
  generalize listHeldDependingOn s [parent.eventId] = deps
  induction deps generalizing s with
  | nil => exact follows_refl s
  | cons dep rest ih => exact (follows_setError s dep _).trans (ih _)

/-! The admin's actions. -/

theorem follows_afterBooking (s : Store) (item : ItemId) (outcome : ReplayOutcome) (adminId : Nat)
    (answers : RowId → Answers) : Follows s (afterBooking policy s item event outcome adminId answers).1 := by
  unfold afterBooking
  split_ifs
  · exact follows_refl s
  · exact follows_releaseDependants s event adminId answers
  · exact follows_of_events rfl rfl
  · exact follows_refl s

theorem follows_booking {item : ItemId} (found : s.events[id]? = some event) (checkpoint duplicate : Bool) (adminId : Nat)
    (answers : RowId → Answers) :
    Follows s (afterBooking policy (process policy s id event (bookingOptions id adminId checkpoint duplicate) (answers id)).1
      item event (process policy s id event (bookingOptions id adminId checkpoint duplicate) (answers id)).2
      adminId answers).1 :=
  (follows_process policy found _ _ fun u => follows_resolveAll u _ _ _).trans (follows_afterBooking _ _ _ _ _)

theorem follows_apply (item : ItemId) (adminId : Nat) (answers : RowId → Answers) :
    Follows s (Review.apply policy s item adminId answers).1 := by
  unfold Review.apply
  split
  · exact follows_refl s
  · rename_i row loaded isLoaded
    split
    · exact follows_refl s
    · rename_i closed
      split
      · exact follows_refl s
      · split_ifs
        · exact follows_refl s
        · exact follows_refl s
        · exact follows_refl s
        · exact follows_booking (load_event isLoaded (by simpa using closed)).1 _ _ adminId answers

theorem follows_bookAnyway (item : ItemId) (adminId : Nat) (answers : RowId → Answers) :
    Follows s (bookAnyway policy s item adminId answers).1 := by
  unfold bookAnyway
  split
  · exact follows_refl s
  · rename_i row loaded isLoaded
    split
    · split_ifs with closed
      · exact follows_refl s
      · exact follows_booking (load_event isLoaded (by simpa using closed)).1 _ _ adminId answers
    · exact follows_refl s

theorem follows_linkToMatch (s : Store) (row : ReviewRow) (event : EventRow) : Follows s (linkToMatch s row event).1 := by
  obtain ⟨added, same, -⟩ := linkToMatch_mapsOnly s row event
  exact follows_of_events (by rw [same]) (by rw [same])

theorem follows_dismissEvent (s : Store) (id : RowId) (event : EventRow) (row : ReviewRow) (adminId : Nat)
    (note : Option String) : Follows s (dismissEvent s row id event adminId note).1 := by
  have linked : Follows s (dismissLink s row event).1 := by
    unfold dismissLink
    split_ifs
    · exact follows_linkToMatch s row event
    · exact follows_refl s
  have dismissed : Follows s ((dismissLink s row event).1.setStatus id .dismissed adminId) :=
    linked.trans (follows_dismissed _ _ _)
  unfold dismissEvent
  dsimp only
  rw [closeOpenItems]
  refine Follows.trans ?_ (follows_resolveAll _ _ _ _)
  split
  · split_ifs
    · exact dismissed
    · exact dismissed.trans (follows_setError _ _ _)
  · exact dismissed

theorem follows_dismiss (item : ItemId) (adminId : Nat) (note : Option String) (answers : RowId → Answers) :
    Follows s (dismiss policy s item adminId note answers).1 := by
  unfold dismiss
  split
  · exact follows_refl s
  · split
    · exact follows_refl s
    · split
      · exact follows_of_events rfl rfl
      · dsimp only
        split
        · exact follows_of_events rfl rfl
        · split
          · exact (follows_dismissEvent s _ _ _ adminId note).trans (follows_releaseDependants _ _ adminId answers)
          · exact (follows_dismissEvent s _ _ _ adminId note).trans (follows_markDependantsDismissed _ _)

theorem follows_markReviewed (item : ItemId) (adminId : Nat) (answers : RowId → Answers) :
    Follows s (markReviewed policy s item adminId answers).1 := by
  unfold markReviewed
  split
  · exact follows_refl s
  · split
    · exact follows_refl s
    · split
      · exact follows_of_events rfl rfl
      · dsimp only
        split
        · have reviewed : ∀ row event id, Follows s (((linkToMatch s row event).1.markResolved id adminId).resolve item
              .reviewed adminId) := fun row event id =>
            ((follows_linkToMatch s row event).trans (follows_markResolved _ _ _)).trans (follows_of_events rfl rfl)
          split
          · exact (reviewed _ _ _).trans (follows_releaseDependants _ _ adminId answers)
          · exact reviewed _ _ _
        · exact follows_of_events rfl rfl

/-- Steps that neither bring in events nor move a cursor. -/
def Step.isLocal : Step → Bool
  | .upload _ _ _ | .cursor _ _ => false
  | _ => true

theorem exec_follows (policy : Policy) (s : Store) {step : Step} (isLocal : Step.isLocal step = true) :
    Follows s (exec policy s step) := by
  cases step with
  | upload deviceId body receipt => cases isLocal
  | cursor deviceId seq => cases isLocal
  | merge id answers =>
    simp only [exec, mergeEvent]
    split
    · exact follows_refl s
    · rename_i found
      exact follows_process _ found _ _ follows_refl
  | apply item adminId answers => exact follows_apply item adminId answers
  | bookAnyway item adminId answers => exact follows_bookAnyway item adminId answers
  | dismiss item adminId note answers => exact follows_dismiss item adminId note answers
  | markReviewed item adminId answers => exact follows_markReviewed item adminId answers

/-- A step of the shop is an upload, or leaves the records. -/
theorem exec_records (policy : Policy) (s : Store) (step : Step) :
    (∃ deviceId body receipt, step = .upload deviceId body receipt) ∨ records (exec policy s step) = records s := by
  cases step with
  | upload deviceId body receipt => exact .inl ⟨deviceId, body, receipt, rfl⟩
  | cursor deviceId seq => exact .inr rfl
  | _ => exact .inr (exec_follows policy s rfl).records

end

end Liratek.Offline.Records
