import Liratek.Offline.Actions
import Liratek.Offline.Upload

/-! Uploads keep the invariant: a stored event is new to every table. -/

namespace Liratek.Offline.Arrivals
open Tables Channels Replay Outcomes Consistency Transitions ReleaseRounds Actions Upload

section
variable {policy : Policy} {tidy : Prop} {s : Store}

theorem findByEventId_none (eventId : EventId) :
    s.findByEventId eventId = none ↔ ∀ (id : RowId) (row : EventRow), s.events[id]? = some row → row.eventId ≠ eventId := by
  simp only [Store.findByEventId, List.findIdx?_eq_none_iff, hasEventId, decide_eq_false_iff_not]
  constructor
  · exact fun none id row found => none row (List.mem_of_getElem? found)
  · intro none row member
    obtain ⟨id, found⟩ := List.mem_iff_getElem?.mp member
    exact none id row found

theorem findBySeq_none (deviceId seq : Nat) :
    s.findBySeq deviceId seq = none ↔ ∀ (id : RowId) (row : EventRow), s.events[id]? = some row →
      ¬ (row.deviceId = deviceId ∧ row.deviceSeq = seq) := by
  simp only [Store.findBySeq, List.findIdx?_eq_none_iff, hasSeq, Bool.and_eq_false_iff, decide_eq_false_iff_not]
  constructor
  · intro none id row found both
    rcases none row (List.mem_of_getElem? found) with device | seq
    · exact device both.1
    · exact seq both.2
  · intro none row member
    obtain ⟨id, found⟩ := List.mem_iff_getElem?.mp member
    by_contra neither
    simp only [not_or, not_not] at neither
    exact none id row found neither

/-- The four outcomes of an insert, with what each says about the tables. -/
inductive Inserted (s : Store) (record : EventRecord) (refusal : Option String) : Store × InsertOutcome → Prop where
  | inserted (newId : ∀ (id : RowId) (row : EventRow), s.events[id]? = some row → row.eventId ≠ record.eventId)
      (newSeq : ∀ (id : RowId) (row : EventRow), s.events[id]? = some row →
        ¬ (row.deviceId = record.deviceId ∧ row.deviceSeq = record.deviceSeq)) :
      Inserted s record refusal ({ s with events := s.events ++ [arrivalRow record refusal] }, .inserted)
  | duplicate (id : RowId) (row : EventRow) (found : s.events[id]? = some row) (named : row.eventId = record.eventId)
      (sameContent : row.payloadHash = record.payloadHash) : Inserted s record refusal (s, .duplicate)
  | reused (id : RowId) (row : EventRow) (found : s.events[id]? = some row) (named : row.eventId = record.eventId)
      (otherContent : row.payloadHash ≠ record.payloadHash) : Inserted s record refusal (s, .reused)
  | seqConflict (id : RowId) (row : EventRow) (found : s.events[id]? = some row)
      (newId : ∀ (id : RowId) (row : EventRow), s.events[id]? = some row → row.eventId ≠ record.eventId)
      (sameSeq : row.deviceId = record.deviceId ∧ row.deviceSeq = record.deviceSeq) :
      Inserted s record refusal (s, .seqConflict)

theorem insertReceived_cases (s : Store) (record : EventRecord) (refusal : Option String) :
    Inserted s record refusal (insertReceived s record refusal) := by
  unfold insertReceived
  split
  · rename_i existing isThere
    obtain ⟨inside, named, -⟩ := List.findIdx?_eq_some_iff_getElem.mp isThere
    have found := List.getElem?_eq_getElem inside
    have named : (s.events[existing]).eventId = record.eventId := by simpa [hasEventId] using named
    simp only [found, Option.any_some, decide_eq_true_eq]
    split_ifs with content
    · exact .duplicate existing _ found named content
    · exact .reused existing _ found named content
  · rename_i absent
    have newId := (findByEventId_none record.eventId).mp absent
    split_ifs with taken
    · obtain ⟨existing, isThere⟩ := Option.isSome_iff_exists.mp taken
      obtain ⟨inside, sameSeq, -⟩ := List.findIdx?_eq_some_iff_getElem.mp isThere
      exact .seqConflict existing _ (List.getElem?_eq_getElem inside) newId (by simpa [hasSeq] using sameSeq)
    · exact .inserted newId ((findBySeq_none _ _).mp (by simpa using taken))

/-- The tables after an arrival: one row, and at most one item about it. -/
def arrive (s : Store) (new : EventRow) (item : Option ReviewRow) : Store :=
  { s with events := s.events ++ [new], items := s.items ++ item.toList }

theorem events_arrive (new : EventRow) (item : Option ReviewRow) (id : RowId) (row : EventRow)
    (found : (arrive s new item).events[id]? = some row) :
    s.events[id]? = some row ∨ (id = s.events.length ∧ row = new) := by
  rcases Nat.lt_or_ge id s.events.length with before | beyond
  · left
    simpa only [arrive, List.getElem?_append_left before] using found
  · right
    simp only [arrive, List.getElem?_append_right beyond] at found
    obtain ⟨inside, same⟩ := List.getElem?_eq_some_iff.mp found
    simp only [List.length_singleton] at inside
    have here : id = s.events.length := Nat.le_antisymm (Nat.sub_eq_zero_iff_le.mp (Nat.lt_one_iff.mp inside)) beyond
    exact ⟨here, by rw [← same]; simp⟩

theorem events_arrive_old (new : EventRow) (item : Option ReviewRow) (id : RowId) (row : EventRow)
    (found : s.events[id]? = some row) : (arrive s new item).events[id]? = some row := by
  have inside := (List.getElem?_eq_some_iff.mp found).1
  simpa only [arrive, List.getElem?_append_left inside] using found

theorem openItem_arrive (new : EventRow) (item : Option ReviewRow)
    (about : ∀ row ∈ item, row.state = .opened ∧ row.eventRowId = some s.events.length) (i : ItemId) (id : RowId)
    (kind : ReviewKind) : OpenItem (arrive s new item) i id kind ↔
      OpenItem s i id kind ∨ (i = s.items.length ∧ id = s.events.length ∧ ∃ row ∈ item, row.kind = kind) := by
  cases item with
  | none => simp [arrive, OpenItem]
  | some row =>
    obtain ⟨isOpen, owner⟩ := about row rfl
    have appended : OpenItem (s.insertItem row) i id kind ↔ _ := openItem_insertItem row isOpen
    rw [show OpenItem (arrive s new (some row)) i id kind ↔ OpenItem (s.insertItem row) i id kind from Iff.rfl,
      appended, owner]
    simp [eq_comm]

theorem settled_arrive (new : EventRow) (item : Option ReviewRow) (eventId : EventId)
    (done : settled s eventId = true) : settled (arrive s new item) eventId = true := by
  obtain ⟨id, row, found, named, settles⟩ := (settled_iff s eventId).mp done
  exact (settled_iff _ eventId).mpr ⟨id, row, events_arrive_old new item id row found, named, settles⟩

/-- A fresh row keeps the invariant when its item matches its status. -/
theorem arrive_advances (c : Consistent policy tidy s) (new : EventRow) (item : Option ReviewRow)
    (newId : ∀ (id : RowId) (row : EventRow), s.events[id]? = some row → row.eventId ≠ new.eventId)
    (about : ∀ row ∈ item, row.state = .opened ∧ row.eventRowId = some s.events.length)
    (status : (new.status = .received ∧ ∀ row ∈ item, row.kind.watched = false) ∨
      (new.status = .refused ∧ ∃ row ∈ item, row.kind = .refused)) :
    Advances policy tidy s (arrive s new item) := by
  have rows := events_arrive (s := s) new item
  have opens := openItem_arrive new item about
  have outside : ∀ i kind, ¬ OpenItem s i s.events.length kind :=
    fun i kind opened => (c.owned i _ kind opened).false
  have inside : ∀ (id : RowId) (row : EventRow), s.events[id]? = some row → id ≠ s.events.length :=
    fun id row found => ((List.getElem?_eq_some_iff.mp found).1).ne
  have older : ∀ i id kind, id ≠ s.events.length → (OpenItem (arrive s new item) i id kind ↔ OpenItem s i id kind) := by
    intro i id kind different
    rw [opens]
    exact or_iff_left fun here => different here.2.1
  have newKind : ∀ i kind, OpenItem (arrive s new item) i s.events.length kind →
      i = s.items.length ∧ ∃ row ∈ item, row.kind = kind := by
    intro i kind opened
    rcases (opens i _ kind).mp opened with was | ⟨here, -, fits⟩
    · exact absurd was (outside i kind)
    · exact ⟨here, fits⟩
  have only : ∀ kind, (∃ row ∈ item, row.kind = kind) → kind.watched = true → new.status = .refused ∧ kind = .refused := by
    rintro kind ⟨row, member, rfl⟩ watched
    rcases status with ⟨-, quiet⟩ | ⟨refused, row', member', isRefused⟩
    · rw [quiet row member] at watched
      cases watched
    · rw [Option.mem_def] at member member'
      rw [member] at member'
      rw [Option.some.inj member']
      exact ⟨refused, isRefused⟩
  have unbooked : new.status.isBooked = false := by
    rcases status with ⟨same, -⟩ | ⟨same, -⟩ <;> · rw [same]; rfl
  have mono := settled_arrive (s := s) new item
  refine ⟨?_, fun id old found => ⟨old, events_arrive_old new item id old found, rfl, fun _ => rfl, fun was => was⟩, mono⟩
  refine ⟨?distinct, ?owned, ?quiet, ?isHeld, ?single, ?duplicate, ?oneDuplicate, ?noMismatch, ?once, ?audited, ?linked,
    ?parked⟩
  case distinct =>
    intro i j a b foundA foundB same
    rcases rows i a foundA with wasA | ⟨rfl, rfl⟩ <;> rcases rows j b foundB with wasB | ⟨rfl, rfl⟩
    · exact c.distinct i j a b wasA wasB same
    · exact absurd same (newId i a wasA)
    · exact absurd same.symm (newId j b wasB)
    · rfl
  case owned =>
    intro i id kind opened
    have longer : (arrive s new item).events.length = s.events.length + 1 := by simp [arrive]
    rw [longer]
    rcases (opens i id kind).mp opened with was | ⟨-, rfl, -⟩
    · exact Nat.lt_succ_of_lt (c.owned i id kind was)
    · exact Nat.lt_succ_self _
  case quiet =>
    intro id row found calm i kind opened
    rcases rows id row found with was | ⟨rfl, rfl⟩
    · exact c.quiet id row was calm i kind ((older i id kind (inside id row was)).mp opened)
    · by_contra holds
      have watched := ReviewKind.watched_of_decisive (ReviewKind.decisive_of_holding (by simpa using holds : kind.holding = true))
      rw [(only kind (newKind i kind opened).2 watched).1] at calm
      cases calm
  case isHeld =>
    intro id row found awaits
    rcases rows id row found with was | ⟨rfl, rfl⟩
    · obtain ⟨i, kind, opened, holding⟩ := c.held id row was awaits
      exact ⟨i, kind, (opens i id kind).mpr (.inl opened), holding⟩
    · rcases status with ⟨received, -⟩ | ⟨-, fits⟩
      · rw [received] at awaits
        cases awaits
      · exact ⟨s.items.length, .refused, (opens _ _ _).mpr (.inr ⟨rfl, rfl, fits⟩), rfl⟩
  case single =>
    intro strict id i i' kind kind' one two holds holds'
    by_cases here : id = s.events.length
    · subst here
      rw [(newKind i kind one).1, (newKind i' kind' two).1]
    · exact c.single strict id i i' kind kind' ((older i id kind here).mp one) ((older i' id kind' here).mp two) holds holds'
  case duplicate =>
    intro id row found unskipped i opened
    rcases rows id row found with was | ⟨rfl, rfl⟩
    · exact c.duplicate id row was unskipped i ((older i id _ (inside id row was)).mp opened)
    · cases (only _ (newKind i _ opened).2 rfl).2
  case oneDuplicate =>
    intro id i i' one two
    by_cases here : id = s.events.length
    · subst here
      rw [(newKind i _ one).1, (newKind i' _ two).1]
    · exact c.oneDuplicate id i i' ((older i id _ here).mp one) ((older i' id _ here).mp two)
  case noMismatch =>
    intro i id opened
    by_cases here : id = s.events.length
    · subst here
      cases (only _ (newKind i _ opened).2 rfl).2
    · exact c.noMismatch i id ((older i id _ here).mp opened)
  case once =>
    intro id row found
    rcases rows id row found with was | ⟨rfl, rfl⟩
    · exact c.once id row was
    · rw [unbooked]
      refine List.count_eq_zero_of_not_mem fun member => ?_
      obtain ⟨id', row', was, named⟩ := c.audited _ member
      exact newId id' row' was named
  case audited =>
    intro eventId member
    obtain ⟨id, row, found, named⟩ := c.audited eventId member
    exact ⟨id, row, events_arrive_old new item id row found, named⟩
  case linked =>
    intro m member
    obtain ⟨id, row, found, named, state⟩ := c.linked m member
    refine ⟨id, row, events_arrive_old new item id row found, named, ?_⟩
    exact state.imp_right (Or.imp_right fun skipped =>
      ⟨skipped.1, fun i opened => skipped.2 i ((older i id _ (inside id row found)).mp opened)⟩)
  case parked =>
    rintro id row found held plain ⟨i, kind, opened, holding, unlike⟩ d needs
    rcases rows id row found with was | ⟨rfl, rfl⟩
    · exact mono d (c.parked id row was held plain
        ⟨i, kind, (older i id kind (inside id row was)).mp opened, holding, unlike⟩ d needs)
    · rcases status with ⟨same, -⟩ | ⟨same, -⟩ <;> · rw [held] at same; cases same

/-! One upload. -/

theorem arrivalItem_about (deviceId : Nat) (event : OfflineEvent) (refusal note : Option String) (id : RowId) :
    ∀ row ∈ arrivalItem deviceId event refusal note id, row.state = .opened ∧ row.eventRowId = some id := by
  intro row member
  unfold arrivalItem at member
  split at member
  · cases member
    exact ⟨rfl, rfl⟩
  · obtain ⟨text, -, rfl⟩ := Option.map_eq_some_iff.mp member
    exact ⟨rfl, rfl⟩

/-- A refused arrival carries a refused item, a received one at most a note. -/
theorem arrivalItem_fits (record : EventRecord) (deviceId : Nat) (event : OfflineEvent) (refusal note : Option String)
    (id : RowId) : ((arrivalRow record refusal).status = .received ∧
        ∀ row ∈ arrivalItem deviceId event refusal note id, row.kind.watched = false) ∨
      ((arrivalRow record refusal).status = .refused ∧
        ∃ row ∈ arrivalItem deviceId event refusal note id, row.kind = .refused) := by
  cases refusal with
  | none =>
    refine .inl ⟨rfl, fun row member => ?_⟩
    obtain ⟨text, -, rfl⟩ := Option.map_eq_some_iff.mp member
    rfl
  | some error => exact .inr ⟨rfl, _, rfl, rfl⟩

theorem uploadOne_advances (deviceId : Nat) (receipt : Receipt) (skewMs : Int) (onlineSkewMs : Option Int)
    (batch : Batch) (event : OfflineEvent) (c : Consistent policy tidy batch.store) :
    Advances policy tidy batch.store (uploadOne policy deviceId receipt skewMs onlineSkewMs batch event).store := by
  have still := advances_refl c
  unfold uploadOne
  split_ifs
  · exact still
  · dsimp only
    generalize toRow policy deviceId event _ = record
    generalize (skewOf policy batch.store deviceId receipt skewMs onlineSkewMs event).note = note
    have cases := insertReceived_cases batch.store record (refusalOf policy event.channel)
    generalize insertReceived batch.store record (refusalOf policy event.channel) = result at cases
    cases cases with
    | inserted newId newSeq =>
      exact arrive_advances c (arrivalRow record _) (arrivalItem deviceId event _ note batch.store.events.length) newId
        (arrivalItem_about deviceId event _ note _) (arrivalItem_fits record deviceId event _ note _)
    | duplicate id row found named sameContent => exact still
    | reused id row found named otherContent => exact still
    | seqConflict id row found newId sameSeq => exact still

theorem uploads_advance (deviceId : Nat) (receipt : Receipt) (skewMs : Int) (onlineSkewMs : Option Int)
    (events : List OfflineEvent) (batch : Batch) (c : Consistent policy tidy batch.store) :
    Advances policy tidy batch.store
      (events.foldl (uploadOne policy deviceId receipt skewMs onlineSkewMs) batch).store := by
  induction events generalizing batch with
  | nil => exact advances_refl c
  | cons event rest ih =>
    have first := uploadOne_advances deviceId receipt skewMs onlineSkewMs batch event c
    exact first.trans (ih _ first.consistent)

theorem openItem_updateDetails {item i : ItemId} {id : RowId} {kind : ReviewKind} (change : Details → Details) :
    OpenItem (Store.updateDetails s item change) i id kind ↔ OpenItem s i id kind := by
  unfold OpenItem Store.updateDetails
  simp only [List.getElem?_modify]
  by_cases same : item = i
  · cases found : s.items[i]? with
    | none => simp
    | some row => simp [same]
  · simp [same]

/-- A conflict item is about no event, so nothing the invariant reads changes. -/
theorem afterUpload_advances (deviceId : Nat) (body : UploadInput) (batch : Batch)
    (c : Consistent policy tidy batch.store) :
    Advances policy tidy batch.store (afterUpload deviceId body batch) := by
  unfold afterUpload
  split_ifs
  · exact advances_refl c
  · have same : ∀ new : ReviewRow, new.state = .opened → new.eventRowId = none → ∀ item id kind,
        OpenItem (batch.store.insertItem new) item id kind ↔ OpenItem batch.store item id kind := by
      intro new isOpen eventless item id kind
      rw [openItem_insertItem new isOpen, eventless]
      simp
    exact advances_of_items c rfl rfl rfl (fun item id kind _ => same _ rfl rfl item id kind)
      fun item id kind opened => (same _ rfl rfl item id kind).mp opened
  · split
    · exact advances_of_items c rfl rfl rfl (fun _ _ _ _ => openItem_updateDetails _)
        fun _ _ _ opened => (openItem_updateDetails _).mp opened
    · exact advances_refl c
  · exact advances_refl c

theorem upload_advances (c : Consistent policy tidy s) (deviceId : Nat) (body : UploadInput) (receipt : Receipt) :
    Advances policy tidy s (upload policy s deviceId body receipt).1 := by
  unfold upload
  split_ifs
  · exact advances_refl c
  · exact advances_refl c
  · have seen := advances_of_items (u := s.recordUploadSeen deviceId (receipt.receivedAt - body.pcClock)) c rfl rfl rfl
      (fun _ _ _ _ => Iff.rfl) fun _ _ _ opened => opened
    have stored := uploads_advance deviceId receipt (receipt.receivedAt - body.pcClock)
      ((s.devices[deviceId]?).bind (·.lastOnlineSkewMs)) body.events
      { store := s.recordUploadSeen deviceId (receipt.receivedAt - body.pcClock) } seen.consistent
    exact (seen.trans stored).trans (afterUpload_advances deviceId body _ (seen.trans stored).consistent)

end

end Liratek.Offline.Arrivals
