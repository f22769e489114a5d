import Liratek.Lib.Runs
import Liratek.Offline.Arrivals
import Liratek.Offline.Shop

/-! Exactly-once booking. A booking writes its audit row in the transaction that commits the binding, so
the audit rows of an event id count the commits of its binding. -/

namespace Liratek.Offline.ExactlyOnce
open Lib.Runs Tables Channels Replay Outcomes Consistency Transitions Review ReleaseRounds Actions Arrivals
  Upload Shop

section
variable {policy : Policy} {tidy : Prop} {s : Store}

/-- One step of the shop. `tidy` asks for the steps that put no event on the list twice. -/
theorem exec_advances (c : Consistent policy tidy s) (input : Step) (uncertain : ¬ CertainOnApply policy s input)
    (clear : tidy → ∀ event, MayRelease s event input → ClearBelow policy s event.eventId) :
    Advances policy tidy s (exec policy s input) := by
  cases input with
  | upload deviceId body receipt => exact upload_advances c deviceId body receipt
  | merge id answers =>
    simp only [exec, mergeEvent]
    split
    · exact advances_refl c
    · rename_i event found
      exact merge_advances c found
  | cursor deviceId seq =>
    exact advances_of_items c rfl rfl rfl (fun _ _ _ _ => Iff.rfl) fun _ _ _ opened => opened
  | apply item adminId answers =>
    refine apply_advances c item adminId answers ?_ ?_
    · exact fun id old found applicable hook => uncertain ⟨id, old, found, applicable, hook⟩
    · exact fun strict id old found applicable => clear strict old ⟨id, found, applicable⟩
  | bookAnyway item adminId answers =>
    exact bookAnyway_advances c item adminId answers
      fun strict id old found opened certain => clear strict old ⟨id, found, opened, certain⟩
  | dismiss item adminId note answers =>
    exact dismiss_advances c item adminId note answers
      fun strict id old found opened likely => clear strict old ⟨id, found, opened, likely⟩
  | markReviewed item adminId answers =>
    exact markReviewed_advances c item adminId answers
      fun strict id old found opened certain => clear strict old ⟨id, found, opened, certain⟩

theorem newShop_consistent (devices : List DeviceRow) : Consistent policy tidy (newShop devices) := by
  have noRow : ∀ (id : RowId) (row : EventRow), (newShop devices).events[id]? ≠ some row := by
    intro id row found
    cases found
  have noItem : ∀ item id kind, ¬ OpenItem (newShop devices) item id kind := by
    rintro item id kind ⟨row, found, -⟩
    cases found
  exact {
    distinct := fun i _ a _ found => absurd found (noRow i a)
    owned := fun item id kind opened => absurd opened (noItem item id kind)
    quiet := fun id row found => absurd found (noRow id row)
    held := fun id row found => absurd found (noRow id row)
    single := fun _ id item _ kind _ opened => absurd opened (noItem item id kind)
    duplicate := fun id row found => absurd found (noRow id row)
    oneDuplicate := fun id item _ opened => absurd opened (noItem item id _)
    noMismatch := fun item id => noItem item id _
    once := fun id row found => absurd found (noRow id row)
    audited := fun _ member => absurd member List.not_mem_nil
    linked := fun _ member => absurd member List.not_mem_nil
    parked := fun id row found => absurd found (noRow id row) }

end

/-- Every binding is committed at most once, and a booked event is final from the moment it is booked. -/
def BooksOnce (policy : Policy) (s : Store) (inputs : List Step) : Prop :=
  (∀ eventId, (run (exec policy) s inputs).audit.count eventId ≤ 1) ∧
  ∀ before after, inputs = before ++ after → ∀ (id : RowId) (row : EventRow),
    (run (exec policy) s before).events[id]? = some row → row.status.isBooked = true →
    ∃ final : EventRow, (run (exec policy) s inputs).events[id]? = some final ∧
      final.eventId = row.eventId ∧ final.status = row.status ∧
      (run (exec policy) s inputs).audit.count row.eventId = (run (exec policy) s before).audit.count row.eventId

theorem count_audit_le_one {policy : Policy} {tidy : Prop} {s : Store} (c : Consistent policy tidy s)
    (eventId : EventId) : s.audit.count eventId ≤ 1 := by
  by_cases member : eventId ∈ s.audit
  · obtain ⟨id, row, found, rfl⟩ := c.audited eventId member
    rw [c.once id row found]
    split_ifs <;> omega
  · rw [List.count_eq_zero_of_not_mem member]
    exact Nat.zero_le 1

/-- What a run keeps, from any state that satisfies the invariant. -/
theorem run_advances {policy : Policy} {tidy : Prop} {s : Store} {inputs : List Step} (c : Consistent policy tidy s)
    (meets : Meets (exec policy) (fun t input => ¬ CertainOnApply policy t input ∧
      (tidy → ∀ event, MayRelease t event input → ClearBelow policy t event.eventId)) s inputs) :
    Consistent policy tidy (run (exec policy) s inputs) ∧ Persists s (run (exec policy) s inputs) := by
  have step : ∀ t input, Consistent policy tidy t → (¬ CertainOnApply policy t input ∧
      (tidy → ∀ event, MayRelease t event input → ClearBelow policy t event.eventId)) →
      Advances policy tidy t (exec policy t input) :=
    fun t input c ok => exec_advances c input ok.1 ok.2
  exact ⟨run_invariant (fun t input c ok => (step t input c ok).consistent) c meets,
    run_relation (fun t input c ok => (step t input c ok).consistent) persists_refl
      (fun _ _ _ first second => first.trans second) (fun t input c ok => (step t input c ok).persists) c meets⟩

/-- Without an Apply that is answered with a certain duplicate, every run books every event at most once. -/
theorem booksOnce_of_uncertain (policy : Policy) (devices : List DeviceRow) (inputs : List Step)
    (meets : Meets (exec policy) (fun s input => ¬ CertainOnApply policy s input) (newShop devices) inputs) :
    BooksOnce policy (newShop devices) inputs := by
  have admitted : Meets (exec policy) (fun s input => ¬ CertainOnApply policy s input ∧
      (False → ∀ event, MayRelease s event input → ClearBelow policy s event.eventId)) (newShop devices) inputs :=
    meets.mono fun _ _ uncertain => ⟨uncertain, False.elim⟩
  have start : Consistent policy False (newShop devices) := newShop_consistent devices
  refine ⟨count_audit_le_one (run_advances start admitted).1, ?_⟩
  rintro before after rfl id row found booked
  obtain ⟨early, late⟩ := meets_append.mp admitted
  have middle := (run_advances start early).1
  obtain ⟨last, persists⟩ := run_advances middle late
  rw [run_append]
  obtain ⟨final, there, record, kept, -⟩ := persists id row found
  have named : final.eventId = row.eventId := by rw [record]
  refine ⟨final, there, named, kept booked, ?_⟩
  have counted := last.once id final there
  rw [named, kept booked] at counted
  rw [counted, middle.once id row found]

/-! A run in which an Apply is answered with a certain duplicate. -/

/-- One offline channel, whose schema accepts everything and finds no offline ids. -/
def openPolicy : Policy where
  classOf _ := .offline
  label _ := none
  recordedSchema _ := some { isCompatible := fun _ => true, parse := fun _ => some [] }
  hasBinding _ := true
  ratesParse _ := true
  maxAttempts := 3
  sha256 content := content
  toleranceMs := 120000
  serverSchemaVersion := 1

def parentEvent : OfflineEvent where
  eventId := 1
  seq := 1
  channel := "sales:process"
  payload := "p"
  actorUserId := 1
  occurredAt := { text := "2026-01-01T10:00:00Z", ms := 0 }
  copyId := 1
  schemaShape := ""
  rates := ""
  created := [("sales", [1001014000000001])]
  dependsOn := []

def childEvent : OfflineEvent :=
  { parentEvent with eventId := 2, seq := 2, payload := "c", created := [], dependsOn := [1] }

def uploadOf (events : List OfflineEvent) : Step :=
  .upload 0 { schemaVersion := 1, pcClock := 0, events := events } { receivedAt := 0 }

def answersBooked : Answers := {}
def answersRefused : Answers := { binding := .refused (some "Insufficient stock") }
def answersCertain : Answers :=
  { binding := .success { duplicate := .skipped { matched := some ("sales", 5) } } }
def answersLikely : Answers := { binding := .success { duplicate := .held {} } }

/-- The parent's refused item stays open when its Apply skips the parent. Marking the duplicate reviewed
settles the parent and leaves the child as a likely duplicate. Applying the refused item again books the
parent and releases the child, whose own item is still open and books it once more. -/
def doubleBooking : List Step :=
  [uploadOf [parentEvent, childEvent], .merge 0 answersRefused, .merge 1 answersBooked,
    .apply 0 1 fun _ => answersCertain, .markReviewed 2 1 fun _ => answersLikely,
    .apply 0 1 fun _ => answersBooked, .apply 3 1 fun _ => answersBooked]

theorem doubleBooking_books_twice : ¬ BooksOnce openPolicy (newShop [{ deviceNo := 1 }]) doubleBooking := by
  intro books
  have twice : (run (exec openPolicy) (newShop [{ deviceNo := 1 }]) doubleBooking).audit.count 2 = 2 := by decide
  have once := books.1 2
  omega

/-- A parent refused, applied, and a child released by it. -/
def plainRecovery : List Step :=
  [uploadOf [parentEvent, childEvent], .merge 0 answersRefused, .merge 1 answersBooked,
    .apply 0 1 fun _ => answersBooked]

theorem plainRecovery_booksOnce : BooksOnce openPolicy (newShop [{ deviceNo := 1 }]) plainRecovery ∧
    (run (exec openPolicy) (newShop [{ deviceNo := 1 }]) plainRecovery).audit = [1, 2] := by
  refine ⟨booksOnce_of_uncertain openPolicy [{ deviceNo := 1 }] plainRecovery ⟨id, id, id, ?_, trivial⟩, by decide⟩
  rintro ⟨_, _, _, _, hook⟩
  cases hook.certain

end Liratek.Offline.ExactlyOnce
