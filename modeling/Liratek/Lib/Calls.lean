import Mathlib.Tactic.TypeStar

/-! Calls that may be refused. A refused call is rolled back. -/

namespace Liratek.Lib.Calls

section
variable {α β ε : Type*}

theorem bind_ok {x : Except ε α} {f : α → Except ε β} {r : β} (done : x.bind f = .ok r) :
    ∃ a, x = .ok a ∧ f a = .ok r := by
  cases x with
  | error refused => cases done
  | ok a => exact ⟨a, rfl, done⟩

theorem map_ok {x : Except ε α} {f : α → β} {r : β} (done : x.map f = .ok r) : ∃ a, x = .ok a ∧ f a = r := by
  cases x with
  | error refused => cases done
  | ok a => exact ⟨a, rfl, Except.ok.inj done⟩

def check (refused : Bool) (error : ε) : Except ε Unit :=
  if refused then .error error else .ok ()

theorem check_ok {refused : Bool} {error : ε} {u : Unit} (done : check refused error = .ok u) : refused = false := by
  cases refused with
  | false => rfl
  | true => cases done

def found (row : Option α) (error : ε) : Except ε α :=
  match row with
  | none => .error error
  | some a => .ok a

theorem found_ok {row : Option α} {error : ε} {a : α} (done : found row error = .ok a) : row = some a := by
  cases row with
  | none => cases done
  | some there => exact congrArg some (Except.ok.inj done)

theorem mapError_ok {ε' : Type*} {x : Except ε α} {f : ε → ε'} {a : α} (done : x.mapError f = .ok a) : x = .ok a := by
  cases x with
  | error refused => cases done
  | ok there => exact congrArg _ (Except.ok.inj done)

/-- The results of one call for each of `items`. -/
def gather (call : α → Except ε β) : List α → Except ε (List β)
  | [] => .ok []
  | item :: rest => (call item).bind fun first => (gather call rest).map fun others => first :: others

theorem gather_mem {call : α → Except ε β} {items : List α} {results : List β} (done : gather call items = .ok results)
    {item : α} (member : item ∈ items) : ∃ result ∈ results, call item = .ok result := by
  induction items generalizing results with
  | nil => cases member
  | cons head rest ih =>
    obtain ⟨first, called, tail⟩ := bind_ok done
    obtain ⟨others, gathered, rfl⟩ := map_ok tail
    rcases List.mem_cons.mp member with rfl | later
    · exact ⟨first, List.mem_cons_self, called⟩
    · obtain ⟨result, found, called⟩ := ih gathered later
      exact ⟨result, List.mem_cons_of_mem _ found, called⟩

/-- Where each call that is done gives what `f` gives. -/
theorem gather_eq {call : α → Except ε β} {f : α → β} {items : List α} {results : List β} (done : gather call items = .ok results)
    (each : ∀ item ∈ items, ∀ result, call item = .ok result → result = f item) : results = items.map f := by
  induction items generalizing results with
  | nil =>
    cases done
    rfl
  | cons head rest ih =>
    obtain ⟨first, called, tail⟩ := bind_ok done
    obtain ⟨others, gathered, rfl⟩ := map_ok tail
    obtain ⟨eachFirst, eachRest⟩ := List.forall_mem_cons.mp each
    rw [List.map_cons, ← eachFirst first called, ← ih gathered eachRest]

theorem gather_ok {call : α → Except ε β} {f : α → β} {items : List α} (done : ∀ item ∈ items, call item = .ok (f item)) :
    gather call items = .ok (items.map f) := by
  induction items with
  | nil => rfl
  | cons head rest ih =>
    rw [gather, done head List.mem_cons_self, ih fun item member => done item (List.mem_cons_of_mem _ member)]
    rfl

end

section
variable {ε State : Type*}

/-- The state a call leaves. -/
def leaves (s : State) : Except ε State → State
  | .ok s' => s'
  | .error _ => s

theorem leaves_invariant {inv : State → Prop} {s : State} {call : Except ε State} (start : inv s)
    (keeps : ∀ s', call = .ok s' → inv s') : inv (leaves s call) := by
  cases call with
  | error refused => exact start
  | ok s' => exact keeps s' rfl

/-- One call for each of `items`, in order. The first refusal stops them all. -/
def each {α : Type*} (call : State → α → Except ε State) : State → List α → Except ε State
  | s, [] => .ok s
  | s, item :: rest => (call s item).bind fun next => each call next rest

theorem each_cons {α : Type*} {call : State → α → Except ε State} {s s' : State} {item : α} {rest : List α}
    (done : each call s (item :: rest) = .ok s') : ∃ next, call s item = .ok next ∧ each call next rest = .ok s' :=
  bind_ok done

/-- The call for one of `items`, between those before it and those after it. -/
theorem each_at {α : Type*} {call : State → α → Except ε State} {s s' : State} {items : List α}
    (done : each call s items = .ok s') {item : α} (member : item ∈ items) :
    ∃ before after reached left, items = before ++ item :: after ∧ each call s before = .ok reached ∧
      call reached item = .ok left ∧ each call left after = .ok s' := by
  induction items generalizing s with
  | nil => cases member
  | cons head rest ih =>
    obtain ⟨next, first, others⟩ := each_cons done
    by_cases same : item = head
    · subst same
      exact ⟨[], rest, s, next, rfl, rfl, first, others⟩
    · obtain ⟨before, after, reached, left, rfl, earlier, called, later⟩ :=
        ih others ((List.mem_cons.mp member).resolve_left same)
      refine ⟨head :: before, after, reached, left, rfl, ?_, called, later⟩
      rw [each, first]
      exact earlier

/-- What each call keeps, the whole of them keeps. -/
theorem each_invariant {α : Type*} {call : State → α → Except ε State} {inv : State → Prop} {items : List α}
    (keeps : ∀ item ∈ items, ∀ s s', inv s → call s item = .ok s' → inv s') {s s' : State} (start : inv s)
    (done : each call s items = .ok s') : inv s' := by
  induction items generalizing s with
  | nil =>
    cases done
    exact start
  | cons item rest ih =>
    obtain ⟨next, first, others⟩ := each_cons done
    obtain ⟨keepsFirst, keepsRest⟩ := List.forall_mem_cons.mp keeps
    exact ih keepsRest (keepsFirst s next start first) others

end

end Liratek.Lib.Calls
