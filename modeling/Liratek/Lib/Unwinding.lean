import Mathlib.Data.List.Basic

/-! Taking the entries of a log back, the newest first. -/

namespace Liratek.Lib.Unwinding

variable {Entry State : Type*} (back : Entry → State → State)

/-- The log has its newest entry last. -/
def unwound (log : List Entry) (s : State) : State :=
  log.foldr back s

variable {back}

theorem unwound_append (older newer : List Entry) (s : State) :
    unwound back (older ++ newer) s = unwound back older (unwound back newer s) :=
  List.foldr_append

/-- A new entry that takes back its own step changes nothing. -/
theorem unwound_concat (log : List Entry) {entry : Entry} {s s' : State} (inverse : back entry s' = s) :
    unwound back (log ++ [entry]) s' = unwound back log s := by
  rw [unwound_append, ← inverse]
  rfl

theorem unwound_idle {log : List Entry} (idle : ∀ entry ∈ log, ∀ s, back entry s = s) (s : State) :
    unwound back log s = s := by
  induction log with
  | nil => rfl
  | cons entry rest ih =>
    change back entry (unwound back rest s) = s
    rw [idle entry List.mem_cons_self, ih fun e member => idle e (List.mem_cons_of_mem entry member)]

/-- What commutes with every entry commutes with the log. -/
theorem unwound_commute {log : List Entry} {f : State → State}
    (commutes : ∀ entry ∈ log, ∀ s, back entry (f s) = f (back entry s)) (s : State) :
    unwound back log (f s) = f (unwound back log s) := by
  induction log with
  | nil => rfl
  | cons entry rest ih =>
    change back entry (unwound back rest (f s)) = f (back entry (unwound back rest s))
    rw [ih fun e member => commutes e (List.mem_cons_of_mem entry member), commutes entry List.mem_cons_self]

/-- An entry that restores a stored state hides everything newer. -/
theorem unwound_reset {log : List Entry} {entry : Entry} (member : entry ∈ log) {stored : State}
    (resets : ∀ s, back entry s = stored) (s s' : State) : unwound back log s = unwound back log s' := by
  obtain ⟨older, newer, rfl⟩ := List.append_of_mem member
  rw [unwound_append, unwound_append]
  congr 1
  exact (resets _).trans (resets _).symm

/-- An entry in the middle is taken out. -/
theorem unwound_replace (older newer : List Entry) {entry entry' : Entry} {s s' : State}
    (same : back entry' (unwound back newer s') = back entry (unwound back newer s)) :
    unwound back (older ++ entry' :: newer) s' = unwound back (older ++ entry :: newer) s := by
  rw [unwound_append, unwound_append]
  congr 1

end Liratek.Lib.Unwinding
