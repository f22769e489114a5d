import Mathlib.Data.List.Basic

/-! Runs of a deterministic step function, with conditions on the steps taken. -/

namespace Liratek.Lib.Runs

variable {State Input : Type*} (step : State → Input → State)

/-- The state after the inputs, taken in order. -/
def run (s : State) (inputs : List Input) : State :=
  inputs.foldl step s

/-- Every step of the run meets `ok` in the state it is taken from. -/
def Meets (ok : State → Input → Prop) : State → List Input → Prop
  | _, [] => True
  | s, input :: rest => ok s input ∧ Meets ok (step s input) rest

instance decidableMeets {ok : State → Input → Prop} [∀ s input, Decidable (ok s input)] :
    (s : State) → (inputs : List Input) → Decidable (Meets step ok s inputs)
  | _, [] => .isTrue trivial
  | s, input :: rest => @instDecidableAnd _ _ _ (decidableMeets (step s input) rest)

variable {step}

@[simp] theorem run_nil (s : State) : run step s [] = s := rfl

@[simp] theorem run_cons (s : State) (input : Input) (rest : List Input) :
    run step s (input :: rest) = run step (step s input) rest := rfl

theorem run_append (s : State) (first second : List Input) :
    run step s (first ++ second) = run step (run step s first) second :=
  List.foldl_append

theorem meets_append {ok : State → Input → Prop} {s : State} {first second : List Input} :
    Meets step ok s (first ++ second) ↔ Meets step ok s first ∧ Meets step ok (run step s first) second := by
  induction first generalizing s with
  | nil => simp [Meets]
  | cons input rest ih => simp only [List.cons_append, Meets, ih, run_cons, and_assoc]

theorem Meets.mono {ok ok' : State → Input → Prop} (weaker : ∀ s input, ok s input → ok' s input) {s : State}
    {inputs : List Input} (meets : Meets step ok s inputs) : Meets step ok' s inputs := by
  induction inputs generalizing s with
  | nil => trivial
  | cons input rest ih => exact ⟨weaker s input meets.1, ih meets.2⟩

/-- Inputs that are admitted in any state. -/
theorem meets_of_forall {ok : Input → Prop} {inputs : List Input} (each : ∀ input ∈ inputs, ok input) (s : State) :
    Meets step (fun _ input => ok input) s inputs := by
  induction inputs generalizing s with
  | nil => trivial
  | cons input rest ih =>
    obtain ⟨first, others⟩ := List.forall_mem_cons.mp each
    exact ⟨first, ih others (step s input)⟩

/-- What every admitted step preserves, every run of admitted steps preserves. -/
theorem run_invariant {ok : State → Input → Prop} {inv : State → Prop}
    (keeps : ∀ s input, inv s → ok s input → inv (step s input)) {s : State} {inputs : List Input}
    (start : inv s) (meets : Meets step ok s inputs) : inv (run step s inputs) := by
  induction inputs generalizing s with
  | nil => exact start
  | cons input rest ih => exact ih (keeps s input start meets.1) meets.2

/-- A reflexive and transitive relation that every admitted step respects holds across a run. -/
theorem run_relation {ok : State → Input → Prop} {inv : State → Prop} {rel : State → State → Prop}
    (keeps : ∀ s input, inv s → ok s input → inv (step s input)) (refl : ∀ s, rel s s)
    (trans : ∀ a b c, rel a b → rel b c → rel a c)
    (relates : ∀ s input, inv s → ok s input → rel s (step s input)) {s : State} {inputs : List Input}
    (start : inv s) (meets : Meets step ok s inputs) : rel s (run step s inputs) := by
  induction inputs generalizing s with
  | nil => exact refl s
  | cons input rest ih =>
    exact trans _ _ _ (relates s input start meets.1) (ih (keeps s input start meets.1) meets.2)

/-- What every step preserves, every run preserves. -/
theorem run_always (inv : State → Prop) (keeps : ∀ s input, inv s → inv (step s input)) {s : State} (start : inv s)
    (inputs : List Input) : inv (run step s inputs) := by
  induction inputs generalizing s with
  | nil => exact start
  | cons input rest ih => exact ih (keeps s input start)

/-- A preorder that every step respects holds across a run. -/
theorem run_grows (rel : State → State → Prop) (refl : ∀ s, rel s s) (trans : ∀ a b c, rel a b → rel b c → rel a c)
    (relates : ∀ s input, rel s (step s input)) (s : State) (inputs : List Input) : rel s (run step s inputs) := by
  induction inputs generalizing s with
  | nil => exact refl s
  | cons input rest ih => exact trans _ _ _ (relates s input) (ih _)

end Liratek.Lib.Runs
