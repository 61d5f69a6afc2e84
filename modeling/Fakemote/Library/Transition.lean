/-! Runs of a step function that may refuse an input: reachability under a condition on every
step, the invariant rule, history variables and executable runs. -/

namespace Transition

variable {σ γ ι ε : Type}

inductive Reachable (step : σ → ι → Except ε σ) (allowed : σ → ι → Prop) (start : σ) : σ → Prop
  | start : Reachable step allowed start start
  | next {s t : σ} {input : ι} : Reachable step allowed start s → allowed s input →
      step s input = .ok t → Reachable step allowed start t

theorem Reachable.invariant {step : σ → ι → Except ε σ} {allowed : σ → ι → Prop} {start s : σ}
    (property : σ → Prop) (reached : Reachable step allowed start s) (initial : property start)
    (kept : ∀ s t input, property s → allowed s input → step s input = .ok t → property t) :
    property s := by
  induction reached with
  | start => exact initial
  | next _ ok run ih => exact kept _ _ _ ih ok run

theorem Reachable.weaken {step : σ → ι → Except ε σ} {allowed wider : σ → ι → Prop} {start s : σ}
    (reached : Reachable step allowed start s) (implied : ∀ s i, allowed s i → wider s i) :
    Reachable step wider start s := by
  induction reached with
  | start => exact .start
  | next _ ok run ih => exact .next ih (implied _ _ ok) run

theorem Reachable.trans {step : σ → ι → Except ε σ} {allowed : σ → ι → Prop} {start s t : σ}
    (first : Reachable step allowed start s) (second : Reachable step allowed s t) :
    Reachable step allowed start t := by
  induction second with
  | start => exact first
  | next _ ok run ih => exact .next ih ok run

/-- The step function with a history variable that `record` updates from each step. -/
def observed (step : σ → ι → Except ε σ) (record : γ → σ → ι → σ → γ) :
    σ × γ → ι → Except ε (σ × γ) := fun s input =>
  match step s.1 input with
  | .ok t => .ok (t, record s.2 s.1 input t)
  | .error e => .error e

theorem observed_ok {step : σ → ι → Except ε σ} {record : γ → σ → ι → σ → γ} {s u : σ × γ}
    {input : ι} : observed step record s input = .ok u ↔
      ∃ t, step s.1 input = .ok t ∧ u = (t, record s.2 s.1 input t) := by
  unfold observed
  cases run : step s.1 input with
  | error e => simp
  | ok t =>
      simp only [Except.ok.injEq]
      constructor
      · rintro rfl
        exact ⟨t, rfl, rfl⟩
      · rintro ⟨t, rfl, rfl⟩
        rfl

/-- Run a list of inputs, stopping at the first that is not allowed or that faults. -/
def execute (step : σ → ι → Except ε σ) (allowed : σ → ι → Bool) : σ → List ι → Option σ
  | s, [] => some s
  | s, input :: inputs =>
      if allowed s input then
        match step s input with
        | .ok t => execute step allowed t inputs
        | .error _ => none
      else none

theorem reachable_execute {step : σ → ι → Except ε σ} {allowed : σ → ι → Prop}
    {check : σ → ι → Bool} (sound : ∀ s i, check s i = true → allowed s i) {start s t : σ}
    {inputs : List ι} (reached : Reachable step allowed start s)
    (run : execute step check s inputs = some t) : Reachable step allowed start t := by
  induction inputs generalizing s with
  | nil =>
      cases run
      exact reached
  | cons input inputs ih =>
      unfold execute at run
      split at run
      case isFalse => cases run
      case isTrue ok =>
          split at run
          case h_1 u step => exact ih (.next reached (sound _ _ ok) step) run
          case h_2 => cases run

theorem exists_of_execute {step : σ → ι → Except ε σ} {allowed : σ → ι → Prop}
    [∀ s i, Decidable (allowed s i)] {start : σ} {check : σ → Bool} (inputs : List ι)
    (executed : (execute step (fun s i => decide (allowed s i)) start inputs).any check = true) :
    ∃ s, Reachable step allowed start s ∧ check s = true := by
  rcases result : execute step (fun s i => decide (allowed s i)) start inputs with _ | s
  · rw [result] at executed
    cases executed
  · rw [result] at executed
    exact ⟨s, reachable_execute (fun _ _ ok => of_decide_eq_true ok) .start result, executed⟩

-- Conditions on the members of a list or an option are decided by going through these, not through
-- their type.

instance decidableForallMemList {α : Type} (p : α → Prop) [DecidablePred p] (xs : List α) :
    Decidable (∀ a ∈ xs, p a) :=
  List.decidableBAll p xs

instance decidableForallMemOption {α : Type} (p : α → Prop) [DecidablePred p] (x : Option α) :
    Decidable (∀ a ∈ x, p a) :=
  Option.decidableForallMem x

theorem exists_of_step {result : Except ε σ} {check : σ → Bool}
    (checked : result.toOption.any check = true) : ∃ t, result = .ok t ∧ check t = true := by
  cases result with
  | error e => cases checked
  | ok t => exact ⟨t, rfl, checked⟩

def faultOf : Except ε σ → Option ε
  | .error e => some e
  | .ok _ => none

theorem faultOf_eq_some {result : Except ε σ} {e : ε} :
    faultOf result = some e ↔ result = .error e := by
  cases result <;> simp [faultOf]

end Transition
