/-! Edge detection with a latch: inputs that are held or not, a latch that remembers the last one,
and the inputs on which it fires. -/

namespace EdgeLatch

variable {ι : Type}

def latched (held : ι → Bool) (latch : Bool) (history : List ι) : Bool :=
  (history.getLast?.map held).getD latch

def fires (held : ι → Bool) (latch : Bool) (input : ι) : Bool := held input && !latch

/-- The input is held, and the one before it, if any, was not. -/
def rises (held : ι → Bool) (history : List ι) (input : ι) : Bool :=
  held input && !history.getLast?.any held

def quiet (signal : List ι → ι → Bool) : (history : List ι) → List ι → List ι
  | _, [] => []
  | history, input :: inputs =>
      if signal history input then quiet signal (history ++ [input]) inputs
      else input :: quiet signal (history ++ [input]) inputs

variable {held : ι → Bool} {latch : Bool} {history : List ι} {input : ι}

@[simp] theorem latched_nil : latched held latch [] = latch := rfl

@[simp] theorem latched_append (history : List ι) (input : ι) :
    latched held latch (history ++ [input]) = held input := by
  simp [latched]

/-- Once there is a history, the first value of the latch is forgotten. -/
theorem fires_eq_rises (history : List ι) (input : ι) (some : history ≠ []) :
    fires held (latched held latch history) input = rises held history input := by
  rcases List.eq_nil_or_concat history with none | ⟨before, last, rfl⟩
  · exact absurd none some
  · simp [fires, rises, latched]

theorem rises_nil (input : ι) : rises held [] input = held input := by
  simp [rises]

theorem fires_nil_iff (input : ι) :
    fires held (latched held latch []) input = rises held [] input ↔
      (latch = true → held input = false) := by
  rw [rises_nil]
  cases latch <;> cases h : held input <;> simp [fires, h]

theorem quiet_append (signal : List ι → ι → Bool) (history first second : List ι) :
    quiet signal history (first ++ second) =
      quiet signal history first ++ quiet signal (history ++ first) second := by
  induction first generalizing history with
  | nil => simp [quiet]
  | cons input first ih =>
      have rest := ih (history ++ [input])
      rw [List.append_assoc] at rest
      by_cases on : signal history input = true
      · simpa [quiet, on] using rest
      · simpa [quiet, on] using rest

theorem quiet_on {signal : List ι → ι → Bool} (on : signal history input = true) :
    quiet signal [] (history ++ [input]) = quiet signal [] history := by
  rw [quiet_append]
  simp [quiet, on]

theorem quiet_off {signal : List ι → ι → Bool} (off : signal history input = false) :
    quiet signal [] (history ++ [input]) = quiet signal [] history ++ [input] := by
  rw [quiet_append]
  simp [quiet, off]

theorem quiet_head {signal : List ι → ι → Bool} {inputs rest : List ι}
    (first : quiet signal [] inputs = input :: rest) :
    ∃ before after, inputs = before ++ input :: after ∧ quiet signal [] before = [] ∧
      signal before input = false := by
  suffices general : ∀ (history : List ι), quiet signal [] history = [] →
      quiet signal history inputs = input :: rest →
      ∃ before after, history ++ inputs = before ++ input :: after ∧
        quiet signal [] before = [] ∧ signal before input = false from
    general [] rfl first
  clear first
  induction inputs with
  | nil =>
      intro history _ none
      cases none
  | cons next inputs ih =>
      intro history silent found
      rw [quiet] at found
      by_cases on : signal history next = true
      · rw [if_pos on] at found
        have longer := ih (history ++ [next]) (by rw [quiet_on on, silent]) found
        rwa [List.append_assoc] at longer
      · rw [if_neg on] at found
        obtain ⟨rfl, -⟩ := List.cons.inj found
        exact ⟨history, inputs, rfl, silent, Bool.eq_false_iff.mpr on⟩

end EdgeLatch
