/-! Runs of a relation together with their history: what may happen next can depend on what has
happened before. -/

namespace History

variable {σ ε : Type} {step : σ → ε → σ → Prop} {allowed : List ε → σ → ε → Prop} {start : σ}

/-- Runs from `start` whose events are allowed by the history before them. -/
inductive Trace (step : σ → ε → σ → Prop) (allowed : List ε → σ → ε → Prop) (start : σ) :
    List ε → σ → Prop
  | nil : Trace step allowed start [] start
  | snoc {events : List ε} {s t : σ} {event : ε} : Trace step allowed start events s →
      allowed events s event → step s event t → Trace step allowed start (events ++ [event]) t

theorem Trace.invariant {events : List ε} {s : σ} (property : List ε → σ → Prop)
    (trace : Trace step allowed start events s) (initial : property [] start)
    (kept : ∀ events s event t, property events s → allowed events s event → step s event t →
      property (events ++ [event]) t) : property events s := by
  induction trace with
  | nil => exact initial
  | snoc trace ok taken ih => exact kept _ _ _ _ ih ok taken

theorem Trace.always {events : List ε} {s : σ} (property : List ε → σ → Prop) (good : ε → Prop)
    (trace : Trace step allowed start events s) (initial : property [] start)
    (kept : ∀ events s event t, property events s → allowed events s event → step s event t →
      property (events ++ [event]) t)
    (implied : ∀ events s event t, property events s → allowed events s event →
      step s event t → good event) : ∀ event ∈ events, good event := by
  induction trace with
  | nil =>
      intro event member
      cases member
  | @snoc events s t last trace ok taken ih =>
      intro event member
      rcases List.mem_append.mp member with before | here
      · exact ih event before
      · rw [List.mem_singleton.mp here]
        exact implied events s last t (trace.invariant property initial kept) ok taken

end History
