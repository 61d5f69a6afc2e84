/-! A register that some events of a history set and the others leave alone. -/

namespace LastSet

variable {α β : Type} {sets : α → Option β} {initial : β} {history : List α} {event : α}

/-- The value of the last event that sets the register. -/
def value (sets : α → Option β) (initial : β) (history : List α) : β :=
  ((history.filterMap sets).getLast?).getD initial

theorem value_snoc :
    value sets initial (history ++ [event]) = (sets event).getD (value sets initial history) := by
  unfold value
  cases set : sets event with
  | none => simp [set]
  | some b => simp [set]

end LastSet
