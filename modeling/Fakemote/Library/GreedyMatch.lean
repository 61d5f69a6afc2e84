import Mathlib.Data.List.Basic

/-! Counting through a list how many entries of a sequence have been met in their order. -/

namespace GreedyMatch

variable {α : Type} [DecidableEq α]

/-- `met` entries of the pattern have been met; each entry of the list is compared with the next
one only. -/
def countFrom (pattern : Nat → α) : (met : Nat) → List α → Nat
  | met, [] => met
  | met, a :: rest =>
      countFrom pattern (if a = pattern met then met + 1 else met) rest

theorem met_le_countFrom (pattern : Nat → α) (list : List α) :
    ∀ met, met ≤ countFrom pattern met list := by
  induction list with
  | nil =>
      intro met
      exact Nat.le_refl met
  | cons a rest ih =>
      intro met
      rw [countFrom]
      split
      · exact Nat.le_of_succ_le (ih (met + 1))
      · exact ih met

/-- The count reaches `k` more exactly when the next `k` entries of the pattern occur in order. -/
theorem le_countFrom_iff (pattern : Nat → α) (list : List α) : ∀ met k,
    met + k ≤ countFrom pattern met list ↔ ((List.range' met k).map pattern).Sublist list := by
  induction list with
  | nil =>
      intro met k
      rw [countFrom, List.sublist_nil, List.map_eq_nil_iff, List.range'_eq_nil_iff]
      omega
  | cons a rest ih =>
      intro met k
      cases k with
      | zero =>
          simp only [Nat.add_zero, List.range'_zero, List.map_nil, List.nil_sublist, iff_true]
          exact met_le_countFrom pattern (a :: rest) met
      | succ k =>
          rw [countFrom, List.range'_succ, List.map_cons]
          by_cases next : a = pattern met
          · rw [if_pos next, next, List.cons_sublist_cons, ← ih (met + 1) k]
            omega
          · rw [if_neg next, ih met (k + 1), List.range'_succ, List.map_cons]
            constructor
            · exact fun found => found.cons a
            · intro found
              rcases List.sublist_cons_iff.mp found with later | ⟨rest', same, -⟩
              · exact later
              · exact absurd (List.head_eq_of_cons_eq same).symm next

end GreedyMatch
