/-! A copy that begins at the first difference. -/

namespace DiffCopy

variable {α : Type} [DecidableEq α] {a b : List α}

/-- The index of the first difference, or the length when there is none. -/
def firstDifference (a b : List α) : Nat := (a.zip b).findIdx fun pair => pair.1 ≠ pair.2

theorem firstDifference_cons (x y : α) (a b : List α) :
    firstDifference (x :: a) (y :: b) = if x = y then firstDifference a b + 1 else 0 := by
  unfold firstDifference
  rw [List.zip_cons_cons, List.findIdx_cons]
  by_cases same : x = y
  · simp [same]
  · simp [same]

theorem firstDifference_le (same : a.length = b.length) : firstDifference a b ≤ b.length := by
  have least : firstDifference a b ≤ (a.zip b).length := List.findIdx_le_length
  rw [List.length_zip] at least
  omega

theorem firstDifference_eq_length (same : a.length = b.length) :
    firstDifference a b = b.length ↔ a = b := by
  induction a generalizing b with
  | nil =>
      have empty : b = [] := List.eq_nil_of_length_eq_zero same.symm
      rw [empty]
      exact iff_of_true rfl rfl
  | cons x a ih =>
      cases b with
      | nil => cases same
      | cons y b =>
          rw [firstDifference_cons]
          by_cases first : x = y
          · rw [if_pos first, first, List.length_cons, Nat.add_right_cancel_iff, List.cons_inj_right]
            exact ih (Nat.succ.inj same)
          · rw [if_neg first]
            exact iff_of_false (Nat.succ_ne_zero _).symm fun equal => first (List.cons.inj equal).1

theorem take_append_drop (same : a.length = b.length) :
    a.take (firstDifference a b) ++ b.drop (firstDifference a b) = b := by
  induction a generalizing b with
  | nil => rfl
  | cons x a ih =>
      cases b with
      | nil => cases same
      | cons y b =>
          rw [firstDifference_cons]
          by_cases first : x = y
          · rw [if_pos first, first, List.take_succ_cons, List.drop_succ_cons, List.cons_append,
              ih (Nat.succ.inj same)]
          · rw [if_neg first]
            rfl

end DiffCopy
