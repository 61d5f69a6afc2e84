import Mathlib.Data.List.Perm.Basic

/-! Tables searched from the front: replacing the first entry that matches. -/

namespace FirstMatch

variable {α : Type}

def replaceFirst (p : α → Bool) (f : α → α) : List α → List α
  | [] => []
  | a :: rest => if p a then f a :: rest else a :: replaceFirst p f rest

@[simp] theorem replaceFirst_length (p : α → Bool) (f : α → α) (l : List α) :
    (replaceFirst p f l).length = l.length := by
  induction l with
  | nil => rfl
  | cons a rest ih =>
      unfold replaceFirst
      split
      · rfl
      · simp [ih]

theorem replaceFirst_split {p : α → Bool} (f : α → α) {l : List α} (matched : l.any p = true) :
    ∃ pre a post, l = pre ++ a :: post ∧ p a = true ∧ (∀ b ∈ pre, p b = false) ∧
      replaceFirst p f l = pre ++ f a :: post := by
  induction l with
  | nil => simp at matched
  | cons a rest ih =>
      by_cases first : p a = true
      · exact ⟨[], a, rest, rfl, first, by simp, by simp [replaceFirst, first]⟩
      · simp only [List.any_cons, first, Bool.false_or] at matched
        obtain ⟨pre, b, post, split, holds, before, replaced⟩ := ih matched
        refine ⟨a :: pre, b, post, by rw [split]; rfl, holds, ?_, ?_⟩
        · intro c member
          rcases List.mem_cons.mp member with rfl | later
          · simpa using first
          · exact before c later
        · simp [replaceFirst, first, replaced]

theorem filter_replaceFirst_add {q : α → Bool} {f : α → α} {l : List α}
    (matched : l.any (fun a => !q a) = true) (inside : ∀ a, q (f a) = true) :
    ∃ a ∈ l, q a = false ∧ ((replaceFirst (fun a => !q a) f l).filter q).Perm
      (f a :: l.filter q) := by
  obtain ⟨pre, a, post, split, outside, -, replaced⟩ := replaceFirst_split f matched
  have out : q a = false := by simpa using outside
  refine ⟨a, by rw [split]; simp, out, ?_⟩
  rw [replaced, split]
  simp only [List.filter_append, List.filter_cons, inside, out, if_true, Bool.false_eq_true,
    if_false]
  exact List.perm_middle

theorem filter_replaceFirst_remove {q r : α → Bool} {f : α → α} {l : List α}
    (matched : l.any (fun a => q a && r a) = true) (outside : ∀ a, q (f a) = false) :
    ∃ a, l.find? (fun a => q a && r a) = some a ∧
      (l.filter q).Perm (a :: (replaceFirst (fun a => q a && r a) f l).filter q) := by
  obtain ⟨pre, a, post, split, holds, before, replaced⟩ := replaceFirst_split f matched
  have found : l.find? (fun a => q a && r a) = some a := by
    rw [List.find?_eq_some_iff_append]
    exact ⟨holds, pre, post, split, fun b member => by simp [before b member]⟩
  refine ⟨a, found, ?_⟩
  have inside : q a = true := (Bool.and_eq_true_iff.mp holds).1
  rw [replaced, split]
  simp only [List.filter_append, List.filter_cons, outside, inside, if_true, Bool.false_eq_true,
    if_false]
  exact List.perm_middle

end FirstMatch
