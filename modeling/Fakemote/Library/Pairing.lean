import Mathlib.Logic.Function.Basic

/-! Partial pointers in two directions: one side backed by the other, both sides mutual, and what
linking and unlinking a pair does to them. -/

namespace Pairing

open Function

variable {α β : Type} {left : α → Option β} {right : β → Option α} {a : α} {b : β}

def Backed (left : α → Option β) (right : β → Option α) : Prop :=
  ∀ a b, right b = some a → left a = some b

def Mutual (left : α → Option β) (right : β → Option α) : Prop :=
  ∀ a b, left a = some b ↔ right b = some a

theorem mutual_iff : Mutual left right ↔ Backed left right ∧ Backed right left := by
  constructor
  · intro paired
    exact ⟨fun a b linked => (paired a b).mpr linked, fun b a linked => (paired a b).mp linked⟩
  · rintro ⟨back, forth⟩ a b
    exact ⟨forth b a, back a b⟩

theorem Mutual.injective (paired : Mutual left right) {first second : α}
    (one : left first = some b) (two : left second = some b) : first = second := by
  have answered := (paired first b).mp one
  rw [(paired second b).mp two] at answered
  exact (Option.some.inj answered).symm

theorem Backed.clear [DecidableEq β] (backed : Backed left right) :
    Backed left (update right b none) := by
  intro x y linked
  by_cases same : y = b
  · subst same
    rw [update_self] at linked
    cases linked
  · rw [update_of_ne same] at linked
    exact backed x y linked

theorem Backed.forget [DecidableEq α] (backed : Backed left right)
    (alone : ∀ y, right y ≠ some a) : Backed (update left a none) right := by
  intro x y linked
  have other : x ≠ a := by
    rintro rfl
    exact alone y linked
  rw [update_of_ne other]
  exact backed x y linked

variable [DecidableEq α] [DecidableEq β]

theorem Backed.link (backed : Backed left right) (free : left a = none) :
    Backed (update left a (some b)) (update right b (some a)) := by
  intro x y linked
  by_cases sameRight : y = b
  · subst sameRight
    rw [update_self, Option.some.injEq] at linked
    rw [← linked, update_self]
  · rw [update_of_ne sameRight] at linked
    have answered := backed x y linked
    have other : x ≠ a := by
      rintro rfl
      rw [free] at answered
      cases answered
    rw [update_of_ne other, answered]

theorem Backed.unlink (backed : Backed left right) (linked : left a = some b) :
    Backed (update left a none) (update right b none) := by
  apply backed.clear.forget
  intro y pointing
  have answered := backed.clear a y pointing
  rw [linked, Option.some.injEq] at answered
  subst answered
  rw [update_self] at pointing
  cases pointing

theorem Mutual.link (paired : Mutual left right) (freeLeft : left a = none)
    (freeRight : right b = none) :
    Mutual (update left a (some b)) (update right b (some a)) := by
  obtain ⟨back, forth⟩ := mutual_iff.mp paired
  exact mutual_iff.mpr ⟨back.link freeLeft, forth.link freeRight⟩

theorem Mutual.unlink (paired : Mutual left right) (linked : left a = some b) :
    Mutual (update left a none) (update right b none) := by
  obtain ⟨back, forth⟩ := mutual_iff.mp paired
  exact mutual_iff.mpr ⟨back.unlink linked, forth.unlink ((paired a b).mp linked)⟩

end Pairing
