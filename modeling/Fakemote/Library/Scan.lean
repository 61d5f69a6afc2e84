/-! A scan over positions that stops at the first one with a result, or with an error. -/

namespace Scan

variable {ε α : Type}

def scan (look : Nat → Except ε (Option α)) : (count index : Nat) → Except ε (Option α)
  | 0, _ => .ok none
  | count + 1, index => do
      match ← look index with
      | some a => return some a
      | none => scan look count (index + 1)

variable {look : Nat → Except ε (Option α)} {count index : Nat}

theorem scan_found {a : α} (count : Nat) (found : look index = .ok (some a)) :
    scan look (count + 1) index = .ok (some a) := by
  rw [scan, found]
  rfl

theorem scan_next (count : Nat) (missed : look index = .ok none) :
    scan look (count + 1) index = scan look count (index + 1) := by
  rw [scan, missed]
  rfl

theorem scan_error {e : ε} (count : Nat) (failed : look index = .error e) :
    scan look (count + 1) index = .error e := by
  rw [scan, failed]
  rfl

theorem scan_none (missed : ∀ k, index ≤ k → k < index + count → look k = .ok none) :
    scan look count index = .ok none := by
  induction count generalizing index with
  | zero => rfl
  | succ count ih =>
      rw [scan_next count (missed index (Nat.le_refl _) (by omega))]
      exact ih fun k low high => missed k (by omega) (by omega)

theorem scan_some {a : α} {k : Nat} (low : index ≤ k) (high : k < index + count)
    (found : look k = .ok (some a)) (missed : ∀ j, index ≤ j → j < k → look j = .ok none) :
    scan look count index = .ok (some a) := by
  induction count generalizing index with
  | zero => omega
  | succ count ih =>
      by_cases here : k = index
      · subst here
        exact scan_found count found
      · rw [scan_next count (missed index (Nat.le_refl _) (by omega))]
        exact ih (by omega) (by omega) fun j first last => missed j (by omega) last

/-- A scan ends in an error exactly when it comes to a position with one. -/
theorem scan_ok_iff : (∃ result, scan look count index = .ok result) ↔
    ∀ k, index ≤ k → k < index + count → (∀ j, index ≤ j → j < k → look j = .ok none) →
      ∃ result, look k = .ok result := by
  induction count generalizing index with
  | zero =>
      refine ⟨fun _ k low high => ?_, fun _ => ⟨none, rfl⟩⟩
      omega
  | succ count ih =>
      constructor
      · intro ⟨result, run⟩ k low high missed
        rcases first : look index with e | _ | a
        · rw [scan_error count first] at run
          cases run
        · by_cases here : k = index
          · exact ⟨none, here ▸ first⟩
          · rw [scan_next count first] at run
            exact ih.mp ⟨result, run⟩ k (by omega) (by omega) fun j low => missed j (by omega)
        · by_cases here : k = index
          · exact ⟨some a, here ▸ first⟩
          · cases first.symm.trans (missed index (Nat.le_refl _) (by omega))
      · intro readable
        obtain ⟨result, first⟩ := readable index (Nat.le_refl _) (by omega) fun j low high => by
          omega
        cases result with
        | some a => exact ⟨some a, scan_found count first⟩
        | none =>
            rw [scan_next count first]
            apply ih.mpr
            intro k low high missed
            apply readable k (by omega) (by omega)
            intro j least most
            by_cases here : j = index
            · exact here ▸ first
            · exact missed j (by omega) most

end Scan
