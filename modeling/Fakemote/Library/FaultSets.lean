import Fakemote.Library.Program

/-! Which faults a program can stop with: for computations without a state, and for executions from
a state that is known. -/

namespace Program

variable {σ τ ε α β : Type} {F : ε → Prop}

def ErrorsIn (F : ε → Prop) (x : Except ε α) : Prop := ∀ e, x = .error e → F e

def RaisesAt (F : ε → Prop) (m : Prog σ ε α) (s : σ) : Prop := ErrorsIn F (m s)

namespace ErrorsIn

theorem ok (a : α) : ErrorsIn F (.ok a) := nofun

theorem error {e : ε} (raised : F e) : ErrorsIn F (.error e : Except ε α) := by
  intro f same
  cases same
  exact raised

theorem bind {x : Except ε α} {f : α → Except ε β} (first : ErrorsIn F x)
    (rest : ∀ a, x = .ok a → ErrorsIn F (f a)) : ErrorsIn F (x >>= f) := by
  cases x with
  | error e => exact error (first e rfl)
  | ok a => exact rest a rfl

theorem ite {condition : Prop} [Decidable condition] {x y : Except ε α} (yes : ErrorsIn F x)
    (no : ErrorsIn F y) : ErrorsIn F (if condition then x else y) := by
  split
  · exact yes
  · exact no

end ErrorsIn

namespace Raises

theorem lift_bind {x : Except ε α} {f : α → Prog σ ε β} (first : ErrorsIn F x)
    (rest : ∀ a, x = .ok a → Raises F (f a)) : Raises F (liftM x >>= f) := by
  intro s e run
  rcases bind_error.mp run with fault | ⟨a, t, loaded, fault⟩
  · exact first e (lift_error.mp fault)
  · exact rest a (lift_ok.mp loaded).1 t e fault

theorem bind_gives {P : α → Prop} {m : Prog σ ε α} {f : α → Prog σ ε β} (first : Raises F m)
    (gives : ∀ s a t, m s = .ok (a, t) → P a) (rest : ∀ a, P a → Raises F (f a)) :
    Raises F (m >>= f) := by
  intro s e run
  rcases bind_error.mp run with fault | ⟨a, t, done, fault⟩
  · exact first s e fault
  · exact rest a (gives s a t done) t e fault

theorem at_state {m : Prog σ ε α} (raises : Raises F m) (s : σ) : RaisesAt F m s :=
  raises s

end Raises

namespace RaisesAt

theorem bind {m : Prog σ ε α} {f : α → Prog σ ε β} {s : σ} (first : RaisesAt F m s)
    (rest : ∀ a t, m s = .ok (a, t) → RaisesAt F (f a) t) : RaisesAt F (m >>= f) s := by
  intro e run
  rcases bind_error.mp run with fault | ⟨a, t, done, fault⟩
  · exact first e fault
  · exact rest a t done e fault

theorem get_bind {f : σ → Prog σ ε β} {s : σ} (rest : RaisesAt F (f s) s) :
    RaisesAt F (get >>= f) s :=
  bind (Raises.get s) fun _ _ done => by
    cases done
    exact rest

theorem ite {condition : Prop} [Decidable condition] {m n : Prog σ ε α} {s : σ}
    (yes : condition → RaisesAt F m s) (no : ¬ condition → RaisesAt F n s) :
    RaisesAt F (if condition then m else n) s := by
  by_cases holds : condition
  · rw [if_pos holds]
    exact yes holds
  · rw [if_neg holds]
    exact no holds

theorem when {condition : Prop} [Decidable condition] {m : Prog σ ε Unit} {s : σ}
    (yes : condition → RaisesAt F m s) : RaisesAt F (when condition m) s :=
  ite yes fun _ => (Raises.pure ()).at_state s

end RaisesAt

end Program
