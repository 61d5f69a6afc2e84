import Mathlib.Logic.Relation

/-! Stateful programs that can stop with a fault: what an execution that ends tells about its
parts, relations that every execution respects, and the faults a program can raise. -/

namespace Program

abbrev Prog (σ ε α : Type) := StateT σ (Except ε) α

variable {σ τ ε α β : Type}

def when (condition : Prop) [Decidable condition] (action : Prog σ ε Unit) : Prog σ ε Unit :=
  if condition then action else pure ()

def zoom (view : σ → τ) (put : σ → τ → σ) (m : Prog τ ε α) : Prog σ ε α := fun s =>
  match m (view s) with
  | .ok (a, t) => .ok (a, put s t)
  | .error e => .error e

theorem bind_ok {m : Prog σ ε α} {f : α → Prog σ ε β} {s u : σ} {b : β} :
    (m >>= f) s = .ok (b, u) ↔ ∃ a t, m s = .ok (a, t) ∧ f a t = .ok (b, u) := by
  change (m s >>= fun p => f p.1 p.2) = _ ↔ _
  cases run : m s with
  | error e => simp [bind, Except.bind]
  | ok p =>
      simp only [bind, Except.bind, Except.ok.injEq]
      constructor
      · intro rest
        exact ⟨p.1, p.2, rfl, rest⟩
      · rintro ⟨a, t, rfl, rest⟩
        exact rest

theorem bind_error {m : Prog σ ε α} {f : α → Prog σ ε β} {s : σ} {e : ε} :
    (m >>= f) s = .error e ↔
      m s = .error e ∨ ∃ a t, m s = .ok (a, t) ∧ f a t = .error e := by
  change (m s >>= fun p => f p.1 p.2) = _ ↔ _
  cases run : m s with
  | error e => simp [bind, Except.bind]
  | ok p =>
      simp only [bind, Except.bind, Except.ok.injEq, reduceCtorEq, false_or]
      constructor
      · intro rest
        exact ⟨p.1, p.2, rfl, rest⟩
      · rintro ⟨a, t, rfl, rest⟩
        exact rest

theorem bind_run {m : Prog σ ε α} {f : α → Prog σ ε β} {s t : σ} {a : α}
    (run : m s = .ok (a, t)) : (m >>= f) s = f a t := by
  change (m s >>= fun p => f p.1 p.2) = _
  simp [run, bind, Except.bind]

@[simp] theorem pure_run (a : α) (s : σ) : (pure a : Prog σ ε α) s = .ok (a, s) := rfl

@[simp] theorem get_run (s : σ) : (get : Prog σ ε σ) s = .ok (s, s) := rfl

@[simp] theorem modify_run (f : σ → σ) (s : σ) :
    (modify f : Prog σ ε PUnit) s = .ok (⟨⟩, f s) := rfl

@[simp] theorem throw_run (e : ε) (s : σ) : (throw e : Prog σ ε α) s = .error e := rfl

@[simp] theorem lift_run_ok (a : α) (s : σ) :
    (liftM (.ok a : Except ε α) : Prog σ ε α) s = .ok (a, s) := rfl

@[simp] theorem lift_run_error (e : ε) (s : σ) :
    (liftM (.error e : Except ε α) : Prog σ ε α) s = .error e := rfl

theorem lift_ok {x : Except ε α} {s t : σ} {a : α} :
    (liftM x : Prog σ ε α) s = .ok (a, t) ↔ x = .ok a ∧ s = t := by
  cases x <;> simp

theorem lift_error {x : Except ε α} {s : σ} {e : ε} :
    (liftM x : Prog σ ε α) s = .error e ↔ x = .error e := by
  cases x <;> simp

theorem lift_bind_ok {x : Except ε α} {f : α → Prog σ ε β} {s u : σ} {b : β} :
    ((liftM x : Prog σ ε α) >>= f) s = .ok (b, u) ↔ ∃ a, x = .ok a ∧ f a s = .ok (b, u) := by
  cases x with
  | ok a =>
      rw [bind_run (lift_run_ok a s)]
      simp
  | error e =>
      simp only [reduceCtorEq, false_and, exists_false, iff_false]
      intro run
      obtain ⟨a, t, first, -⟩ := bind_ok.mp run
      cases first

theorem zoom_ok {view : σ → τ} {put : σ → τ → σ} {m : Prog τ ε α} {s u : σ} {a : α} :
    zoom view put m s = .ok (a, u) ↔ ∃ t, m (view s) = .ok (a, t) ∧ u = put s t := by
  unfold zoom
  cases run : m (view s) with
  | error e => simp
  | ok p =>
      simp only [Except.ok.injEq, Prod.mk.injEq]
      constructor
      · rintro ⟨rfl, rfl⟩
        exact ⟨p.2, rfl, rfl⟩
      · rintro ⟨t, rfl, rfl⟩
        exact ⟨rfl, rfl⟩

theorem ite_run {condition : Prop} [Decidable condition] {m n : Prog σ ε α} {s : σ}
    {result : Except ε (α × σ)} (run : (if condition then m else n) s = result) :
    (condition ∧ m s = result) ∨ (¬ condition ∧ n s = result) := by
  split at run
  · rename_i yes
    exact Or.inl ⟨yes, run⟩
  · rename_i no
    exact Or.inr ⟨no, run⟩

def Respects (R : σ → σ → Prop) (m : Prog σ ε α) : Prop :=
  ∀ s a t, m s = .ok (a, t) → R s t

def Raises (F : ε → Prop) (m : Prog σ ε α) : Prop :=
  ∀ s e, m s = .error e → F e

namespace Respects

variable {R : σ → σ → Prop}

theorem pure (refl : ∀ s, R s s) (a : α) : Respects R (pure a : Prog σ ε α) := by
  intro s b t run
  simp only [pure_run, Except.ok.injEq, Prod.mk.injEq] at run
  exact run.2 ▸ refl s

theorem bind (trans : ∀ s t u, R s t → R t u → R s u) {m : Prog σ ε α} {f : α → Prog σ ε β}
    (first : Respects R m) (rest : ∀ a, Respects R (f a)) : Respects R (m >>= f) := by
  intro s b u run
  obtain ⟨a, t, hm, hf⟩ := bind_ok.mp run
  exact trans s t u (first s a t hm) (rest a t b u hf)

theorem get (refl : ∀ s, R s s) : Respects R (get : Prog σ ε σ) := by
  intro s a t run
  simp only [get_run, Except.ok.injEq, Prod.mk.injEq] at run
  exact run.2 ▸ refl s

theorem modify {f : σ → σ} (related : ∀ s, R s (f s)) :
    Respects R (modify f : Prog σ ε PUnit) := by
  intro s a t run
  simp only [modify_run, Except.ok.injEq, Prod.mk.injEq] at run
  exact run.2 ▸ related s

theorem throw (e : ε) : Respects R (throw e : Prog σ ε α) := by
  intro s a t run
  cases run

theorem lift (refl : ∀ s, R s s) (x : Except ε α) : Respects R (liftM x : Prog σ ε α) := by
  intro s a t run
  exact (lift_ok.mp run).2 ▸ refl s

theorem ite {condition : Prop} [Decidable condition] {m n : Prog σ ε α}
    (yes : Respects R m) (no : Respects R n) : Respects R (if condition then m else n) := by
  split
  · exact yes
  · exact no

theorem when (refl : ∀ s, R s s) {condition : Prop} [Decidable condition] {m : Prog σ ε Unit}
    (yes : Respects R m) : Respects R (when condition m) :=
  ite yes (pure refl ())

end Respects

namespace Raises

variable {F : ε → Prop}

theorem pure (a : α) : Raises F (pure a : Prog σ ε α) := by
  intro s e run
  cases run

theorem bind {m : Prog σ ε α} {f : α → Prog σ ε β}
    (first : Raises F m) (rest : ∀ a, Raises F (f a)) : Raises F (m >>= f) := by
  intro s e run
  rcases bind_error.mp run with fault | ⟨a, t, -, fault⟩
  · exact first s e fault
  · exact rest a t e fault

theorem get : Raises F (get : Prog σ ε σ) := by
  intro s e run
  cases run

theorem modify (f : σ → σ) : Raises F (modify f : Prog σ ε PUnit) := by
  intro s e run
  cases run

theorem throw {e : ε} (raised : F e) : Raises F (throw e : Prog σ ε α) := by
  intro s f run
  simp only [throw_run, Except.error.injEq] at run
  exact run ▸ raised

theorem lift {x : Except ε α} (raised : ∀ e, x = .error e → F e) :
    Raises F (liftM x : Prog σ ε α) := by
  intro s e run
  exact raised e (lift_error.mp run)

theorem ite {condition : Prop} [Decidable condition] {m n : Prog σ ε α}
    (yes : Raises F m) (no : Raises F n) : Raises F (if condition then m else n) := by
  split
  · exact yes
  · exact no

theorem when {condition : Prop} [Decidable condition] {m : Prog σ ε Unit}
    (yes : Raises F m) : Raises F (when condition m) :=
  ite yes (pure ())

theorem zoom {view : σ → τ} {put : σ → τ → σ} {m : Prog τ ε α} (raises : Raises F m) :
    Raises F (zoom view put m) := by
  intro s e run
  unfold Program.zoom at run
  cases inner : m (view s) with
  | error fault =>
      simp only [inner, Except.error.injEq] at run
      exact run ▸ raises _ _ inner
  | ok p => simp [inner] at run

end Raises

end Program
