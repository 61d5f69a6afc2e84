import Mathlib.Data.List.Forall2
import Fakemote.Library.Program
import Fakemote.Library.Transition

/-! Two executions of related programs side by side: from related states both stop with the same
fault, or both end with related results in related states. -/

namespace Program

variable {σ σ' τ τ' ε α α' β β' : Type}

/-- Both results are errors and the same one, or both are there and related. -/
inductive Alike (A : α → α' → Prop) : Except ε α → Except ε α' → Prop
  | error (e : ε) : Alike A (.error e) (.error e)
  | ok {a : α} {b : α'} : A a b → Alike A (.ok a) (.ok b)

namespace Alike

variable {A : α → α' → Prop} {B : β → β' → Prop}

theorem bind {x : Except ε α} {y : Except ε α'} {f : α → Except ε β} {g : α' → Except ε β'}
    (first : Alike A x y) (rest : ∀ a b, A a b → Alike B (f a) (g b)) :
    Alike B (x >>= f) (y >>= g) := by
  cases first with
  | error e => exact .error e
  | ok related => exact rest _ _ related

theorem mono {A' : α → α' → Prop} {x : Except ε α} {y : Except ε α'} (alike : Alike A x y)
    (weaker : ∀ a b, A a b → A' a b) : Alike A' x y := by
  cases alike with
  | error e => exact .error e
  | ok related => exact .ok (weaker _ _ related)

theorem of_ok {x : Except ε α} {y : Except ε α'} {a : α} (alike : Alike A x y) (first : x = .ok a) :
    ∃ b, y = .ok b ∧ A a b := by
  cases alike with
  | error e => cases first
  | ok related =>
      cases first
      exact ⟨_, rfl, related⟩

end Alike

def Relates (R : σ → σ' → Prop) (A : α → α' → Prop) (m : Prog σ ε α) (n : Prog σ' ε α') : Prop :=
  ∀ s t, R s t → Alike (fun x y => A x.1 y.1 ∧ R x.2 y.2) (m s) (n t)

namespace Relates

variable {R : σ → σ' → Prop} {A : α → α' → Prop} {B : β → β' → Prop}

theorem pure {a : α} {b : α'} (related : A a b) :
    Relates R A (pure a : Prog σ ε α) (pure b : Prog σ' ε α') :=
  fun _ _ states => .ok ⟨related, states⟩

theorem bind {m : Prog σ ε α} {n : Prog σ' ε α'} {f : α → Prog σ ε β} {g : α' → Prog σ' ε β'}
    (first : Relates R A m n) (rest : ∀ a b, A a b → Relates R B (f a) (g b)) :
    Relates R B (m >>= f) (n >>= g) := by
  intro s t states
  change Alike _ (m s >>= fun p => f p.1 p.2) (n t >>= fun p => g p.1 p.2)
  exact (first s t states).bind fun x y ⟨related, states⟩ => rest _ _ related _ _ states

theorem bind_eq {m : Prog σ ε α} {n : Prog σ' ε α} {f : α → Prog σ ε β} {g : α → Prog σ' ε β'}
    (first : Relates R Eq m n) (rest : ∀ a, Relates R B (f a) (g a)) :
    Relates R B (m >>= f) (n >>= g) :=
  first.bind fun a _ same => same ▸ rest a

theorem get : Relates R R (get : Prog σ ε σ) (get : Prog σ' ε σ') :=
  fun _ _ states => .ok ⟨states, states⟩

theorem modify {f : σ → σ} {g : σ' → σ'} (kept : ∀ s t, R s t → R (f s) (g t)) :
    Relates R Eq (modify f : Prog σ ε PUnit) (modify g : Prog σ' ε PUnit) :=
  fun s t states => .ok ⟨rfl, kept s t states⟩

theorem throw (e : ε) : Relates R A (throw e : Prog σ ε α) (throw e : Prog σ' ε α') :=
  fun _ _ _ => .error e

theorem lift {x : Except ε α} {y : Except ε α'} (alike : Alike A x y) :
    Relates R A (liftM x : Prog σ ε α) (liftM y : Prog σ' ε α') := by
  intro s t states
  cases alike with
  | error e => exact .error e
  | ok related => exact .ok ⟨related, states⟩

theorem lift_eq (x : Except ε α) :
    Relates R Eq (liftM x : Prog σ ε α) (liftM x : Prog σ' ε α) := by
  cases x with
  | error e => exact lift (.error e)
  | ok a => exact lift (.ok rfl)

theorem ite {first second : Prop} [Decidable first] [Decidable second] {m m' : Prog σ ε α}
    {n n' : Prog σ' ε α'} (same : first ↔ second) (yes : Relates R A m n)
    (no : Relates R A m' n') :
    Relates R A (if first then m else m') (if second then n else n') := by
  by_cases holds : first
  · rw [if_pos holds, if_pos (same.mp holds)]
    exact yes
  · rw [if_neg holds, if_neg (mt same.mpr holds)]
    exact no

theorem when {first second : Prop} [Decidable first] [Decidable second] {m : Prog σ ε Unit}
    {n : Prog σ' ε Unit} (same : first ↔ second) (yes : Relates R Eq m n) :
    Relates R Eq (when first m) (when second n) :=
  ite same yes (pure rfl)

end Relates

/-- The first execution starts in a state that is known. -/
def RelatesAt (R : σ → σ' → Prop) (A : α → α' → Prop) (m : Prog σ ε α) (n : Prog σ' ε α') (s : σ) :
    Prop :=
  ∀ t, R s t → Alike (fun x y => A x.1 y.1 ∧ R x.2 y.2) (m s) (n t)

theorem Relates.at_state {R : σ → σ' → Prop} {A : α → α' → Prop} {m : Prog σ ε α}
    {n : Prog σ' ε α'} (relates : Relates R A m n) (s : σ) : RelatesAt R A m n s :=
  relates s

namespace RelatesAt

variable {R : σ → σ' → Prop} {S : τ → τ' → Prop} {A : α → α' → Prop} {B : β → β' → Prop} {s : σ}

theorem bind {m : Prog σ ε α} {n : Prog σ' ε α'} {f : α → Prog σ ε β} {g : α' → Prog σ' ε β'}
    (first : RelatesAt R A m n s)
    (rest : ∀ a b t, m s = .ok (a, t) → A a b → RelatesAt R B (f a) (g b) t) :
    RelatesAt R B (m >>= f) (n >>= g) s := by
  intro t states
  have alike := first t states
  change Alike _ (m s >>= fun p => f p.1 p.2) (n t >>= fun p => g p.1 p.2)
  generalize done : m s = x at alike ⊢
  generalize n t = y at alike ⊢
  cases alike with
  | error e => exact .error e
  | ok related => exact rest _ _ _ done related.1 _ related.2

theorem get_bind {f : σ → Prog σ ε β} {g : σ' → Prog σ' ε β'}
    (rest : ∀ t, R s t → RelatesAt R B (f s) (g t) s) :
    RelatesAt R B (get >>= f) (get >>= g) s :=
  fun t states => rest t states t states

theorem lift_bind {x : Except ε α} {f : α → Prog σ ε β} {g : α → Prog σ' ε β'}
    (rest : ∀ a, x = .ok a → RelatesAt R B (f a) (g a) s) :
    RelatesAt R B (liftM x >>= f) (liftM x >>= g) s := by
  cases x with
  | error e => exact fun _ _ => .error e
  | ok a => exact rest a rfl

theorem ite {first second : Prop} [Decidable first] [Decidable second] {m m' : Prog σ ε α}
    {n n' : Prog σ' ε α'} (same : first ↔ second) (yes : first → RelatesAt R A m n s)
    (no : ¬ first → RelatesAt R A m' n' s) :
    RelatesAt R A (if first then m else m') (if second then n else n') s := by
  by_cases holds : first
  · rw [if_pos holds, if_pos (same.mp holds)]
    exact yes holds
  · rw [if_neg holds, if_neg (mt same.mpr holds)]
    exact no holds

theorem when {first second : Prop} [Decidable first] [Decidable second] {m : Prog σ ε Unit}
    {n : Prog σ' ε Unit} (same : first ↔ second) (yes : first → RelatesAt R Eq m n s) :
    RelatesAt R Eq (when first m) (when second n) s :=
  ite same yes fun _ => (Relates.pure rfl).at_state s

theorem zoom {view : σ → τ} {view' : σ' → τ'} {put : σ → τ → σ} {put' : σ' → τ' → σ'}
    {m : Prog τ ε α} {n : Prog τ' ε α'} (viewed : ∀ s t, R s t → S (view s) (view' t))
    (stored : ∀ s t u v, R s t → S u v → R (put s u) (put' t v))
    (inner : RelatesAt S A m n (view s)) :
    RelatesAt R A (zoom view put m) (zoom view' put' n) s := by
  intro t states
  have alike := inner _ (viewed s t states)
  unfold Program.zoom
  generalize m (view s) = x at alike ⊢
  generalize n (view' t) = y at alike ⊢
  cases alike with
  | error e => exact .error e
  | ok related => exact .ok ⟨related.1, stored _ _ _ _ states related.2⟩

end RelatesAt

/-- The state that the program ends in. -/
def after (m : Prog σ ε α) (s : σ) : Except ε σ :=
  match m s with
  | .ok (_, t) => .ok t
  | .error e => .error e

theorem after_bind (m : Prog σ ε α) (n : Prog σ ε β) (s : σ) :
    after (m >>= fun _ => n) s = after m s >>= after n := by
  cases run : m s with
  | error e =>
      have fault : (m >>= fun _ => n) s = .error e := bind_error.mpr (.inl run)
      unfold after
      rw [fault, run]
      rfl
  | ok p =>
      have rest : (m >>= fun _ => n) s = n p.2 := bind_run run
      unfold after
      rw [rest, run]
      rfl

theorem RelatesAt.after {R : σ → σ' → Prop} {A : α → α' → Prop} {m : Prog σ ε α} {n : Prog σ' ε α'}
    {s : σ} {t : σ'} (relates : RelatesAt R A m n s) (states : R s t) :
    Alike R (after m s) (after n t) := by
  have alike := relates t states
  unfold Program.after
  generalize m s = x at alike ⊢
  generalize n t = y at alike ⊢
  cases alike with
  | error e => exact .error e
  | ok related => exact .ok related.2

/-- The state after the inputs, or the first fault. -/
def runAll {ι : Type} (step : σ → ι → Except ε σ) : σ → List ι → Except ε σ
  | s, [] => .ok s
  | s, input :: inputs => do
      let t ← step s input
      runAll step t inputs

theorem runAll_append {ι : Type} (step : σ → ι → Except ε σ) (inputs more : List ι) :
    ∀ s : σ, runAll step s (inputs ++ more) =
      runAll step s inputs >>= fun t => runAll step t more := by
  induction inputs with
  | nil => exact fun _ => rfl
  | cons input inputs ih =>
      intro s
      rw [List.cons_append, runAll, runAll]
      cases step s input with
      | error e => rfl
      | ok t => exact ih t

/-- Every input of the run meets the condition in the state that it comes to. -/
def Throughout {ι : Type} (step : σ → ι → Except ε σ) (condition : σ → ι → Prop) :
    σ → List ι → Prop
  | _, [] => True
  | s, input :: inputs =>
      condition s input ∧ ∀ t, step s input = .ok t → Throughout step condition t inputs

theorem throughout_cons {ι : Type} {step : σ → ι → Except ε σ} {condition : σ → ι → Prop}
    {s t : σ} {input : ι} {inputs : List ι} (run : step s input = .ok t) :
    Throughout step condition s (input :: inputs) ↔
      condition s input ∧ Throughout step condition t inputs := by
  refine and_congr_right fun _ => ⟨fun rest => rest t run, fun rest u again => ?_⟩
  cases run.symm.trans again
  exact rest

theorem throughout_last {ι : Type} {step : σ → ι → Except ε σ} {condition : σ → ι → Prop}
    {s : σ} {e : ε} {input : ι} {inputs : List ι} (run : step s input = .error e) :
    Throughout step condition s (input :: inputs) ↔ condition s input := by
  refine ⟨And.left, fun holds => ⟨holds, fun t again => ?_⟩⟩
  cases run.symm.trans again

instance decidableThroughout {ι : Type} (step : σ → ι → Except ε σ) (condition : σ → ι → Prop)
    [∀ s input, Decidable (condition s input)] :
    ∀ s inputs, Decidable (Throughout step condition s inputs)
  | _, [] => isTrue trivial
  | s, input :: inputs =>
      match run : step s input with
      | .ok t =>
          have : Decidable (Throughout step condition t inputs) :=
            decidableThroughout step condition t inputs
          decidable_of_iff _ (throughout_cons run).symm
      | .error _ => decidable_of_iff _ (throughout_last run).symm

theorem Throughout.of_forall {ι : Type} {step : σ → ι → Except ε σ} {condition : σ → ι → Prop}
    {inputs : List ι} (always : ∀ input ∈ inputs, ∀ s, condition s input) :
    ∀ s, Throughout step condition s inputs := by
  induction inputs with
  | nil => exact fun _ => trivial
  | cons input inputs ih =>
      intro s
      refine ⟨always input List.mem_cons_self s, fun t _ => ih ?_ t⟩
      exact fun other listed => always other (List.mem_cons_of_mem _ listed)

theorem Throughout.mono {ι : Type} {step : σ → ι → Except ε σ} {condition weaker : σ → ι → Prop}
    {inputs : List ι} (implied : ∀ s input, condition s input → weaker s input) :
    ∀ {s : σ}, Throughout step condition s inputs → Throughout step weaker s inputs := by
  induction inputs with
  | nil => exact fun _ => trivial
  | cons input inputs ih =>
      exact fun guarded => ⟨implied _ _ guarded.1, fun t run => ih (guarded.2 t run)⟩

theorem Alike.runAll {ι : Type} {step : σ → ι → Except ε σ} {step' : σ' → ι → Except ε σ'}
    {R : σ → σ' → Prop} {condition : σ → ι → Prop}
    (each : ∀ s t input, R s t → condition s input → Alike R (step s input) (step' t input))
    (inputs : List ι) :
    ∀ {s : σ} {t : σ'}, R s t → Throughout step condition s inputs →
      Alike R (runAll step s inputs) (runAll step' t inputs) := by
  induction inputs with
  | nil =>
      intro s t states _
      exact .ok states
  | cons input inputs ih =>
      intro s t states guarded
      have alike := each s t input states guarded.1
      unfold Program.runAll
      generalize done : step s input = x at alike ⊢
      generalize step' t input = y at alike ⊢
      cases alike with
      | error e => exact .error e
      | ok states => exact ih states (guarded.2 _ done)

end Program
