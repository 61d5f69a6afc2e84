/-! Deterministic machines driven by labels: paths, what holds along them, and what they emit. -/

namespace Labelled

variable {σ ι β : Type} {enabled : σ → ι → Prop} {act : σ → ι → σ}

def Path (enabled : σ → ι → Prop) (act : σ → ι → σ) : σ → List ι → σ → Prop
  | a, [], b => b = a
  | a, label :: labels, b => enabled a label ∧ Path enabled act (act a label) labels b

def emitted (act : σ → ι → σ) (emit : σ → ι → List β) : σ → List ι → List β
  | _, [] => []
  | a, label :: labels => emit a label ++ emitted act emit (act a label) labels

def Along (act : σ → ι → σ) (safe : σ → ι → Prop) : σ → List ι → Prop
  | _, [] => True
  | a, label :: labels => safe a label ∧ Along act safe (act a label) labels

theorem Path.append {a b c : σ} {first second : List ι} (one : Path enabled act a first b)
    (two : Path enabled act b second c) : Path enabled act a (first ++ second) c := by
  induction first generalizing a with
  | nil =>
      change b = a at one
      exact one ▸ two
  | cons label labels ih => exact ⟨one.1, ih one.2⟩

theorem Path.split {a c : σ} {first second : List ι}
    (path : Path enabled act a (first ++ second) c) :
    ∃ b, Path enabled act a first b ∧ Path enabled act b second c := by
  induction first generalizing a with
  | nil => exact ⟨a, rfl, path⟩
  | cons label labels ih =>
      obtain ⟨b, before, after⟩ := ih path.2
      exact ⟨b, ⟨path.1, before⟩, after⟩

theorem Path.invariant {a b : σ} {labels : List ι} (property : σ → Prop)
    (path : Path enabled act a labels b) (start : property a)
    (kept : ∀ a label, property a → enabled a label → property (act a label)) : property b := by
  induction labels generalizing a with
  | nil => exact path ▸ start
  | cons label labels ih => exact ih path.2 (kept a label start path.1)

theorem Path.kept {a b : σ} {labels : List ι} (property : σ → Prop)
    (path : Path enabled act a labels b) (start : property a)
    (kept : ∀ a, ∀ label ∈ labels, property a → enabled a label → property (act a label)) :
    property b := by
  induction labels generalizing a with
  | nil => exact path ▸ start
  | cons label labels ih =>
      apply ih path.2 (kept a label List.mem_cons_self start path.1)
      exact fun c l member => kept c l (List.mem_cons_of_mem _ member)

theorem Path.along {a b : σ} {labels : List ι} {safe : σ → ι → Prop} (property : σ → Prop)
    (path : Path enabled act a labels b) (start : property a)
    (kept : ∀ a label, property a → enabled a label → property (act a label))
    (implied : ∀ a label, property a → enabled a label → safe a label) :
    Along act safe a labels := by
  induction labels generalizing a with
  | nil => trivial
  | cons label labels ih =>
      exact ⟨implied a label start path.1, ih path.2 (kept a label start path.1)⟩

theorem Path.emitted_all {a b : σ} {labels : List ι} {emit : σ → ι → List β}
    (property : σ → Prop) (good : β → Prop) (path : Path enabled act a labels b)
    (start : property a)
    (kept : ∀ a, ∀ label ∈ labels, property a → enabled a label → property (act a label))
    (implied : ∀ a, ∀ label ∈ labels, property a → enabled a label →
      ∀ x ∈ emit a label, good x) :
    ∀ x ∈ emitted act emit a labels, good x := by
  induction labels generalizing a with
  | nil =>
      intro x member
      cases member
  | cons label labels ih =>
      intro x member
      rcases List.mem_append.mp member with here | later
      · exact implied a label List.mem_cons_self start path.1 x here
      · apply ih path.2 (kept a label List.mem_cons_self start path.1) _ _ x later
        · exact fun c l member => kept c l (List.mem_cons_of_mem _ member)
        · exact fun c l member => implied c l (List.mem_cons_of_mem _ member)

theorem Path.log {a b : σ} {labels : List ι} {emit : σ → ι → List β} (log : σ → List β)
    (path : Path enabled act a labels b)
    (grows : ∀ a label, log (act a label) = log a ++ emit a label) :
    log b = log a ++ emitted act emit a labels := by
  induction labels generalizing a with
  | nil =>
      change b = a at path
      rw [path]
      exact (List.append_nil _).symm
  | cons label labels ih => rw [ih path.2, grows, emitted, List.append_assoc]

section Along

variable {safe wider : σ → ι → Prop} {a b : σ} {labels first second : List ι}

theorem Along.append (path : Path enabled act a first b) (one : Along act safe a first)
    (two : Along act safe b second) : Along act safe a (first ++ second) := by
  induction first generalizing a with
  | nil =>
      cases path
      exact two
  | cons label labels ih => exact ⟨one.1, ih path.2 one.2⟩

theorem Along.always (always : ∀ label ∈ labels, ∀ a, safe a label) (a : σ) :
    Along act safe a labels := by
  induction labels generalizing a with
  | nil => trivial
  | cons label labels ih =>
      exact ⟨always label List.mem_cons_self a,
        ih (fun l member => always l (List.mem_cons_of_mem _ member)) _⟩

theorem Along.mono (along : Along act safe a labels)
    (implied : ∀ a label, safe a label → wider a label) : Along act wider a labels := by
  induction labels generalizing a with
  | nil => trivial
  | cons label labels ih => exact ⟨implied a label along.1, ih along.2⟩

theorem Path.safe_invariant (property : σ → Prop) (path : Path enabled act a labels b)
    (along : Along act safe a labels) (start : property a)
    (kept : ∀ a label, property a → enabled a label → safe a label → property (act a label)) :
    property b := by
  induction labels generalizing a with
  | nil => exact path ▸ start
  | cons label labels ih => exact ih path.2 along.2 (kept a label start path.1 along.1)

end Along

end Labelled
