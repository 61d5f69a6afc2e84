/-! A value derived from memory, kept until the memory it depends on is written and then derived
again when it is next needed. -/

namespace LazyCache

variable {σ κ : Type} {derive : σ → κ}

/-- A cache that is not marked dirty holds the derived value. -/
def Coherent (derive : σ → κ) (memory : σ) (cached : κ) (dirty : Bool) : Prop :=
  dirty = false → cached = derive memory

def refresh (derive : σ → κ) (memory : σ) (cached : κ) (dirty : Bool) : κ × Bool :=
  if dirty then (derive memory, false) else (cached, dirty)

theorem coherent_dirty (memory : σ) (cached : κ) : Coherent derive memory cached true := by
  intro clean
  cases clean

theorem Coherent.write {memory after : σ} {cached : κ} {dirty : Bool}
    (coherent : Coherent derive memory cached dirty) (same : derive after = derive memory) :
    Coherent derive after cached dirty := by
  intro clean
  rw [same]
  exact coherent clean

theorem Coherent.refresh_value {memory : σ} {cached : κ} {dirty : Bool}
    (coherent : Coherent derive memory cached dirty) :
    (refresh derive memory cached dirty).1 = derive memory := by
  cases dirty with
  | true => rfl
  | false => exact coherent rfl

theorem Coherent.refresh {memory : σ} {cached : κ} {dirty : Bool}
    (coherent : Coherent derive memory cached dirty) :
    Coherent derive memory (LazyCache.refresh derive memory cached dirty).1
      (LazyCache.refresh derive memory cached dirty).2 :=
  fun _ => coherent.refresh_value

end LazyCache
