import Fakemote.Runs
import Fakemote.Library.Pairing

/-! Controllers and fake Wiimotes. A slot that names a fake Wiimote is always named back; the
converse fails when the host rejects a fake Wiimote that is already disconnected and still points
to its old slot. -/

namespace Fakemote

open Bytes Program Ledger Transition Pairing Function

def Link.controller (link : Link) : Option SlotId :=
  if link.active then link.inputDevice else none

def Slot.wiimote (slot : Slot) : Option WiimoteId :=
  if slot.device.isSome then slot.assignedWiimote else none

def Core.controllerOf (core : Core) (w : WiimoteId) : Option SlotId := (core.links w).controller

def Core.wiimoteOf (core : Core) (d : SlotId) : Option WiimoteId := (core.slots d).wiimote

theorem controllerOf_eq_some {core : Core} {w : WiimoteId} {d : SlotId} :
    core.controllerOf w = some d ↔
      (core.links w).active = true ∧ (core.links w).inputDevice = some d := by
  unfold Core.controllerOf Link.controller
  split <;> simp [*]

theorem wiimoteOf_eq_some {core : Core} {w : WiimoteId} {d : SlotId} :
    core.wiimoteOf d = some w ↔
      (core.slots d).device.isSome ∧ (core.slots d).assignedWiimote = some w := by
  unfold Core.wiimoteOf Slot.wiimote
  split <;> simp [*]

@[simp] theorem controllerOf_setLink (core : Core) (w : WiimoteId) (f : Link → Link) :
    (core.setLink w f).controllerOf =
      update core.controllerOf w (f (core.links w)).controller := by
  funext v
  by_cases same : v = w
  · subst same
    simp [Core.controllerOf]
  · simp [Core.controllerOf, same]

@[simp] theorem wiimoteOf_setLink (core : Core) (w : WiimoteId) (f : Link → Link) :
    (core.setLink w f).wiimoteOf = core.wiimoteOf := rfl

@[simp] theorem controllerOf_setSlot (core : Core) (d : SlotId) (f : Slot → Slot) :
    (core.setSlot d f).controllerOf = core.controllerOf := rfl

@[simp] theorem wiimoteOf_setSlot (core : Core) (d : SlotId) (f : Slot → Slot) :
    (core.setSlot d f).wiimoteOf = update core.wiimoteOf d (f (core.slots d)).wiimote := by
  funext e
  by_cases same : e = d
  · subst same
    simp [Core.wiimoteOf]
  · simp [Core.wiimoteOf, same]

def clearAt (right : SlotId → Option WiimoteId) : Option SlotId → SlotId → Option WiimoteId
  | some d => update right d none
  | none => right

theorem release_controllerOf (a : Ledger) (d : Option SlotId) :
    (a.release d).core.controllerOf = a.core.controllerOf := by
  cases d <;> rfl

theorem release_wiimoteOf (a : Ledger) (d : Option SlotId) :
    (a.release d).core.wiimoteOf = clearAt a.core.wiimoteOf d := by
  cases d with
  | none => rfl
  | some d => simp [Ledger.release, Core.release, clearAt, Slot.wiimote]

theorem disconnect_controllerOf (a : Ledger) (w : WiimoteId) (placed : Bool) :
    (a.disconnect w placed).core.controllerOf = update a.core.controllerOf w none := by
  rw [disconnect_core, release_controllerOf]
  simp [Link.controller]

theorem disconnect_wiimoteOf (a : Ledger) (w : WiimoteId) (placed : Bool) :
    (a.disconnect w placed).core.wiimoteOf =
      clearAt a.core.wiimoteOf (a.core.links w).inputDevice := by
  rw [disconnect_core, release_wiimoteOf]
  simp

theorem forget_controllerOf (a : Ledger) (w : WiimoteId) :
    (a.act (.forget w)).core.controllerOf = update a.core.controllerOf w none := by
  simp only [act]
  split
  · simp [release_controllerOf, Link.controller]
  · rename_i inactive
    simp [Core.controllerOf, Link.controller, inactive]

theorem forget_wiimoteOf (a : Ledger) (w : WiimoteId) :
    (a.act (.forget w)).core.wiimoteOf =
      if (a.core.links w).active then clearAt a.core.wiimoteOf (a.core.links w).inputDevice
      else a.core.wiimoteOf := by
  simp only [act]
  split
  · simp [release_wiimoteOf]
  · rfl

theorem remove_controllerOf (a : Ledger) (d : SlotId) (placed : Bool) :
    (a.act (.remove d placed)).core.controllerOf =
      match (a.core.slots d).assignedWiimote with
      | some w => update a.core.controllerOf w none
      | none => a.core.controllerOf := by
  rcases assigned : (a.core.slots d).assignedWiimote with _ | w
  · simp [act, remove, assigned]
  · simp [act, remove, assigned, disconnect_controllerOf]

theorem remove_wiimoteOf (a : Ledger) (d : SlotId) (placed : Bool) :
    (a.act (.remove d placed)).core.wiimoteOf = update a.core.wiimoteOf d none := by
  simp only [act, remove]
  split
  · simp [disconnect_wiimoteOf, clearAt, Slot.wiimote]
  · simp [Slot.wiimote]

theorem assign_wiimoteOf {a : Ledger} {w : WiimoteId} {d : SlotId}
    (enabled : a.Enabled (.assign w d)) :
    (a.act (.assign w d)).core.wiimoteOf = update a.core.wiimoteOf d (some w) := by
  have chosen := List.find?_some enabled.2
  have present : (a.core.slots d).device.isSome = true := by
    simp only [Bool.and_eq_true] at chosen
    exact chosen.1.1
  simp [act, Slot.wiimote, present]

theorem assign_controllerOf (a : Ledger) (w : WiimoteId) (d : SlotId) :
    (a.act (.assign w d)).core.controllerOf = update a.core.controllerOf w (some d) := by
  simp [act, Link.controller]

def Label.keepsPointers : Label → Bool
  | .assign _ _ | .disconnect _ _ | .forget _ | .remove _ _ => false
  | _ => true

def Link.pointers (link : Link) : Bool × Option SlotId := (link.active, link.inputDevice)

theorem act_pointers {a : Ledger} {label : Label} (keeps : label.keepsPointers = true)
    (v : WiimoteId) : ((a.act label).core.links v).pointers = (a.core.links v).pointers := by
  have kept {core : Core} {w : WiimoteId} {f : Link → Link}
      (same : (f (core.links w)).pointers = (core.links w).pointers) :
      ((core.setLink w f).links v).pointers = (core.links v).pointers := by
    by_cases here : v = w
    · subst here
      rw [setLink_links, update_self, same]
    · rw [setLink_links, update_of_ne here]
  cases label with
  | event code data placed => simp [act]
  | request w placed =>
      rw [request_core]
      split
      · exact kept rfl
      · rfl
  | accept w =>
      rw [accept_core]
      rw [kept rfl]
  | consume w =>
      simp only [act]
      exact kept rfl
  | credit placed =>
      have reset (core : Core) (w : WiimoteId) :
          ((core.setLink w resetCount).links v).pointers = (core.links v).pointers := by
        apply kept
        unfold resetCount
        split <;> rfl
      rw [credit_core, reset, reset]
  | plug d device => rfl
  | tickSlots => rfl
  | snoop hci => rfl
  | reset => rfl
  | reply retval buffer tracked hci placed => rfl
  | assign | disconnect | forget | remove => cases keeps

theorem act_controllerOf {a : Ledger} {label : Label} (keeps : label.keepsPointers = true) :
    (a.act label).core.controllerOf = a.core.controllerOf := by
  funext v
  have same := act_pointers (a := a) keeps v
  simp only [Link.pointers, Prod.mk.injEq] at same
  simp only [Core.controllerOf, Link.controller, same]

theorem act_suspends {a : Ledger} {label : Label} (keeps : label.keepsPointers = true) :
    (a.act label).suspends = a.suspends := by
  cases label with
  | event code data placed => simp [act]
  | request w placed =>
      simp only [act]
      split <;> simp
  | accept w => simp [act]
  | credit placed =>
      simp only [act]
      split <;> simp
  | consume | plug | tickSlots | snoop | reset | reply => rfl
  | assign | disconnect | forget | remove => cases keeps

theorem Slot.tick_wiimote (slot : Slot) : slot.tick.wiimote = slot.wiimote := by
  unfold Slot.tick
  split <;> rfl

theorem act_wiimoteOf {a : Ledger} {label : Label} (enabled : a.Enabled label)
    (keeps : label.keepsPointers = true) : (a.act label).core.wiimoteOf = a.core.wiimoteOf := by
  cases label with
  | event code data placed =>
      unfold Core.wiimoteOf
      simp [act]
  | request w placed =>
      rw [request_core]
      split <;> rfl
  | accept w =>
      rw [accept_core]
      rfl
  | consume w => rfl
  | credit placed =>
      rw [credit_core]
      rfl
  | plug d device =>
      have empty : (a.core.slots d).wiimote = none := by
        have free := List.find?_some enabled
        simp only [Option.isNone_iff_eq_none] at free
        simp [Slot.wiimote, free]
      simp only [act, wiimoteOf_setSlot, Slot.wiimote, Option.isSome_some, if_true]
      rw [← empty]
      exact update_eq_self _ _
  | tickSlots =>
      have ticked (core : Core) (d : SlotId) :
          (core.setSlot d Slot.tick).wiimoteOf = core.wiimoteOf := by
        rw [wiimoteOf_setSlot, Slot.tick_wiimote]
        exact update_eq_self _ _
      simp only [act, ticked]
  | snoop hci => rfl
  | reset => rfl
  | reply retval buffer tracked hci placed => rfl
  | assign | disconnect | forget | remove => cases keeps

theorem controllerOf_inputDevice {core : Core} {w : WiimoteId} {d : SlotId}
    (driven : core.controllerOf w = some d) : (core.links w).inputDevice = some d :=
  (controllerOf_eq_some.mp driven).2

theorem controllerOf_inactive {core : Core} {w : WiimoteId}
    (inactive : (core.links w).active = false) : core.controllerOf w = none := by
  simp [Core.controllerOf, Link.controller, inactive]

theorem backed_release {left : WiimoteId → Option SlotId} {right : SlotId → Option WiimoteId}
    {w : WiimoteId} {slot : Option SlotId} (backed : Backed left right)
    (pointing : ∀ d, left w = some d → slot = some d) :
    Backed (update left w none) (clearAt right slot) := by
  cases slot with
  | none =>
      apply backed.forget
      intro d named
      exact absurd (pointing d (backed w d named)) (by simp)
  | some d =>
      apply backed.clear.forget
      intro e named
      have here := pointing e (backed.clear w e named)
      cases here
      simp at named

theorem act_backed {a : Ledger} {label : Label} (enabled : a.Enabled label)
    (backed : Backed a.core.controllerOf a.core.wiimoteOf) :
    Backed (a.act label).core.controllerOf (a.act label).core.wiimoteOf := by
  by_cases keeps : label.keepsPointers = true
  · rw [act_controllerOf keeps, act_wiimoteOf enabled keeps]
    exact backed
  · cases label with
    | assign w d =>
        rw [assign_controllerOf, assign_wiimoteOf enabled]
        exact backed.link (controllerOf_inactive enabled.1)
    | disconnect w placed =>
        simp only [act, disconnect_controllerOf, disconnect_wiimoteOf]
        exact backed_release backed fun d => controllerOf_inputDevice
    | forget w =>
        rw [forget_controllerOf, forget_wiimoteOf]
        split
        · exact backed_release backed fun d => controllerOf_inputDevice
        · rename_i inactive
          rw [Bool.not_eq_true] at inactive
          rw [update_eq_self_iff.mpr (controllerOf_inactive inactive).symm]
          exact backed
    | remove d placed =>
        rw [remove_controllerOf, remove_wiimoteOf]
        rcases assigned : (a.core.slots d).assignedWiimote with _ | w
        · exact backed.clear
        · exact backed.unlink (backed w d (wiimoteOf_eq_some.mpr ⟨enabled, assigned⟩))
    | _ => exact absurd rfl keeps

theorem init_backed (env : Environment) :
    Backed (World.init env).core.controllerOf (World.init env).core.wiimoteOf := by
  intro w d named
  cases named

theorem Run.backed {env : Environment} {condition : World → Input → Prop} {s : World}
    (reached : Run env condition s) : Backed s.core.controllerOf s.core.wiimoteOf :=
  reached.unguarded_invariant (fun a => Backed a.core.controllerOf a.core.wiimoteOf)
    (init_backed env) fun _ _ holds enabled => act_backed enabled holds

/-- The host rejects a fake Wiimote only while it is active, or while the slot it still points to
has a controller that drives no fake Wiimote. -/
def Releasable (core : Core) (w : WiimoteId) : Prop :=
  (core.links w).active = true ∨ ∀ d, (core.links w).inputDevice = some d →
    (core.slots d).device.isSome ∧ (core.slots d).assignedWiimote = none

structure Paired (a : Ledger) : Prop where
  agree : Mutual a.core.controllerOf a.core.wiimoteOf
  controlled : ∀ w, (a.core.links w).active = true → (a.core.links w).inputDevice ≠ none
  suspended : none ∉ a.suspends

theorem init_paired (env : Environment) : Paired (World.init env).ledger where
  agree := by
    intro w d
    constructor
    · intro driven
      cases driven
    · intro named
      cases named
  controlled := by
    intro w active
    cases active
  suspended := by simp [World.ledger, World.init, Periphery.suspends]

def safeRelease (core : Core) : Label → Prop
  | .disconnect w _ => Releasable core w
  | _ => True

namespace Paired

variable {a : Ledger}

theorem occupied (paired : Paired a) {w : WiimoteId} {d : SlotId} (safe : Releasable a.core w)
    (pointing : (a.core.links w).inputDevice = some d) : (a.core.slots d).device.isSome := by
  rcases safe with active | free
  · exact (wiimoteOf_eq_some.mp
      ((paired.agree w d).mp (controllerOf_eq_some.mpr ⟨active, pointing⟩))).1
  · exact (free d pointing).1

theorem released (paired : Paired a) {w : WiimoteId} (safe : Releasable a.core w) :
    Mutual (update a.core.controllerOf w none)
      (clearAt a.core.wiimoteOf (a.core.links w).inputDevice) := by
  rcases pointing : (a.core.links w).inputDevice with _ | d
  · have none : a.core.controllerOf w = none := by
      simp [Core.controllerOf, Link.controller, pointing]
    rw [update_eq_self_iff.mpr none.symm]
    exact paired.agree
  · rcases safe with active | free
    · exact paired.agree.unlink (controllerOf_eq_some.mpr ⟨active, pointing⟩)
    · by_cases active : (a.core.links w).active = true
      · exact paired.agree.unlink (controllerOf_eq_some.mpr ⟨active, pointing⟩)
      · rw [Bool.not_eq_true] at active
        have idle : a.core.wiimoteOf d = none := by
          simp [Core.wiimoteOf, Slot.wiimote, (free d pointing).2]
        rw [update_eq_self_iff.mpr (controllerOf_inactive active).symm]
        have same : update a.core.wiimoteOf d none = a.core.wiimoteOf :=
          update_eq_self_iff.mpr idle.symm
        change Mutual _ (update a.core.wiimoteOf d none)
        rw [same]
        exact paired.agree

theorem suspends_release (paired : Paired a) {core : Core} {slot : Option SlotId}
    (occupied : ∀ d, slot = some d → (core.slots d).device.isSome) :
    none ∉ (Ledger.release { a with core := core } slot).suspends := by
  cases slot with
  | none => exact paired.suspended
  | some d =>
      have present := occupied d rfl
      simp only [Ledger.release, List.mem_append, List.mem_singleton, not_or]
      refine ⟨paired.suspended, ?_⟩
      intro null
      rw [← null] at present
      cases present

theorem disconnect (paired : Paired a) {w : WiimoteId} {placed : Bool}
    (safe : Releasable a.core w) : Paired (a.disconnect w placed) where
  agree := by
    rw [disconnect_controllerOf, disconnect_wiimoteOf]
    exact paired.released safe
  controlled := by
    intro v active
    rw [disconnect_links] at active ⊢
    by_cases same : v = w
    · subst same
      simp at active
    · rw [update_of_ne same] at active ⊢
      exact paired.controlled v active
  suspended := by
    unfold Ledger.disconnect
    dsimp only
    split
    · rw [place_suspends]
      exact paired.suspends_release fun _ pointing => paired.occupied safe pointing
    · exact paired.suspends_release fun _ pointing => paired.occupied safe pointing

theorem forget (paired : Paired a) (w : WiimoteId) : Paired (a.act (.forget w)) := by
  by_cases active : (a.core.links w).active = true
  · constructor
    · rw [forget_controllerOf, forget_wiimoteOf, if_pos active]
      exact paired.released (Or.inl active)
    · intro v activeAfter
      simp only [act, active, if_true, setLink_links, release_links] at activeAfter ⊢
      by_cases same : v = w
      · subst same
        simp at activeAfter
      · rw [update_of_ne same] at activeAfter ⊢
        exact paired.controlled v activeAfter
    · simp only [act, active, if_true]
      exact paired.suspends_release
        fun _ pointing => paired.occupied (Or.inl active) pointing
  · simp only [act, active, if_false, Bool.false_eq_true]
    exact paired

theorem assign (paired : Paired a) {w : WiimoteId} {d : SlotId}
    (enabled : a.Enabled (.assign w d)) : Paired (a.act (.assign w d)) where
  agree := by
    have chosen := List.find?_some enabled.2
    simp only [Bool.and_eq_true, decide_eq_true_eq] at chosen
    have idle : a.core.wiimoteOf d = none := by
      simp [Core.wiimoteOf, Slot.wiimote, chosen.1.2]
    rw [assign_controllerOf, assign_wiimoteOf enabled]
    exact paired.agree.link (controllerOf_inactive enabled.1) idle
  controlled := by
    intro v active
    simp only [act, setLink_links] at active ⊢
    by_cases same : v = w
    · subst same
      simp
    · rw [update_of_ne same] at active ⊢
      exact paired.controlled v active
  suspended := paired.suspended

theorem remove (paired : Paired a) {d : SlotId} {placed : Bool}
    (enabled : a.Enabled (.remove d placed)) : Paired (a.act (.remove d placed)) := by
  rcases assigned : (a.core.slots d).assignedWiimote with _ | w
  · constructor
    · have idle : a.core.wiimoteOf d = none := by
        simp [Core.wiimoteOf, Slot.wiimote, assigned]
      rw [remove_controllerOf, remove_wiimoteOf, assigned, update_eq_self_iff.mpr idle.symm]
      exact paired.agree
    · simpa [act, Ledger.remove, assigned] using paired.controlled
    · simpa [act, Ledger.remove, assigned] using paired.suspended
  · have named : a.core.wiimoteOf d = some w := wiimoteOf_eq_some.mpr ⟨enabled, assigned⟩
    constructor
    · rw [remove_controllerOf, remove_wiimoteOf, assigned]
      exact paired.agree.unlink ((paired.agree w d).mpr named)
    · intro v active
      simp only [act, Ledger.remove, assigned, setSlot_links, disconnect_links, setLink_links,
        update_self, update_idem] at active ⊢
      by_cases same : v = w
      · subst same
        simp at active
      · rw [update_of_ne same] at active ⊢
        exact paired.controlled v active
    · simp only [act, Ledger.remove, assigned, Ledger.disconnect, setLink_links, update_self]
      split
      · rw [place_suspends]
        exact paired.suspended
      · exact paired.suspended

theorem keep (paired : Paired a) {label : Label} (enabled : a.Enabled label)
    (keeps : label.keepsPointers = true) : Paired (a.act label) where
  agree := by
    rw [act_controllerOf keeps, act_wiimoteOf enabled keeps]
    exact paired.agree
  controlled := by
    intro v active
    have same := act_pointers (a := a) keeps v
    simp only [Link.pointers, Prod.mk.injEq] at same
    rw [same.1] at active
    rw [same.2]
    exact paired.controlled v active
  suspended := by
    rw [act_suspends keeps]
    exact paired.suspended

theorem act {label : Label} (paired : Paired a) (enabled : a.Enabled label)
    (safe : safeRelease a.core label) : Paired (a.act label) := by
  by_cases keeps : label.keepsPointers = true
  · exact paired.keep enabled keeps
  · cases label with
    | assign w d => exact paired.assign enabled
    | disconnect w placed => exact paired.disconnect safe
    | forget w => exact paired.forget w
    | remove d placed => exact paired.remove enabled
    | _ => exact absurd rfl keeps

end Paired

/-- Once a fake Wiimote is disconnected it can be disconnected again at once. -/
theorem Releasable.again {a : Ledger} {w : WiimoteId} {placed : Bool} (paired : Paired a)
    (safe : Releasable a.core w) : Releasable (a.disconnect w placed).core w := by
  right
  intro d pointing
  rw [disconnect_links, update_self] at pointing
  have occupied := paired.occupied safe pointing
  rw [disconnect_core, (pointing : (a.core.links w).inputDevice = some d)]
  simp [Ledger.release, Core.release, occupied]

theorem along_disconnects {a : Ledger} {w : WiimoteId} {labels : List Label} (paired : Paired a)
    (safe : Releasable a.core w) (disconnects : Disconnects w labels) :
    a.Along safeRelease labels := by
  induction labels generalizing a with
  | nil => trivial
  | cons label labels ih =>
      obtain ⟨placed, rfl⟩ := disconnects label List.mem_cons_self
      exact ⟨safe, ih (paired.disconnect safe) (safe.again paired)
        fun l member => disconnects l (List.mem_cons_of_mem _ member)⟩

/-- The host rejects a fake Wiimote only when nothing stale is released. -/
def rejectsReleasable (s : World) : Input → Prop
  | .hciCommand data =>
      ∀ w, addressed hciCmdRejectCon s.core data = some w → Releasable s.core w
  | _ => True

theorem along_moves {s : World} {input : Input} {labels : List Label} {b : Ledger}
    (paired : Paired s.ledger) (safe : rejectsReleasable s input)
    (moves : Moves s input labels) (path : s.ledger.Path labels b) :
    s.ledger.Along safeRelease labels := by
  apply moves.along path
  · intro core label free
    cases label with
    | disconnect w placed => cases free
    | _ => trivial
  · intros
    trivial
  · rintro data w placed rfl found
    exact safe w found
  · rintro data w placed rfl found
    exact Or.inl (owner_connected found).1
  · intros
    trivial
  · intros
    trivial
  · rintro data w disconnects rfl found only length
    have connected : Releasable (s.ledger.act (.consume w)).core w :=
      Or.inl (by simpa [act] using (owner_connected found).1)
    exact ⟨trivial, along_disconnects (paired.act (owner_isConnected found) trivial) connected only⟩
  · intros
    trivial
  · intros
    trivial

/-- In every run in which the host rejects no disconnected fake Wiimote that would release a stale
slot, controllers and active fake Wiimotes point to each other. -/
theorem controllers_and_wiimotes_agree (env : Environment) (s : World)
    (reached : Run env rejectsReleasable s) :
    (∀ w d, ((s.core.links w).active = true ∧ (s.core.links w).inputDevice = some d) ↔
      ((s.core.slots d).device.isSome ∧ (s.core.slots d).assignedWiimote = some w)) ∧
    (∀ v w d, (s.core.links v).active = true → (s.core.links v).inputDevice = some d →
      (s.core.links w).active = true → (s.core.links w).inputDevice = some d → v = w) ∧
    (∀ w, (s.core.links w).active = true →
      ∃ d, (s.core.links w).inputDevice = some d ∧ (s.core.slots d).device.isSome) ∧
    none ∉ s.periphery.suspends := by
  have paired : Paired s.ledger := reached.ledger_invariant Paired (init_paired env)
    (fun _ _ _ _ holds safe moves path => along_moves holds safe moves path)
    fun _ _ holds enabled safe => holds.act enabled safe
  refine ⟨?_, ?_, ?_, paired.suspended⟩
  · intro w d
    rw [← controllerOf_eq_some, ← wiimoteOf_eq_some]
    exact paired.agree w d
  · intro v w d activeV pointsV activeW pointsW
    exact paired.agree.injective (controllerOf_eq_some.mpr ⟨activeV, pointsV⟩)
      (controllerOf_eq_some.mpr ⟨activeW, pointsW⟩)
  · intro w active
    rcases pointing : (s.core.links w).inputDevice with _ | d
    · exact absurd pointing (paired.controlled w active)
    · exact ⟨d, rfl, paired.occupied (Or.inl active) pointing⟩

instance decidableReleasable (core : Core) (w : WiimoteId) : Decidable (Releasable core w) :=
  inferInstanceAs (Decidable (_ ∨ ∀ _ : SlotId, _ → _ ∧ _))

instance decidableRejectsReleasable (s : World) :
    (input : Input) → Decidable (rejectsReleasable s input)
  | .hciCommand _ => inferInstanceAs (Decidable (∀ w : WiimoteId, _ → Releasable s.core w))
  | .aclOut _ | .bufferRequest _ _ | .handDownReply _ _ _ | .timer _ => .isTrue trivial

/-- The host accepts one fake Wiimote and rejects the other. -/
theorem controllers_and_wiimotes_agree_accept_reject :
    ∃ s, Run .lenient rejectsReleasable s ∧ (s.core.links 0).active = true ∧
      (∀ w d, ((s.core.links w).active = true ∧ (s.core.links w).inputDevice = some d) ↔
        ((s.core.slots d).device.isSome ∧ (s.core.slots d).assignedWiimote = some w)) ∧
      none ∉ s.periphery.suspends := by
  obtain ⟨s, reached, active⟩ : ∃ s, Run .lenient rejectsReleasable s ∧
      (s.core.links 0).active = true :=
    exists_of_execute [writeScanEnable,
      .timer [.added (plainDevice 1), .added (plainDevice 2)], acceptCon 0, rejectCon 1,
      .timer [.removed 2]] (by decide +kernel)
  have agree := controllers_and_wiimotes_agree .lenient s reached
  exact ⟨s, reached, active, agree.1, agree.2.2.2⟩

/-- The host rejects the second fake Wiimote twice. In between the first one takes its slot, which
the second rejection then frees although the first is still driven by it. -/
theorem second_rejection_frees_slot_in_use :
    ∃ s, Run .lenient anyInput s ∧ (s.core.links 0).active = true ∧
      (s.core.links 0).inputDevice = some 1 ∧ (s.core.slots 1).device.isSome ∧
      (s.core.slots 1).assignedWiimote = none := by
  obtain ⟨s, reached, check⟩ : ∃ s, Run .lenient anyInput s ∧
      decide ((s.core.links 0).active = true ∧ (s.core.links 0).inputDevice = some 1 ∧
        (s.core.slots 1).device.isSome ∧ (s.core.slots 1).assignedWiimote = none) = true :=
    exists_of_execute [writeScanEnable,
      .timer [.added (plainDevice 1), .added (plainDevice 2)], rejectCon 1, rejectCon 0,
      .timer [.removed 2, .added (plainDevice 2)], rejectCon 1] (by decide +kernel)
  exact ⟨s, reached, of_decide_eq_true check⟩

end Fakemote
