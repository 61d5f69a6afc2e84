import Fakemote.TimerPhases
import Fakemote.ControllerPairing
import Mathlib.Data.Fintype.EquivFin

/-! How long a controller waits for a fake Wiimote: at least the delay after it lost one, and, while
only timers run and the host scans, no longer than the delay. -/

namespace Fakemote

open Bytes Program Ledger Transition Pairing Function

def Slot.released (slot : Slot) : Slot :=
  { slot with assignedWiimote := none, reconnectDelay := reconnectDelayTicks }

def Label.reslot (core : Core) (d : SlotId) (slot : Slot) : Label → Slot
  | .assign w e => if d = e then { slot with assignedWiimote := some w } else slot
  | .disconnect w _ => if (core.links w).inputDevice = some d then slot.released else slot
  | .forget w =>
      if (core.links w).active = true ∧ (core.links w).inputDevice = some d then slot.released
      else slot
  | .plug e device => if d = e then ⟨some device, none, 0⟩ else slot
  | .remove e _ => if d = e then { slot with device := none } else slot
  | .tickSlots => slot.tick
  | _ => slot

theorem setSlot_apply (core : Core) (d e : SlotId) (f : Slot → Slot) :
    (core.setSlot e f).slots d = if d = e then f (core.slots d) else core.slots d := by
  by_cases same : d = e
  · subst same
    simp [Core.setSlot]
  · simp [Core.setSlot, same]

theorem release_slots (a : Ledger) (d : SlotId) (e : Option SlotId) :
    (a.release e).core.slots d =
      if e = some d then (a.core.slots d).released else a.core.slots d := by
  cases e with
  | none => rfl
  | some e =>
      simp only [Ledger.release, Core.release, setSlot_apply, Option.some.injEq, eq_comm (b := d)]
      rfl

theorem disconnect_slots (a : Ledger) (w : WiimoteId) (placed : Bool) (d : SlotId) :
    (a.disconnect w placed).core.slots d =
      if (a.core.links w).inputDevice = some d then (a.core.slots d).released
      else a.core.slots d := by
  rw [disconnect_core, release_slots]
  rfl

theorem act_slots (a : Ledger) (label : Label) (d : SlotId) :
    (a.act label).core.slots d = label.reslot a.core d (a.core.slots d) := by
  cases label with
  | event code data placed => simp only [act, place_core, Label.reslot]
  | request w placed =>
      rw [request_core]
      split <;> rfl
  | assign w e => simp only [act, setLink_slots, setSlot_apply, Label.reslot]
  | accept w =>
      rw [accept_core]
      rfl
  | disconnect w placed => exact disconnect_slots a w placed d
  | forget w =>
      simp only [act, Label.reslot]
      split
      · rename_i active
        simp only [setLink_slots, release_slots, active, true_and]
      · rename_i inactive
        rw [if_neg fun both => inactive both.1]
  | credit placed =>
      rw [credit_core]
      rfl
  | plug e device => simp only [act, setSlot_apply, Label.reslot]
  | remove e placed =>
      simp only [act, remove, Label.reslot, setSlot_apply]
      rcases (a.core.slots e).assignedWiimote with _ | w
      · rfl
      · simp only [disconnect_slots, setLink_links, update_self, setLink_slots]
        rfl
  | tickSlots =>
      simp only [act, Label.reslot, setSlot_apply]
      rcases (show d = 0 ∨ d = 1 from zero_or_one d) with rfl | rfl
      · rfl
      · rfl
  | consume | snoop | reset | reply => rfl

theorem reslot_untimed {core : Core} {d : SlotId} {slot : Slot} {label : Label}
    (untimed : ¬ TimerMove label) :
    label.reslot core d slot = slot ∨ label.reslot core d slot = slot.released := by
  cases label with
  | disconnect | forget =>
      simp only [Label.reslot]
      split
      · exact Or.inr rfl
      · exact Or.inl rfl
  | assign => exact absurd .assign untimed
  | plug => exact absurd .plug untimed
  | remove => exact absurd .remove untimed
  | tickSlots => exact absurd .tickSlots untimed
  | _ => exact Or.inl rfl

def countTimers (timers : Nat) (_ : World) (input : Input) (_ : World) : Nat :=
  match input with
  | .timer _ => timers + 1
  | _ => timers

def keepsController (d : SlotId) (s : World) : Input → Prop
  | .timer events => ∀ device, .removed device ∈ events →
      ∀ egc, (s.core.slots d).device = some egc → egc.id ≠ device
  | _ => True

/-- The slot has this controller, and what is left of the delay after so many timers. -/
structure Slot.Waits (slot : Slot) (egc : EgcDevice) (timers : Nat) : Prop where
  device : slot.device = some egc
  unassigned : slot.assignedWiimote = none
  delay : reconnectDelayTicks.toNat ≤ timers + slot.reconnectDelay.toNat

structure Slot.Drives (slot : Slot) (egc : EgcDevice) : Prop where
  device : slot.device = some egc
  assigned : slot.assignedWiimote ≠ none

variable {d : SlotId} {egc : EgcDevice} {timers : Nat} {slot : Slot}

theorem Slot.Waits.released (device : slot.device = some egc) : slot.released.Waits egc timers :=
  ⟨device, rfl, Nat.le_add_left _ _⟩

theorem countdown {delay : UInt32} (positive : delay > 0) : (delay - 1).toNat + 1 = delay.toNat := by
  have most : 0 < delay.toNat := UInt32.lt_iff_toNat_lt.mp positive
  have least : (1 : UInt32) ≤ delay := UInt32.le_iff_toNat_le.mpr most
  rw [UInt32.toNat_sub_of_le _ _ least]
  exact Nat.sub_add_cancel most

theorem Slot.Waits.tick (waits : slot.Waits egc timers) : slot.tick.Waits egc (timers + 1) := by
  obtain ⟨device, unassigned, delay⟩ := waits
  unfold Slot.tick
  split
  · rename_i ticking
    refine ⟨device, unassigned, ?_⟩
    have counted := countdown ticking.2.2
    change _ ≤ timers + 1 + (slot.reconnectDelay - 1).toNat
    omega
  · exact ⟨device, unassigned, by omega⟩

theorem Slot.Waits.unoffered {core : Core} (waits : (core.slots d).Waits egc timers)
    (soon : timers < reconnectDelayTicks.toNat) : inputDeviceGetUnassigned core ≠ some d := by
  intro offered
  have eligible := List.find?_some offered
  simp only [Bool.and_eq_true, decide_eq_true_eq] at eligible
  have delay := waits.delay
  rw [eligible.2] at delay
  change _ ≤ timers + 0 at delay
  omega

theorem Slot.Drives.unoffered {core : Core} (drives : (core.slots d).Drives egc) :
    inputDeviceGetUnassigned core ≠ some d := by
  intro offered
  have eligible := List.find?_some offered
  simp only [Bool.and_eq_true, decide_eq_true_eq] at eligible
  exact drives.assigned eligible.1.2

theorem plugs_slot {events : List EgcEvent} {a b : Ledger} {labels : List Label}
    (path : a.Path labels b) (safe : a.Along (plugSafe events) labels)
    (device : (a.core.slots d).device = some egc)
    (keeps : ∀ device, .removed device ∈ events → egc.id ≠ device) :
    b.core.slots d = a.core.slots d := by
  induction labels generalizing a with
  | nil => rw [(path : b = a)]
  | cons label labels ih =>
      have same : (a.act label).core.slots d = a.core.slots d := by
        rw [act_slots]
        cases label with
        | plug e plugged =>
            have found : freeSlot a.core = some e := path.1
            have free := List.find?_some found
            apply if_neg
            rintro rfl
            rw [device] at free
            cases free
        | remove e placed =>
            obtain ⟨removed, member, found⟩ := safe.1
            apply if_neg
            rintro rfl
            have matched := List.find?_some found
            simp only [device, Option.any_some, decide_eq_true_eq] at matched
            exact keeps removed member matched
        | _ => cases safe.1
      rw [ih path.2 safe.2 (by rw [same]; exact device), same]

theorem offer_slot {a : Ledger} (w : WiimoteId)
    (unoffered : inputDeviceGetUnassigned a.core ≠ some d) :
    (a.offer w).core.slots d = a.core.slots d := by
  unfold Ledger.offer
  split
  · rfl
  · rcases found : inputDeviceGetUnassigned a.core with _ | e
    · rfl
    · rw [act_slots]
      apply if_neg
      rintro rfl
      exact unoffered found

theorem Asked.slots {w : WiimoteId} {a b : Ledger} (asked : Asked w a b) (d : SlotId) :
    b.core.slots d = a.core.slots d := by
  rcases asked with ⟨rfl, -⟩ | ⟨-, placed, -, rfl⟩
  · rfl
  · exact act_slots _ _ _

theorem TimerPhases.slot_ticks {events : List EgcEvent} {a b : Ledger} (phases : TimerPhases events a b)
    (device : (a.core.slots d).device = some egc)
    (keeps : ∀ device, .removed device ∈ events → egc.id ≠ device)
    (unoffered : ∀ core : Core, core.slots d = (a.core.slots d).tick →
      inputDeviceGetUnassigned core ≠ some d) :
    b.core.slots d = (a.core.slots d).tick := by
  obtain ⟨path, safe, asked0, asked1⟩ := phases
  rename_i labels plugged first second placed
  have ticked : (plugged.act .tickSlots).core.slots d = (a.core.slots d).tick := by
    rw [act_slots, plugs_slot path safe device keeps]
    rfl
  have offered : (plugged.act .tickSlots).offers.core.slots d = (a.core.slots d).tick := by
    unfold Ledger.offers
    split
    · have one := (offer_slot 0 (unoffered _ ticked)).trans ticked
      rw [offer_slot 1 (unoffered _ one), one]
    · exact ticked
  calc
    (second.act (.credit placed)).core.slots d = second.core.slots d := act_slots _ _ _
    _ = first.core.slots d := asked1.slots d
    _ = (plugged.act .tickSlots).offers.core.slots d := asked0.slots d
    _ = (a.core.slots d).tick := offered

theorem Slot.Drives.tick (drives : slot.Drives egc) : slot.tick = slot := by
  unfold Slot.tick
  rw [if_neg fun ticking => drives.assigned ticking.2.1]

/-- Outside of a timer a slot keeps its controller, and is released or unchanged. -/
theorem untimed_slot {a b : Ledger} {labels : List Label} (path : a.Path labels b)
    (untimed : ∀ label ∈ labels, ¬ TimerMove label) (property : Slot → Prop)
    (kept : ∀ slot, property slot → property slot.released) (holds : property (a.core.slots d)) :
    property (b.core.slots d) := by
  induction labels generalizing a with
  | nil =>
      rw [(path : b = a)]
      exact holds
  | cons label labels ih =>
      apply ih path.2 fun l member => untimed l (List.mem_cons_of_mem _ member)
      rw [act_slots]
      rcases reslot_untimed (untimed label List.mem_cons_self) with same | released
      · rw [same]
        exact holds
      · rw [released]
        exact kept _ holds

theorem step_waits {s t : World} {input : Input} (run : step s input = .ok t)
    (keeps : keepsController d s input) (waits : (s.core.slots d).Waits egc timers)
    (soon : countTimers timers s input t < reconnectDelayTicks.toNat) :
    (t.core.slots d).Waits egc (countTimers timers s input t) := by
  by_cases timed : ∃ events, input = .timer events
  · obtain ⟨events, rfl⟩ := timed
    have slot : t.core.slots d = (s.core.slots d).tick := by
      apply (step_phases run).slot_ticks waits.device
        fun device member => keeps device member egc waits.device
      intro core ticked
      apply @Slot.Waits.unoffered d egc (timers + 1) core _ soon
      rw [ticked]
      exact waits.tick
    rw [slot]
    exact waits.tick
  · have other (events : List EgcEvent) : input ≠ .timer events := fun same => timed ⟨events, same⟩
    obtain ⟨labels, moves, path⟩ := step_moves run
    have same : countTimers timers s input t = timers := by
      cases input with
      | timer events => exact absurd rfl (other events)
      | _ => rfl
    rw [same]
    exact untimed_slot path (moves.untimed other) (fun slot => slot.Waits egc timers)
      (fun _ waits => .released waits.device) waits

theorem step_releases {s t : World} {input : Input} (run : step s input = .ok t)
    (keeps : keepsController d s input) (drives : (s.core.slots d).Drives egc)
    (lost : (t.core.slots d).assignedWiimote = none) : (t.core.slots d).Waits egc 0 := by
  by_cases timed : ∃ events, input = .timer events
  · obtain ⟨events, rfl⟩ := timed
    have slot : t.core.slots d = (s.core.slots d).tick := by
      apply (step_phases run).slot_ticks drives.device
        fun device member => keeps device member egc drives.device
      intro core ticked
      rw [ledger_core, drives.tick] at ticked
      apply @Slot.Drives.unoffered d egc core
      rw [ticked]
      exact drives
    rw [slot, drives.tick] at lost
    exact absurd lost drives.assigned
  · obtain ⟨labels, moves, path⟩ := step_moves run
    have untimed := moves.untimed fun events same => timed ⟨events, same⟩
    have either : (t.core.slots d).Drives egc ∨ (t.core.slots d).Waits egc 0 := by
      apply untimed_slot path untimed (fun slot => slot.Drives egc ∨ slot.Waits egc 0)
      · rintro slot (drives | waits)
        · exact Or.inr (.released drives.device)
        · exact Or.inr (.released waits.device)
      · exact Or.inl drives
    rcases either with drives | waits
    · exact absurd lost drives.assigned
    · exact waits

/-- A controller that loses its fake Wiimote and stays plugged in gets no other before 200 timers
have run, whatever the host sends and whatever happens to the other controller. -/
theorem released_controller_waits {s t u : World} {input : Input} {timers : Nat}
    (run : step s input = .ok t) (keeps : keepsController d s input)
    (device : (s.core.slots d).device = some egc)
    (assigned : (s.core.slots d).assignedWiimote ≠ none)
    (lost : (t.core.slots d).assignedWiimote = none)
    (later : Reachable (observed step countTimers)
      (fun state input => keepsController d state.1 input) (t, 0) (u, timers))
    (soon : timers < 200) :
    (u.core.slots d).device = some egc ∧ (u.core.slots d).assignedWiimote = none := by
  have first := step_releases run keeps ⟨device, assigned⟩ lost
  have waits : timers < 200 → (u.core.slots d).Waits egc timers := by
    apply later.invariant fun state => state.2 < 200 → (state.1.core.slots d).Waits egc state.2
    · exact fun _ => first
    · rintro ⟨s, timers⟩ state input holds keeps stepped soon
      obtain ⟨t, run, rfl⟩ := observed_ok.mp stepped
      have before : timers ≤ countTimers timers s input t := by
        cases input with
        | timer events => exact Nat.le_succ timers
        | _ => exact Nat.le_refl timers
      exact step_waits run keeps (holds (Nat.lt_of_le_of_lt before soon)) soon
  exact ⟨(waits soon).device, (waits soon).unassigned⟩

def Input.plugsNothing : Input → Bool
  | .timer events => events.isEmpty
  | _ => true

theorem keepsController_of_plugsNothing {d : SlotId} {s : World} {input : Input}
    (nothing : input.plugsNothing = true) : keepsController d s input := by
  cases input with
  | timer events =>
      rw [List.isEmpty_iff.mp nothing]
      exact fun _ member => nomatch member
  | _ => trivial

/-- The host rejects the only fake Wiimote; two timers later its controller still waits. -/
theorem released_controller_waits_rejected :
    ∃ s t u, step s (rejectCon 0) = .ok t ∧ (s.core.slots 0).assignedWiimote = some 0 ∧
      Reachable (observed step countTimers)
        (fun state input => keepsController 0 state.1 input) (t, 0) (u, 2) ∧
      (u.core.slots 0).device = some (plainDevice 1) ∧
      (u.core.slots 0).assignedWiimote = none := by
  obtain ⟨s, -, checked⟩ : ∃ s, Run .lenient anyInput s ∧
      (decide ((s.core.slots 0).device = some (plainDevice 1) ∧
          (s.core.slots 0).assignedWiimote = some 0) &&
        (step s (rejectCon 0)).toOption.any fun t =>
          decide ((t.core.slots 0).assignedWiimote = none) &&
            (execute (observed step countTimers) (fun _ input => input.plugsNothing) (t, 0)
              [.timer [], writeScanEnable, .timer []]).any fun state => decide (state.2 = 2)) = true :=
    exists_of_execute [writeScanEnable, .timer [.added (plainDevice 1)]] (by decide +kernel)
  obtain ⟨before, rejected⟩ := Bool.and_eq_true_iff.mp checked
  obtain ⟨device, assigned⟩ := of_decide_eq_true before
  obtain ⟨t, run, after⟩ := exists_of_step rejected
  obtain ⟨lost, waited⟩ := Bool.and_eq_true_iff.mp after
  obtain ⟨⟨u, timers⟩, executed, two⟩ := (Option.any_eq_true _ _).mp waited
  have timers_eq : timers = 2 := of_decide_eq_true two
  subst timers_eq
  have later : Reachable (observed step countTimers)
      (fun state input => keepsController 0 state.1 input) (t, 0) (u, 2) :=
    reachable_execute (fun _ _ nothing => keepsController_of_plugsNothing nothing) .start executed
  exact ⟨s, t, u, run, assigned, later,
    released_controller_waits run trivial device (by rw [assigned]; nofun)
      (of_decide_eq_true lost) later (by decide)⟩

def Slot.Idle (slot : Slot) : Prop := slot.device.isSome ∧ slot.assignedWiimote = none

theorem getUnassigned_none {core : Core} (found : inputDeviceGetUnassigned core = none) (d : SlotId)
    (idle : (core.slots d).Idle) : (core.slots d).reconnectDelay ≠ 0 := by
  intro zero
  have passed := List.find?_eq_none.mp found d (by
    rcases (show d = 0 ∨ d = 1 from zero_or_one d) with rfl | rfl <;> simp)
  simp [idle.1, idle.2, zero] at passed

theorem offer_serves (a : Ledger) (w : WiimoteId) :
    ((a.offer w).core.links w).active = true ∨
      (a.offer w = a ∧ inputDeviceGetUnassigned a.core = none) := by
  unfold Ledger.offer
  split
  · rename_i active
    exact Or.inl active
  · rcases found : inputDeviceGetUnassigned a.core with _ | d
    · exact Or.inr ⟨rfl, rfl⟩
    · left
      simp [act_links, Label.relink]

theorem offer_active {a : Ledger} {v : WiimoteId} (w : WiimoteId)
    (active : (a.core.links v).active = true) : ((a.offer w).core.links v).active = true := by
  rcases offer_path a w with same | ⟨d, -, moved⟩
  · rw [same]
    exact active
  · rw [moved, act_links]
    simp only [Label.relink]
    split
    · rfl
    · exact active

theorem offers_serve {a : Ledger} (scanning : hciCanRequestConnection a.core.hci = true) :
    (∀ w, (a.offers.core.links w).active = true) ∨
      inputDeviceGetUnassigned a.offers.core = none := by
  unfold Ledger.offers
  rw [if_pos scanning]
  rcases offer_serves (a.offer 0) 1 with active1 | ⟨same1, none1⟩
  · rcases offer_serves a 0 with active0 | ⟨same0, none0⟩
    · left
      intro w
      rcases zero_or_one w with rfl | rfl
      · exact offer_active 1 active0
      · exact active1
    · -- Nothing was left to offer to the second either.
      right
      rw [same0]
      unfold Ledger.offer
      rw [none0]
      split <;> exact none0
  · right
    rw [same1]
    exact none1

theorem Paired.none_idle {a : Ledger} (paired : Paired a)
    (active : ∀ w, (a.core.links w).active = true) (d : SlotId) : ¬ (a.core.slots d).Idle := by
  have points (w : WiimoteId) : ∃ d, a.core.controllerOf w = some d := by
    rcases pointing : (a.core.links w).inputDevice with _ | d
    · exact absurd pointing (paired.controlled w (active w))
    · exact ⟨d, controllerOf_eq_some.mpr ⟨active w, pointing⟩⟩
  choose driver drives using points
  have injective : Injective driver := fun v w same =>
    paired.agree.injective (drives v) (by rw [same]; exact drives w)
  obtain ⟨w, same⟩ := (Finite.injective_iff_surjective.mp injective) d
  rw [← same]
  intro idle
  have named := wiimoteOf_eq_some.mp ((paired.agree w (driver w)).mp (drives w))
  rw [idle.2] at named
  cases named.2

theorem plugs_idle {events : List EgcEvent} {a b : Ledger} {labels : List Label}
    (path : a.Path labels b) (safe : a.Along (plugSafe events) labels)
    (idle : (b.core.slots d).Idle) (delay : (b.core.slots d).reconnectDelay ≠ 0) :
    a.core.slots d = b.core.slots d := by
  induction labels generalizing a with
  | nil => rw [(path : b = a)]
  | cons label labels ih =>
      have later := ih path.2 safe.2
      rw [← later] at idle delay ⊢
      rw [act_slots] at idle delay ⊢
      cases label with
      | plug e device =>
          simp only [Label.reslot] at idle delay ⊢
          split at delay
          · exact absurd rfl delay
          · rename_i other
            rw [if_neg other]
      | remove e placed =>
          simp only [Label.reslot] at idle ⊢
          split at idle
          · cases idle.1
          · rename_i other
            rw [if_neg other]
      | _ => cases safe.1

theorem Slot.tick_idle (idle : slot.tick.Idle) (delay : slot.tick.reconnectDelay ≠ 0) :
    slot.Idle ∧ slot.reconnectDelay.toNat = slot.tick.reconnectDelay.toNat + 1 := by
  unfold Slot.tick at idle delay ⊢
  split
  · rename_i ticking
    rw [if_pos ticking] at idle
    exact ⟨⟨idle.1, idle.2⟩, (countdown ticking.2.2).symm⟩
  · rename_i still
    rw [if_neg still] at idle delay
    exact absurd ⟨idle.1, idle.2, UInt32.pos_iff_ne_zero.mpr delay⟩ still

theorem offer_idle {a : Ledger} {w : WiimoteId} (idle : ((a.offer w).core.slots d).Idle) :
    (a.offer w).core.slots d = a.core.slots d := by
  rcases offer_path a w with same | ⟨e, -, moved⟩
  · rw [same]
  · rw [moved, act_slots] at idle ⊢
    simp only [Label.reslot] at idle ⊢
    split at idle
    · cases idle.2
    · rename_i other
      rw [if_neg other]

/-- The fake Wiimotes and controllers agree, and the host scans. -/
structure Serving (a : Ledger) : Prop where
  paired : Paired a
  scanning : hciCanRequestConnection a.core.hci = true

theorem Serving.act {a : Ledger} {label : Label} (serving : Serving a) (enabled : a.Enabled label)
    (safe : safeRelease a.core label) (untouched : label.touchesHci = false) :
    Serving (a.act label) := by
  refine ⟨serving.paired.act enabled safe, ?_⟩
  rw [act_hci untouched]
  exact serving.scanning

theorem Serving.offer {a : Ledger} (serving : Serving a) (w : WiimoteId) : Serving (a.offer w) := by
  rcases offer_path a w with same | ⟨d, enabled, moved⟩
  · rw [same]
    exact serving
  · rw [moved]
    exact serving.act enabled trivial rfl

theorem Serving.offers {a : Ledger} (serving : Serving a) : Serving a.offers := by
  unfold Ledger.offers
  split
  · exact (serving.offer 0).offer 1
  · exact serving

theorem Serving.asked {w : WiimoteId} {a b : Ledger} (serving : Serving a) (asked : Asked w a b) :
    Serving b := by
  rcases asked with ⟨rfl, -⟩ | ⟨-, placed, enabled, rfl⟩
  · exact serving
  · exact serving.act enabled trivial rfl

theorem Serving.plugs {events : List EgcEvent} {a b : Ledger} {labels : List Label}
    (serving : Serving a) (path : a.Path labels b) (safe : a.Along (plugSafe events) labels) :
    Serving b := by
  induction labels generalizing a with
  | nil =>
      rw [(path : b = a)]
      exact serving
  | cons label labels ih =>
      apply ih _ path.2 safe.2
      cases label with
      | plug | remove => exact serving.act path.1 trivial rfl
      | _ => cases safe.1

/-- After a timer only slots are idle that were so before, with more of the delay to wait. -/
theorem TimerPhases.serves {events : List EgcEvent} {a b : Ledger}
    (phases : TimerPhases events a b) (serving : Serving a) :
    Serving b ∧ ∀ d, (b.core.slots d).Idle → (b.core.slots d).reconnectDelay ≠ 0 ∧
      (a.core.slots d).Idle ∧
      (a.core.slots d).reconnectDelay.toNat = (b.core.slots d).reconnectDelay.toNat + 1 := by
  obtain ⟨path, safe, asked0, asked1⟩ := phases
  rename_i labels plugged first second placed
  have ticked : Serving (plugged.act .tickSlots) :=
    (serving.plugs path safe).act trivial trivial rfl
  have offered := ticked.offers
  refine ⟨((offered.asked asked0).asked asked1).act trivial trivial rfl, fun d idle => ?_⟩
  have slot : (second.act (.credit placed)).core.slots d =
      (plugged.act .tickSlots).offers.core.slots d := by
    rw [act_slots]
    exact (asked1.slots d).trans (asked0.slots d)
  rw [slot] at idle ⊢
  have delay : ((plugged.act .tickSlots).offers.core.slots d).reconnectDelay ≠ 0 := by
    rcases offers_serve ticked.scanning with active | none
    · exact absurd idle (offered.paired.none_idle active d)
    · exact getUnassigned_none none d idle
  have kept : (plugged.act .tickSlots).offers.core.slots d = (plugged.core.slots d).tick := by
    unfold Ledger.offers at idle ⊢
    rw [if_pos ticked.scanning] at idle ⊢
    have one := offer_idle idle
    rw [one] at idle ⊢
    rw [offer_idle idle, act_slots]
    rfl
  rw [kept] at idle delay ⊢
  obtain ⟨before, more⟩ := Slot.tick_idle idle delay
  have waiting : (plugged.core.slots d).reconnectDelay ≠ 0 := by
    intro zero
    rw [zero] at more
    cases more
  rw [plugs_idle path safe before waiting]
  exact ⟨delay, before, more⟩

theorem reslot_delay {core : Core} {label : Label}
    (bound : slot.reconnectDelay.toNat ≤ reconnectDelayTicks.toNat) :
    (label.reslot core d slot).reconnectDelay.toNat ≤ reconnectDelayTicks.toNat := by
  cases label with
  | tickSlots =>
      simp only [Label.reslot, Slot.tick]
      split
      · rename_i ticking
        have counted := countdown ticking.2.2
        change (slot.reconnectDelay - 1).toNat ≤ _
        omega
      · exact bound
  | plug e device =>
      simp only [Label.reslot]
      split
      · exact Nat.zero_le _
      · exact bound
  | assign | disconnect | forget | remove =>
      simp only [Label.reslot]
      split
      · first | exact bound | exact Nat.le_refl _
      · exact bound
  | _ => exact bound

theorem Run.delays {env : Environment} {condition : World → Input → Prop} {s : World}
    (reached : Run env condition s) (d : SlotId) :
    (s.core.slots d).reconnectDelay.toNat ≤ reconnectDelayTicks.toNat := by
  apply reached.unguarded_invariant
    fun a => (a.core.slots d).reconnectDelay.toNat ≤ reconnectDelayTicks.toNat
  · exact Nat.zero_le _
  · intro a label bound _
    rw [act_slots]
    exact reslot_delay bound

/-- In every run in which the host releases no stale slot, once 200 timers have run one after the
other while the host scans, every controller that has a slot drives a fake Wiimote, however the
controllers came and went in the meantime. -/
theorem every_controller_is_served {env : Environment} {s u : World} {timers : Nat}
    (reached : Run env rejectsReleasable s) (scanning : hciCanRequestConnection s.core.hci = true)
    (later : Reachable (observed step countTimers) (fun _ input => ∃ events, input = .timer events)
      (s, 0) (u, timers)) (long : 200 ≤ timers) (d : SlotId)
    (plugged : (u.core.slots d).device.isSome) :
    ∃ w, (u.core.slots d).assignedWiimote = some w ∧ (u.core.links w).active = true ∧
      (u.core.links w).inputDevice = some d := by
  have paired : Paired s.ledger := reached.ledger_invariant Paired (init_paired env)
    (fun _ _ _ _ holds safe moves path => along_moves holds safe moves path)
    fun _ _ holds enabled safe => holds.act enabled safe
  obtain ⟨serving, bounded⟩ : Serving u.ledger ∧ (∀ d, (u.core.slots d).Idle →
      (u.core.slots d).reconnectDelay.toNat + timers ≤ 200 ∧
      (0 < timers → (u.core.slots d).reconnectDelay ≠ 0)) := by
    apply later.invariant fun state => Serving state.1.ledger ∧
      ∀ d, (state.1.core.slots d).Idle →
        (state.1.core.slots d).reconnectDelay.toNat + state.2 ≤ 200 ∧
        (0 < state.2 → (state.1.core.slots d).reconnectDelay ≠ 0)
    · refine ⟨⟨paired, scanning⟩, fun d _ => ⟨reached.delays d, fun none => ?_⟩⟩
      cases none
    · rintro ⟨s, timers⟩ state input ⟨serving, bounded⟩ ⟨events, rfl⟩ stepped
      obtain ⟨t, run, rfl⟩ := observed_ok.mp stepped
      obtain ⟨served, idles⟩ := (step_phases run).serves serving
      refine ⟨served, fun d idle => ?_⟩
      obtain ⟨delay, before, more⟩ := idles d idle
      have bound : (s.core.slots d).reconnectDelay.toNat + timers ≤ 200 := (bounded d before).1
      change (s.core.slots d).reconnectDelay.toNat = (t.core.slots d).reconnectDelay.toNat + 1 at more
      change (t.core.slots d).reconnectDelay.toNat + (timers + 1) ≤ 200 ∧ _
      exact ⟨by omega, fun _ => delay⟩
  rcases assigned : (u.core.slots d).assignedWiimote with _ | w
  · obtain ⟨bound, delay⟩ := bounded d ⟨plugged, assigned⟩
    have zero : (u.core.slots d).reconnectDelay.toNat = 0 := by omega
    exact absurd (UInt32.toNat_inj.mp zero) (delay (by omega))
  · have drives := (serving.paired.agree w d).mpr (wiimoteOf_eq_some.mpr ⟨plugged, assigned⟩)
    exact ⟨w, rfl, controllerOf_eq_some.mp drives⟩

def Input.isTimer : Input → Bool
  | .timer _ => true
  | _ => false

theorem Input.timer_of_isTimer {input : Input} (timer : input.isTimer = true) :
    ∃ events, input = .timer events := by
  cases input with
  | timer events => exact ⟨events, rfl⟩
  | _ => cases timer

/-- The host rejects the fake Wiimote of a controller, which drives one again after 200 timers. -/
theorem every_controller_is_served_again :
    ∃ s u, Run .lenient rejectsReleasable s ∧ (s.core.slots 0).assignedWiimote = none ∧
      Reachable (observed step countTimers) (fun _ input => ∃ events, input = .timer events)
        (s, 0) (u, 200) ∧
      ∃ w, (u.core.slots 0).assignedWiimote = some w ∧ (u.core.links w).active = true ∧
        (u.core.links w).inputDevice = some 0 := by
  obtain ⟨s, reached, checked⟩ : ∃ s, Run .lenient rejectsReleasable s ∧
      (decide ((s.core.slots 0).assignedWiimote = none ∧
          hciCanRequestConnection s.core.hci = true) &&
        (execute (observed step countTimers) (fun _ input => input.isTimer) (s, 0)
          (List.replicate 200 (.timer []))).any fun state =>
            decide (state.2 = 200 ∧ (state.1.core.slots 0).device.isSome)) = true :=
    exists_of_execute [writeScanEnable, .timer [.added (plainDevice 1)], rejectCon 0]
      (by decide +kernel)
  obtain ⟨before, served⟩ := Bool.and_eq_true_iff.mp checked
  obtain ⟨unassigned, scanning⟩ := of_decide_eq_true before
  obtain ⟨⟨u, timers⟩, executed, after⟩ := (Option.any_eq_true _ _).mp served
  obtain ⟨count, plugged⟩ : timers = 200 ∧ (u.core.slots 0).device.isSome :=
    of_decide_eq_true after
  subst count
  have later : Reachable (observed step countTimers)
      (fun _ input => ∃ events, input = .timer events) (s, 0) (u, 200) :=
    reachable_execute (fun _ _ timer => Input.timer_of_isTimer timer) .start executed
  exact ⟨s, u, reached, unassigned, later,
    every_controller_is_served reached scanning later (Nat.le_refl _) 0 plugged⟩

end Fakemote
