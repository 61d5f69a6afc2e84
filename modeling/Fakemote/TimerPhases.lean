import Fakemote.Runs

/-! The phases of a timer in their order: the controllers that come and go, the delays, the fake
Wiimotes that get a controller, the Connection Requests and the credits. -/

namespace Fakemote

open Bytes Program Ledger

theorem EventsOnly.untimed {labels : List Label} (events : EventsOnly labels) :
    ∀ label ∈ labels, ¬ TimerMove label := by
  intro label member timed
  obtain ⟨_, _, _, rfl⟩ := events label member
  cases timed

/-- The moves of a timer are made in no other step. -/
theorem Moves.untimed {s : World} {input : Input} {labels : List Label}
    (moves : Moves s input labels) (other : ∀ events, input ≠ .timer events) :
    ∀ label ∈ labels, ¬ TimerMove label := by
  have last {events : List Label} {move : Label} (only : EventsOnly events)
      (untimed : ¬ TimerMove move) : ∀ label ∈ events ++ [move], ¬ TimerMove label := by
    intro label member
    rcases List.mem_append.mp member with before | here
    · exact only.untimed label before
    · rw [List.mem_singleton.mp here]
      exact untimed
  cases moves with
  | accept found only => exact last only nofun
  | reject found => exact last .nil nofun
  | disconnect opcode found only => exact last only nofun
  | reset opcode =>
      intro label member timed
      simp only [List.mem_cons, List.not_mem_nil, or_false] at member
      rcases member with rfl | rfl | rfl <;> cases timed
  | answer unanswering only => exact only.untimed
  | forward unanswering only => exact last only nofun
  | consume found only length =>
      intro label member
      rcases List.mem_cons.mp member with rfl | later
      · exact nofun
      · obtain ⟨placed, rfl⟩ := only label later
        exact nofun
  | translate | bufferRequest | bulkInReply => exact fun _ none => nomatch none
  | intrReply => exact last .nil nofun
  | timer => exact absurd rfl (other _)

/-- The moves of `egc_handle_events`; a removed controller empties the slot that it is found in. -/
def plugSafe (events : List EgcEvent) (core : Core) : Label → Prop
  | .plug _ device => .added device ∈ events
  | .remove d _ => ∃ device, .removed device ∈ events ∧ inputDeviceFromEgc core device = some d
  | _ => False

theorem plugSafe.mono {events more : List EgcEvent} {core : Core} {label : Label}
    (safe : plugSafe events core label) (within : events ⊆ more) : plugSafe more core label := by
  cases label with
  | plug d device => exact within safe
  | remove d placed =>
      obtain ⟨device, member, found⟩ := safe
      exact ⟨device, within member, found⟩
  | _ => exact safe

theorem handleEgcEvent_plugs {s t : World} {event : EgcEvent} {u : Unit}
    (run : handleEgcEvent event s = .ok (u, t)) :
    ∃ labels, s.ledger.Path labels t.ledger ∧ s.ledger.Along (plugSafe [event]) labels := by
  cases event with
  | added device =>
      rcases inputDeviceHandleAdded_path run with same | ⟨d, path⟩
      · exact ⟨[], same, trivial⟩
      · exact ⟨_, path, List.mem_singleton_self _, trivial⟩
  | removed device =>
      rcases inputDeviceHandleRemoved_path run with same | ⟨d, placed, found, path⟩
      · exact ⟨[], same, trivial⟩
      · exact ⟨_, path, ⟨device, List.mem_singleton_self _, found⟩, trivial⟩
  | input device state =>
      dsimp only [handleEgcEvent] at run
      refine ⟨[], withPeriphery_ledger ?_ run, trivial⟩
      exact fun _ => .modify fun _ => .still rfl rfl rfl

theorem egcHandleEvents_plugs {u : Unit} (events : List EgcEvent) :
    ∀ {s t : World}, egcHandleEvents events s = .ok (u, t) →
      ∃ labels, s.ledger.Path labels t.ledger ∧ s.ledger.Along (plugSafe events) labels := by
  induction events with
  | nil =>
      intro s t run
      cases run
      exact ⟨[], rfl, trivial⟩
  | cons event events ih =>
      intro s t run
      obtain ⟨_, s1, first, run⟩ := bind_ok.mp run
      obtain ⟨one, onePath, oneSafe⟩ := handleEgcEvent_plugs first
      obtain ⟨rest, restPath, restSafe⟩ := ih run
      refine ⟨one ++ rest, onePath.append restPath, Labelled.Along.append onePath ?_ ?_⟩
      · have within : [event] ⊆ event :: events :=
          List.cons_subset.mpr ⟨List.mem_cons_self, List.nil_subset _⟩
        exact oneSafe.mono fun _ _ safe => safe.mono within
      · exact restSafe.mono fun _ _ safe => safe.mono (List.subset_cons_self _ _)

/-- `fake_wiimote_mgr_check_assign_input_devices`, which needs page scan. -/
def Ledger.offers (a : Ledger) : Ledger :=
  if hciCanRequestConnection a.core.hci then (a.offer 0).offer 1 else a

theorem offers_ledger {s t : World} {u : Unit}
    (run : when (hciCanRequestConnection s.core.hci) fakeWiimoteMgrCheckAssignInputDevices s =
      .ok (u, t)) : t.ledger = s.ledger.offers := by
  unfold Ledger.offers
  rcases ite_run run with ⟨can, run⟩ | ⟨cannot, run⟩
  · obtain ⟨_, s1, first, second⟩ := bind_ok.mp run
    rw [if_pos (show hciCanRequestConnection s.ledger.core.hci = true from can),
      checkAssignInputDevice_ledger second, checkAssignInputDevice_ledger first]
  · cases run
    rw [if_neg (show ¬ hciCanRequestConnection s.ledger.core.hci = true from cannot)]

def Asked (w : WiimoteId) (a b : Ledger) : Prop :=
  (b = a ∧ ¬ a.core.asks w) ∨ (a.core.asks w ∧ ∃ placed, a.Path [.request w placed] b)

inductive TimerPhases (events : List EgcEvent) (a : Ledger) : Ledger → Prop
  | phases {labels : List Label} {plugged first second : Ledger} {placed : Bool} :
      a.Path labels plugged → a.Along (plugSafe events) labels →
      Asked 0 (plugged.act .tickSlots).offers first → Asked 1 first second →
      TimerPhases events a (second.act (.credit placed))

theorem periodicTimer_phases {s t : World} {events : List EgcEvent} {u : Unit}
    (run : periodicTimer events s = .ok (u, t)) : TimerPhases events s.ledger t.ledger := by
  obtain ⟨_, s1, first, run⟩ := bind_ok.mp run
  obtain ⟨labels, path, along⟩ := egcHandleEvents_plugs events first
  obtain ⟨_, s2, second, run⟩ := bind_ok.mp run
  have ticked := inputDevicesTick_ledger second
  obtain ⟨_, _, got, run⟩ := bind_ok.mp run
  cases got
  obtain ⟨_, s3, assigned, run⟩ := bind_ok.mp run
  have offered := offers_ledger assigned
  obtain ⟨_, s4, tick0, run⟩ := bind_ok.mp run
  obtain ⟨_, s5, tick1, run⟩ := bind_ok.mp run
  obtain ⟨placed, credited⟩ := sendEventNumberOfCompletedPackets_ledger run
  rw [credited]
  refine .phases path along ?_ (tickActive_path tick1)
  rw [← ticked, ← offered]
  exact tickActive_path tick0

theorem step_ok {s t : World} {input : Input} :
    step s input = .ok t ↔ handleInput input s = .ok ((), t) := by
  unfold step
  cases run : handleInput input s with
  | error fault => simp
  | ok result =>
      obtain ⟨⟨⟩, after⟩ := result
      simp

theorem step_phases {s t : World} {events : List EgcEvent}
    (run : step s (.timer events) = .ok t) : TimerPhases events s.ledger t.ledger :=
  periodicTimer_phases (step_ok.mp run)

end Fakemote
