import Fakemote.Library.EdgeLatch
import Fakemote.TickRetry
import Mathlib.Data.List.Induction

/-! The two button combinations of a controller: switching the extension and the IR emulation mode,
poll after poll since the controller was plugged in. -/

namespace Fakemote

open Program Transition EdgeLatch

def holdsCombo (combo buttons : UInt32) : Bool := buttons &&& combo = combo

def switchedExtension (extension : WiimoteExt) : WiimoteExt :=
  if extension = .nunchuk then .classic else .nunchuk

/-- A poll of the controller in a slot, as the mapping of the slot sees it. The rest of the state
may be any. -/
def Poll (d : SlotId) (device : EgcDevice) (now : Mapping) (buttons : UInt32)
    (after : Mapping) : Prop :=
  ∃ core p report q, (core.slots d).device = some device ∧ p.mappings d = now ∧
    (p.gamepads device.id).buttons = buttons ∧
    inputDeviceReportInput core (some d) p = .ok (report, q) ∧ q.mappings d = after

inductive Polled (d : SlotId) (device : EgcDevice) (start : Mapping) :
    List UInt32 → Mapping → Prop
  | start : Polled d device start [] start
  | poll {before : List UInt32} {now after : Mapping} {buttons : UInt32} :
      Polled d device start before now → Poll d device now buttons after →
      Polled d device start (before ++ [buttons]) after

def Mapping.switchFires (mapping : Mapping) (buttons : UInt32) : Bool :=
  fires (holdsCombo mapping.switchMappingCombo) mapping.switchMapping buttons

def Mapping.irSwitchFires (mapping : Mapping) (buttons : UInt32) : Bool :=
  fires (holdsCombo mapping.switchIrEmuModeCombo) mapping.switchIrEmuMode buttons

/-- The second combination is not looked at when the first one fires. -/
structure PollSwitches (device : EgcDevice) (now : Mapping) (buttons : UInt32)
    (after : Mapping) : Prop where
  combo : after.switchMappingCombo = now.switchMappingCombo
  irCombo : after.switchIrEmuModeCombo = now.switchIrEmuModeCombo
  latch : after.switchMapping = holdsCombo now.switchMappingCombo buttons
  irLatch : after.switchIrEmuMode =
    if now.switchFires buttons then now.switchIrEmuMode
    else holdsCombo now.switchIrEmuModeCombo buttons
  extension : after.extension =
    if now.switchFires buttons then switchedExtension now.extension else now.extension
  irEmuModeIdx : after.irEmuModeIdx =
    if !now.switchFires buttons && now.irSwitchFires buttons then
      nextIrEmuModeIdx device now.irEmuModeIdx
    else now.irEmuModeIdx

theorem modifyMapping_ok {p q : Periphery} {d : SlotId} {f : Mapping → Mapping} {u : Unit}
    (run : modifyMapping d f p = .ok (u, q)) :
    q.mappings d = f (p.mappings d) ∧ q.gamepads = p.gamepads := by
  cases run
  exact ⟨Function.update_self _ _ _, rfl⟩

theorem checkSwitchIrEmuMode_ok {p q : Periphery} {d : SlotId} {device : EgcDevice} {u : Unit}
    (run : checkSwitchIrEmuMode d device p = .ok (u, q)) :
    (q.mappings d).switchMappingCombo = (p.mappings d).switchMappingCombo ∧
      (q.mappings d).switchIrEmuModeCombo = (p.mappings d).switchIrEmuModeCombo ∧
      (q.mappings d).switchMapping = (p.mappings d).switchMapping ∧
      (q.mappings d).switchIrEmuMode =
        holdsCombo (p.mappings d).switchIrEmuModeCombo (p.gamepads device.id).buttons ∧
      (q.mappings d).extension = (p.mappings d).extension ∧
      (q.mappings d).irEmuModeIdx =
        if (p.mappings d).irSwitchFires (p.gamepads device.id).buttons then
          nextIrEmuModeIdx device (p.mappings d).irEmuModeIdx
        else (p.mappings d).irEmuModeIdx := by
  obtain ⟨_, _, got, run⟩ := bind_ok.mp run
  cases got
  obtain ⟨_, p1, first, run⟩ := bind_ok.mp run
  obtain ⟨held, -⟩ := modifyMapping_ok first
  rcases ite_run run with ⟨pressed, run⟩ | ⟨released, run⟩
  · obtain ⟨advanced, -⟩ := modifyMapping_ok run
    have fired : (p.mappings d).irSwitchFires (p.gamepads device.id).buttons = true := pressed
    rw [advanced, held, if_pos fired]
    exact ⟨rfl, rfl, rfl, rfl, rfl, rfl⟩
  · cases run
    have silent : ¬ (p.mappings d).irSwitchFires (p.gamepads device.id).buttons = true := released
    rw [held, if_neg silent]
    exact ⟨rfl, rfl, rfl, rfl, rfl, rfl⟩

/-- Reporting the inputs only moves the pointer. -/
theorem reportInputs_mapping {p q : Periphery} {d : SlotId} {device : EgcDevice}
    {wiimote : Option WiimoteId} {u : Unit} (run : reportInputs d device wiimote p = .ok (u, q)) :
    ∃ state, q.mappings d = { p.mappings d with irEmuState := state } := by
  obtain ⟨_, _, got, run⟩ := bind_ok.mp run
  cases got
  obtain ⟨v, _, first, run⟩ := bind_ok.mp run
  obtain ⟨-, rfl⟩ := deref_ok first
  obtain ⟨irDots, p1, dots, run⟩ := bind_ok.mp run
  cases dots
  obtain ⟨_, p2, moved, run⟩ := bind_ok.mp run
  obtain ⟨mapping, -⟩ := modifyMapping_ok moved
  cases run
  exact ⟨_, mapping⟩

theorem Poll.switches {d : SlotId} {device : EgcDevice} {now after : Mapping} {buttons : UInt32}
    (poll : Poll d device now buttons after) : PollSwitches device now buttons after := by
  obtain ⟨core, p, report, q, holds, rfl, rfl, run, rfl⟩ := poll
  obtain ⟨_, _, first, run⟩ := bind_ok.mp run
  obtain ⟨points, rfl⟩ := deref_ok first
  cases points
  obtain ⟨_, _, second, run⟩ := bind_ok.mp run
  obtain ⟨found, rfl⟩ := deref_ok second
  cases holds.symm.trans found
  obtain ⟨_, _, got, run⟩ := bind_ok.mp run
  cases got
  obtain ⟨_, p1, third, run⟩ := bind_ok.mp run
  obtain ⟨held, gamepads⟩ := modifyMapping_ok third
  rcases ite_run run with ⟨pressed, run⟩ | ⟨released, run⟩
  · obtain ⟨_, p2, fourth, run⟩ := bind_ok.mp run
    obtain ⟨switched, -⟩ := modifyMapping_ok fourth
    obtain ⟨v, _, fifth, run⟩ := bind_ok.mp run
    obtain ⟨-, rfl⟩ := deref_ok fifth
    obtain ⟨_, p3, sixth, run⟩ := bind_ok.mp run
    cases sixth
    cases run
    have fired : (p.mappings d).switchFires (p.gamepads device.id).buttons = true := pressed
    change PollSwitches device _ _ (p2.mappings d)
    rw [switched, held]
    constructor
    all_goals simp [fired, switchedExtension, holdsCombo]
  · obtain ⟨_, p2, checked, run⟩ := bind_ok.mp run
    obtain ⟨combo, irCombo, latch, irLatch, extension, idx⟩ := checkSwitchIrEmuMode_ok checked
    obtain ⟨_, p3, reported, run⟩ := bind_ok.mp run
    cases run
    obtain ⟨state, same⟩ := reportInputs_mapping reported
    have silent : (p.mappings d).switchFires (p.gamepads device.id).buttons = false :=
      Bool.eq_false_iff.mpr released
    rw [gamepads] at irLatch idx
    rw [held] at combo irCombo latch irLatch extension idx
    rw [same]
    constructor
    · exact combo
    · exact irCombo
    · exact latch
    · rw [silent]
      exact irLatch
    · rw [silent]
      exact extension
    · rw [silent]
      exact idx

theorem inputDeviceReportInput_raises {core : Core} {slot : Slot} {device : EgcDevice}
    {w : WiimoteId} (same : core.slots = fun _ => slot) (holds : slot.device = some device)
    (assigned : slot.assignedWiimote = some w) (d : SlotId) :
    Raises (fun _ => False) (inputDeviceReportInput core (some d)) := by
  have found {α : Type} (a : α) : Raises (fun _ => False) (liftM (deref (some a)) : P α) :=
    .lift fun e fault => by cases fault
  have maps (d : SlotId) (f : Mapping → Mapping) : Raises (fun _ => False) (modifyMapping d f) :=
    .modify _
  have writes (f : Session → Session) (w : WiimoteId) :
      Raises (fun _ => False) (modifySession w f) := .modify _
  have checks (d : SlotId) (device : EgcDevice) :
      Raises (fun _ => False) (checkSwitchIrEmuMode d device) :=
    Raises.get.bind fun _ => (maps _ _).bind fun _ => .when (maps _ _)
  have dots : Raises (fun _ => False) stackIrDots :=
    (Raises.bind Raises.get fun _ => (Raises.modify _).bind fun _ => .pure _).bind fun _ => .pure _
  have reports (d : SlotId) (device : EgcDevice) :
      Raises (fun _ => False) (reportInputs d device (some w)) := by
    refine Raises.get.bind fun p => (found w).bind fun w => dots.bind fun irDots => ?_
    exact (maps _ _).bind fun _ => writes _ _
  refine (found d).bind fun d => ?_
  dsimp only
  rw [same]
  dsimp only
  rw [holds, assigned]
  refine (found device).bind fun device => Raises.get.bind fun p => (maps _ _).bind fun _ => ?_
  split
  · exact (maps _ _).bind fun _ => (found w).bind fun w => (writes _ _).bind fun _ => .pure _
  · exact (checks _ _).bind fun _ => (reports _ _).bind fun _ => .pure _

theorem exists_poll (d : SlotId) (device : EgcDevice) (now : Mapping) (buttons : UInt32) :
    ∃ after, Poll d device now buttons after := by
  let core : Core :=
    { (World.init .lenient).core with slots := fun _ => ⟨some device, some 0, 0⟩ }
  let p : Periphery :=
    { (World.init .lenient).periphery with
      mappings := fun _ => now
      gamepads := fun _ => ⟨buttons, fun _ => 0, 0, 0, 0, 0, 0⟩ }
  rcases run : inputDeviceReportInput core (some d) p with fault | ⟨report, q⟩
  · exact (inputDeviceReportInput_raises rfl rfl rfl d p fault run).elim
  · exact ⟨q.mappings d, core, p, report, q, rfl, rfl, rfl, run, rfl⟩

theorem exists_polled (d : SlotId) (device : EgcDevice) (start : Mapping) (polls : List UInt32) :
    ∃ now, Polled d device start polls now := by
  induction polls using List.reverseRecOn with
  | nil => exact ⟨start, .start⟩
  | append_singleton before buttons ih =>
      obtain ⟨now, polled⟩ := ih
      obtain ⟨after, poll⟩ := exists_poll d device now buttons
      exact ⟨after, polled.poll poll⟩

def comboRises (combo : UInt32) (history : List UInt32) (buttons : UInt32) : Bool :=
  combo ≠ 0 && rises (holdsCombo combo) history buttons

def pollsWithout (combo : UInt32) (polls : List UInt32) : List UInt32 :=
  quiet (comboRises combo) [] polls

/-- Every poll switches what has just been pressed, and nothing else. -/
def FollowsCombos (d : SlotId) (device : EgcDevice) (start : Mapping)
    (polls : List UInt32) : Prop :=
  ∀ before buttons rest now after, polls = before ++ buttons :: rest →
    Polled d device start before now → Poll d device now buttons after →
    after.extension =
      (if comboRises start.switchMappingCombo before buttons then switchedExtension now.extension
      else now.extension) ∧
    after.irEmuModeIdx =
      (if !comboRises start.switchMappingCombo before buttons &&
          comboRises start.switchIrEmuModeCombo (pollsWithout start.switchMappingCombo before) buttons
      then nextIrEmuModeIdx device now.irEmuModeIdx
      else now.irEmuModeIdx)

/-- What the first poll needs of a latch that an earlier controller may have left. -/
def LatchFits (combo : UInt32) (latch : Bool) (polls : List UInt32) : Prop :=
  ∀ first ∈ polls.head?,
    if combo = 0 then latch = true else latch = true → holdsCombo combo first = false

instance (combo : UInt32) (latch : Bool) (polls : List UInt32) :
    Decidable (LatchFits combo latch polls) :=
  inferInstanceAs (Decidable (∀ first ∈ polls.head?,
    if combo = 0 then latch = true else latch = true → holdsCombo combo first = false))

theorem holdsCombo_zero (buttons : UInt32) : holdsCombo 0 buttons = true := by
  simp [holdsCombo]

theorem latchFits_first {combo : UInt32} {latch : Bool} {first : UInt32} {rest : List UInt32} :
    LatchFits combo latch (first :: rest) ↔
      fires (holdsCombo combo) latch first = comboRises combo [] first := by
  have head : LatchFits combo latch (first :: rest) ↔
      if combo = 0 then latch = true else latch = true → holdsCombo combo first = false := by
    simp [LatchFits]
  rw [head]
  by_cases absent : combo = 0
  · subst absent
    simp [comboRises, fires, holdsCombo_zero]
  · rw [if_neg absent, ← fires_nil_iff]
    simp [comboRises, absent]

/-- With a fitting latch, the code sees what has just been pressed. -/
theorem LatchFits.fires {combo : UInt32} {latch : Bool} {before rest : List UInt32}
    {buttons : UInt32} (fits : LatchFits combo latch (before ++ buttons :: rest)) :
    EdgeLatch.fires (holdsCombo combo) (latched (holdsCombo combo) latch before) buttons =
      comboRises combo before buttons := by
  by_cases start : before = []
  · subst start
    exact latchFits_first.mp fits
  · rw [fires_eq_rises before buttons start]
    by_cases absent : combo = 0
    · subst absent
      rcases List.eq_nil_or_concat before with none | ⟨earlier, last, rfl⟩
      · exact absurd none start
      · simp [comboRises, rises, holdsCombo_zero]
    · simp [comboRises, absent]

theorem LatchFits.before {combo : UInt32} {latch : Bool} {first second : List UInt32}
    (fits : LatchFits combo latch (first ++ second)) : LatchFits combo latch first := by
  intro head member
  apply fits head
  cases first with
  | nil => cases member
  | cons _ _ => exact member

structure Latches (start : Mapping) (before : List UInt32) (now : Mapping) : Prop where
  combo : now.switchMappingCombo = start.switchMappingCombo
  irCombo : now.switchIrEmuModeCombo = start.switchIrEmuModeCombo
  latch : now.switchMapping =
    latched (holdsCombo start.switchMappingCombo) start.switchMapping before
  irLatch : now.switchIrEmuMode =
    latched (holdsCombo start.switchIrEmuModeCombo) start.switchIrEmuMode
      (pollsWithout start.switchMappingCombo before)

namespace Latches

variable {start now : Mapping} {before rest : List UInt32} {buttons : UInt32}

theorem switchFires (latches : Latches start before now)
    (fits : LatchFits start.switchMappingCombo start.switchMapping (before ++ buttons :: rest)) :
    now.switchFires buttons = comboRises start.switchMappingCombo before buttons := by
  rw [Mapping.switchFires, latches.combo, latches.latch]
  exact fits.fires

theorem irSwitchFires (latches : Latches start before now)
    (fits : LatchFits start.switchIrEmuModeCombo start.switchIrEmuMode
      (pollsWithout start.switchMappingCombo before ++ buttons :: rest)) :
    now.irSwitchFires buttons =
      comboRises start.switchIrEmuModeCombo (pollsWithout start.switchMappingCombo before) buttons := by
  rw [Mapping.irSwitchFires, latches.irCombo, latches.irLatch]
  exact fits.fires

end Latches

theorem Polled.latches {d : SlotId} {device : EgcDevice} {start now : Mapping}
    {before : List UInt32} (polled : Polled d device start before now)
    (fits : LatchFits start.switchMappingCombo start.switchMapping before) :
    Latches start before now := by
  induction polled with
  | start => exact ⟨rfl, rfl, rfl, rfl⟩
  | @poll before now after buttons polled poll ih =>
      have latches := ih fits.before
      have fires := latches.switchFires fits
      have step := poll.switches
      refine ⟨step.combo.trans latches.combo, step.irCombo.trans latches.irCombo, ?_, ?_⟩
      · rw [step.latch, latches.combo, latched_append]
      · rw [step.irLatch, fires]
        by_cases pressed : comboRises start.switchMappingCombo before buttons = true
        · rw [if_pos pressed, latches.irLatch, pollsWithout, pollsWithout, quiet_on pressed]
        · rw [if_neg pressed, latches.irCombo, pollsWithout,
            quiet_off (Bool.eq_false_iff.mpr pressed), latched_append]

theorem switchedExtension_ne (extension : WiimoteExt) :
    switchedExtension extension ≠ extension := by
  cases extension <;> decide

theorem nextIrEmuModeIdx_ne (device : EgcDevice) (idx : Nat) :
    nextIrEmuModeIdx device idx ≠ idx := by
  have modes : irEmuModes.length = 3 := rfl
  have direct : bmIrEmulationModeDirect = 1 := rfl
  unfold nextIrEmuModeIdx
  dsimp only
  rw [modes, direct]
  split <;> omega

theorem choice_inj {α : Type} {first second : Bool} {yes no : α} (differ : yes ≠ no)
    (same : (if first then yes else no) = if second then yes else no) : first = second := by
  cases first <;> cases second <;> simp_all

/-- The code follows the combinations exactly if both latches fit the first polls they see. -/
theorem followsCombos_iff (d : SlotId) (device : EgcDevice) (start : Mapping)
    (polls : List UInt32) :
    FollowsCombos d device start polls ↔
      LatchFits start.switchMappingCombo start.switchMapping polls ∧
        LatchFits start.switchIrEmuModeCombo start.switchIrEmuMode
          (pollsWithout start.switchMappingCombo polls) := by
  constructor
  · intro follows
    have fits : LatchFits start.switchMappingCombo start.switchMapping polls := by
      cases polls with
      | nil =>
          intro first member
          cases member
      | cons first rest =>
          obtain ⟨after, poll⟩ := exists_poll d device start first
          have switched := (follows [] first rest start after rfl .start poll).1
          rw [poll.switches.extension] at switched
          exact latchFits_first.mpr (choice_inj (switchedExtension_ne _) switched)
    refine ⟨fits, ?_⟩
    rcases seen : pollsWithout start.switchMappingCombo polls with _ | ⟨first, rest⟩
    · intro first member
      cases member
    · obtain ⟨before, after, rfl, unseen, off⟩ := quiet_head seen
      obtain ⟨now, polled⟩ := exists_polled d device start before
      obtain ⟨next, poll⟩ := exists_poll d device now first
      have latches := polled.latches fits.before
      have advanced := (follows before first after now next rfl polled poll).2
      have silent : now.switchFires first = false := (latches.switchFires fits).trans off
      rw [poll.switches.irEmuModeIdx, silent, off] at advanced
      have fires := choice_inj (nextIrEmuModeIdx_ne _ _) advanced
      have none : pollsWithout start.switchMappingCombo before = [] := unseen
      rw [none, Mapping.irSwitchFires, latches.irCombo, latches.irLatch, none, latched_nil] at fires
      exact latchFits_first.mpr fires
  · intro ⟨fits, irFits⟩ before buttons rest now after split polled poll
    subst split
    have latches := polled.latches fits.before
    have fires := latches.switchFires fits
    refine ⟨?_, ?_⟩
    · rw [poll.switches.extension, fires]
    · rw [poll.switches.irEmuModeIdx, fires]
      cases pressed : comboRises start.switchMappingCombo before buttons with
      | true => rfl
      | false =>
          have seen : pollsWithout start.switchMappingCombo (before ++ buttons :: rest) =
              pollsWithout start.switchMappingCombo before ++ buttons ::
                quiet (comboRises start.switchMappingCombo) (before ++ [buttons]) rest := by
            rw [pollsWithout, quiet_append]
            simp [quiet, pressed, pollsWithout]
          rw [seen] at irFits
          rw [latches.irSwitchFires irFits]

theorem inputDeviceHandleAdded_run {s : World} {d : SlotId} (device : EgcDevice)
    (free : freeSlot s.core = some d) :
    inputDeviceHandleAdded device s = .ok ((), s.plugged d device) := by
  unfold inputDeviceHandleAdded
  rw [bind_run (get_run s), free]
  rfl

theorem plugged_mapping (s : World) (d : SlotId) (device : EgcDevice) :
    (s.plugged d device).periphery.mappings d =
      Mapping.added s.periphery.platform device (s.periphery.mappings d) :=
  Function.update_self _ _ _

/-- Since a controller was plugged in, the extension and the IR mode switch when and only when a
combination is pressed, exactly if the latches that the slot was left with fit. -/
theorem mode_switching_iff {s t : World} {d : SlotId} {device : EgcDevice}
    (free : freeSlot s.core = some d) (added : inputDeviceHandleAdded device s = .ok ((), t))
    (polls : List UInt32) :
    let egc := s.periphery.platform
    let combo := switchCombo device egc.leftStick egc.leftShoulder
    FollowsCombos d device (t.periphery.mappings d) polls ↔
      LatchFits combo (s.periphery.mappings d).switchMapping polls ∧
        LatchFits (switchCombo device egc.rightStick egc.rightShoulder)
          (s.periphery.mappings d).switchIrEmuMode (pollsWithout combo polls) := by
  rw [inputDeviceHandleAdded_run device free] at added
  cases added
  dsimp only
  rw [followsCombos_iff, plugged_mapping]
  rfl

/-- A controller with all buttons in a new slot. -/
theorem mode_switching_iff_fresh : ∃ t : World,
    FollowsCombos 0 (fullDevice 1) (t.periphery.mappings 0) [0x1400, 0, 0x1400] := by
  have fits := @mode_switching_iff (World.init .gamepad) _ 0 (fullDevice 1) rfl rfl
    [0x1400, 0, 0x1400]
  exact ⟨_, fits.mpr (by decide)⟩

/-- A controller without sticks switches the extension at its first poll, and one whose slot was
left with a combination held down does not see it pressed. -/
theorem mode_switching_latches :
    (∃ s t : World, Run .gamepad anyInput s ∧ freeSlot s.core = some 0 ∧
      inputDeviceHandleAdded (plainDevice 1) s = .ok ((), t) ∧
      ¬ FollowsCombos 0 (plainDevice 1) (t.periphery.mappings 0) [0]) ∧
    ∃ s t : World, Run .gamepad anyInput s ∧ freeSlot s.core = some 0 ∧
      inputDeviceHandleAdded (fullDevice 2) s = .ok ((), t) ∧
      ¬ FollowsCombos 0 (fullDevice 2) (t.periphery.mappings 0) [0x1400] := by
  constructor
  · refine ⟨World.init .gamepad, _, .start, rfl, inputDeviceHandleAdded_run _ rfl, ?_⟩
    rw [followsCombos_iff, plugged_mapping]
    decide
  · obtain ⟨s, reached, check⟩ : ∃ s, Run .gamepad anyInput s ∧
        decide (freeSlot s.core = some 0 ∧ ¬ LatchFits
          (Mapping.added s.periphery.platform (fullDevice 2)
            (s.periphery.mappings 0)).switchMappingCombo
          (Mapping.added s.periphery.platform (fullDevice 2)
            (s.periphery.mappings 0)).switchMapping [0x1400]) = true :=
      exists_of_execute (hostOpens ++ [.timer [.input 1 switchPad], .timer [.removed 1]])
        (by decide +kernel)
    obtain ⟨free, unfit⟩ := of_decide_eq_true check
    refine ⟨s, _, reached, free, inputDeviceHandleAdded_run _ free, ?_⟩
    rw [followsCombos_iff, plugged_mapping]
    exact fun fits => unfit fits.1

def Mapping.irEmuMode (mapping : Mapping) : BmIrEmulationMode :=
  irEmuModes.getD mapping.irEmuModeIdx .direct

/-- The direct mode needs a touchpad. -/
def EgcDevice.supports (device : EgcDevice) (mode : BmIrEmulationMode) : Bool :=
  mode ≠ .direct || device.desc.numTouchPoints ≠ 0

/-- The next supported mode after this one, in the cyclic order of the table. -/
def EgcDevice.nextMode (device : EgcDevice) (mode : BmIrEmulationMode) : BmIrEmulationMode :=
  ((irEmuModes.rotate (irEmuModes.idxOf mode + 1)).find? device.supports).getD mode

/-- The controller of a slot and its mapping, after any controllers before it. -/
inductive SlotHistory (d : SlotId) : EgcDevice → Mapping → Prop
  | added {s t : World} {device : EgcDevice} : freeSlot s.core = some d →
      inputDeviceHandleAdded device s = .ok ((), t) →
      SlotHistory d device (t.periphery.mappings d)
  | poll {device : EgcDevice} {now after : Mapping} {buttons : UInt32} :
      SlotHistory d device now → Poll d device now buttons after → SlotHistory d device after

def Mapping.irPressed (mapping : Mapping) (buttons : UInt32) : Bool :=
  !mapping.switchFires buttons && mapping.irSwitchFires buttons

def afterPresses (device : EgcDevice) : (presses idx : Nat) → Nat
  | 0, idx => idx
  | presses + 1, idx => nextIrEmuModeIdx device (afterPresses device presses idx)

/-- The mode suits the controller, and so do the modes that presses lead to. -/
structure SelectsModes (d : SlotId) (device : EgcDevice) (now : Mapping) : Prop where
  supported : device.supports now.irEmuMode = true
  press : ∀ buttons after, Poll d device now buttons after → now.irPressed buttons = true →
    after.irEmuMode = device.nextMode now.irEmuMode
  again : ∀ mode ∈ irEmuModes, device.supports mode = true →
    ∃ presses > 0, irEmuModes.getD (afterPresses device presses now.irEmuModeIdx) .direct = mode

theorem Poll.irEmuModeIdx {d : SlotId} {device : EgcDevice} {now after : Mapping}
    {buttons : UInt32} (poll : Poll d device now buttons after) :
    after.irEmuModeIdx =
      afterPresses device (if now.irPressed buttons then 1 else 0) now.irEmuModeIdx := by
  rw [poll.switches.irEmuModeIdx]
  unfold Mapping.irPressed
  split <;> rfl

theorem nextIrEmuModeIdx_lt (device : EgcDevice) (idx : Nat) : nextIrEmuModeIdx device idx < 3 := by
  have modes : irEmuModes.length = 3 := rfl
  unfold nextIrEmuModeIdx
  dsimp only
  rw [modes]
  split <;> omega

theorem SlotHistory.irEmuModeIdx {d : SlotId} {device : EgcDevice} {now : Mapping}
    (history : SlotHistory d device now) : now.irEmuModeIdx < 3 := by
  induction history with
  | added free added =>
      rw [inputDeviceHandleAdded_run _ free] at added
      cases added
      rw [plugged_mapping]
      exact (by decide : bmIrEmulationModeDirect < 3)
  | poll history poll ih =>
      rw [poll.irEmuModeIdx]
      split
      · exact nextIrEmuModeIdx_lt _ _
      · exact ih

/-- Without a touchpad, presses skip the entry of the relative mode in place of the direct one. -/
theorem nextIrEmuModeIdx_without {device : EgcDevice} (none : device.desc.numTouchPoints = 0)
    (idx : Nat) : nextIrEmuModeIdx device idx ≠ 1 := by
  have modes : irEmuModes.length = 3 := rfl
  have direct : bmIrEmulationModeDirect = 1 := rfl
  unfold nextIrEmuModeIdx
  dsimp only
  rw [modes, direct]
  split <;> omega

theorem nextIrEmuModeIdx_touch {device : EgcDevice} (touch : device.desc.numTouchPoints ≠ 0)
    (idx : Nat) : nextIrEmuModeIdx device idx = (idx + 1) % 3 := by
  unfold nextIrEmuModeIdx
  dsimp only
  rw [if_neg fun both => touch both.2]
  rfl

/-- Three presses go through all entries of the table. -/
theorem afterPresses_touch {device : EgcDevice} (touch : device.desc.numTouchPoints ≠ 0)
    (presses idx : Nat) (bound : idx < 3) :
    afterPresses device presses idx = (idx + presses) % 3 := by
  induction presses with
  | zero => exact (Nat.mod_eq_of_lt bound).symm
  | succ presses ih =>
      rw [afterPresses, nextIrEmuModeIdx_touch touch, ih]
      omega

theorem nextMode_touch {device : EgcDevice} (touch : device.desc.numTouchPoints ≠ 0) {idx : Nat}
    (bound : idx < 3) :
    device.nextMode (irEmuModes.getD idx .direct) = irEmuModes.getD ((idx + 1) % 3) .direct := by
  have all : device.supports = fun _ => true := by
    funext mode
    simp [EgcDevice.supports, touch]
  unfold EgcDevice.nextMode
  rw [all]
  match idx with
  | 0 => rfl
  | 1 => rfl
  | 2 => rfl

/-- The mode selection suits the controllers with a touchpad, and no others. -/
theorem ir_mode_selection_iff {d : SlotId} {device : EgcDevice} {now : Mapping}
    (history : SlotHistory d device now) :
    SelectsModes d device now ↔ device.desc.numTouchPoints ≠ 0 := by
  constructor
  · intro selects none
    obtain ⟨presses, positive, reached⟩ :=
      selects.again .relativeAnalogAxis (by decide) (by simp [EgcDevice.supports])
    obtain ⟨before, rfl⟩ := Nat.exists_eq_succ_of_ne_zero (Nat.pos_iff_ne_zero.mp positive)
    have skipped := nextIrEmuModeIdx_without none (afterPresses device before now.irEmuModeIdx)
    rw [afterPresses] at reached
    -- the relative mode is the entry at 1
    generalize nextIrEmuModeIdx device (afterPresses device before now.irEmuModeIdx) = idx
      at reached skipped
    match idx with
    | 0 => cases reached
    | 1 => exact skipped rfl
    | 2 => cases reached
    | idx + 3 => cases reached
  · intro touch
    have bound := history.irEmuModeIdx
    refine ⟨by simp [EgcDevice.supports, touch], ?_, ?_⟩
    · intro buttons after poll pressed
      have idx := poll.irEmuModeIdx
      rw [if_pos pressed, afterPresses_touch touch _ _ bound] at idx
      rw [Mapping.irEmuMode, Mapping.irEmuMode, idx, nextMode_touch touch bound]
    · intro mode listed _
      obtain ⟨entry, inside, rfl⟩ := List.mem_iff_getElem.mp listed
      have small : entry < 3 := inside
      refine ⟨3 + entry - now.irEmuModeIdx, by omega, ?_⟩
      have there : (now.irEmuModeIdx + (3 + entry - now.irEmuModeIdx)) % 3 = entry := by omega
      rw [afterPresses_touch touch _ _ bound, there]
      rw [List.getD_eq_getElem?_getD, List.getElem?_eq_getElem inside, Option.getD_some]

/-- A controller with a touchpad. -/
theorem ir_mode_selection_iff_touch : ∃ now, SelectsModes 0 ⟨1, ⟨0xFFFF, 1, 0⟩⟩ now :=
  ⟨_, (ir_mode_selection_iff (.added (s := World.init .gamepad) rfl
    (inputDeviceHandleAdded_run ⟨1, ⟨0xFFFF, 1, 0⟩⟩ rfl))).mpr (by decide)⟩

def irSwitchPad : Gamepad := ⟨0x2800, fun _ => 0, 0, 0, 0, 0, 0⟩

/-- Two presses bring a controller without a touchpad to the direct mode. -/
theorem ir_mode_direct_without_touch :
    ∃ s : World, Run .gamepad anyInput s ∧ (s.core.slots 0).device = some (fullDevice 1) ∧
      (fullDevice 1).desc.numTouchPoints = 0 ∧ (s.periphery.mappings 0).irEmuMode = .direct := by
  obtain ⟨s, reached, check⟩ : ∃ s, Run .gamepad anyInput s ∧
      decide ((s.core.slots 0).device = some (fullDevice 1) ∧
        (s.periphery.mappings 0).irEmuMode = .direct) = true :=
    exists_of_execute (hostOpens ++
      [.timer [.input 1 irSwitchPad], .timer [.input 1 ⟨0, fun _ => 0, 0, 0, 0, 0, 0⟩],
        .timer [.input 1 irSwitchPad]]) (by decide +kernel)
  obtain ⟨holds, direct⟩ := of_decide_eq_true check
  exact ⟨s, reached, holds, rfl, direct⟩

end Fakemote
