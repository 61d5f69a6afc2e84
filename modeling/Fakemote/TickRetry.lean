import Fakemote.OpenChannels
import Fakemote.KeyCoherence

/-! What a tick records as sent when its injection fails: the connection request and the Config
Requests are recorded by their results, the other messages are not. -/

namespace Fakemote

open Bytes Program Labelled Transition

inductive TickBranch
  | idle
  | connectionRequest
  | linking
  | readReply
  | extensionChange
  | switchMapping
  | dataReport
  deriving DecidableEq, Repr

def polledDevice (core : Core) (w : WiimoteId) : Option (SlotId × EgcDevice) :=
  (core.links w).inputDevice.bind fun d => (core.slots d).device.map fun device => (d, device)

def comboPressed (p : Periphery) (d : SlotId) (device : EgcDevice) : Bool :=
  (bmCheckSwitchMapping (p.gamepads device.id).buttons (p.mappings d).switchMapping
    (p.mappings d).switchMappingCombo).1

def tickBranch (core : Core) (p : Periphery) (w : WiimoteId) : TickBranch :=
  match (core.links w).basebandState with
  | .inactive => .idle
  | .requestConnection => .connectionRequest
  | .complete =>
      if (p.sessions w).aclState = .linking then .linking
      else if (p.sessions w).readRequest.size ≠ 0 then .readReply
      else if (p.sessions w).newExtension ≠ (p.sessions w).curExtension then .extensionChange
      else
        match polledDevice core w with
        | some (d, device) => if comboPressed p d device then .switchMapping else .dataReport
        | none => .idle

def ExtensionDiffers (wiimote : Session) (extData : List UInt8) : Prop :=
  wiimote.extensionRegs.read controllerDataOffset extData.length ≠ extData

def InputChanges (egc : Platform) (input : Gamepad) (extension : WiimoteExt)
    (wiimote : Session) : Prop :=
  match extension with
  | .none => wiimote.buttons ≠ 0
  | .nunchuk =>
      wiimote.buttons ≠ bmMapWiimote egc.buttonCount input.buttons egc.wiimoteButtonMap 0 ∨
        ExtensionDiffers wiimote (bmMapNunchuk egc.buttonCount input.buttons egc.axisCount
          input.axes 0 0 0 egc.nunchukButtonMap egc.nunchukAnalogAxisMap)
  | .classic =>
      wiimote.buttons ≠ 0 ∨
        ExtensionDiffers wiimote (bmMapClassic egc.buttonCount input.buttons egc.axisCount
          input.axes egc.classicButtonMap egc.classicAnalogAxisMap)
  | _ => False

def PollChanges (core : Core) (p : Periphery) (w : WiimoteId) : Prop :=
  ∃ d device, polledDevice core w = some (d, device) ∧ (core.slots d).assignedWiimote = some w ∧
    InputChanges p.platform (p.gamepads device.id) (p.mappings d).extension (p.sessions w)

/-- Input that the host has not seen, the poll of this tick included. -/
def InputToReport (core : Core) (p : Periphery) (w : WiimoteId) : Prop :=
  (p.sessions w).inputDirty = true ∨ (tickBranch core p w = .dataReport ∧ PollChanges core p w)

/-- The tick has a reply, an extension change or input to send, and only the result of its
injection says whether it has. -/
def AtStake (core : Core) (p : Periphery) (w : WiimoteId) : Prop :=
  tickBranch core p w = .readReply ∨ tickBranch core p w = .extensionChange ∨
    (tickBranch core p w = .dataReport ∧
      (p.sessions w).reportingMode ≠ inputReportIdReportDisabled ∧ InputToReport core p w)

structure Retained (s t : World) (w : WiimoteId) : Prop where
  baseband : (t.core.links w).basebandState = (s.core.links w).basebandState
  channels : ∀ chn, ((t.periphery.sessions w).channel chn).state =
    ((s.periphery.sessions w).channel chn).state
  readRequest : (t.periphery.sessions w).readRequest = (s.periphery.sessions w).readRequest
  extension : (t.periphery.sessions w).curExtension = (s.periphery.sessions w).curExtension
  mode : (t.periphery.sessions w).reportingMode = (s.periphery.sessions w).reportingMode
  input : InputToReport s.core s.periphery w → (t.periphery.sessions w).inputDirty = true

def PlacesNothing (s t : World) : Prop :=
  t.intr.produced = s.intr.produced ∧ t.periphery.bulkIn.produced = s.periphery.bulkIn.produced

def polled (core : Core) (p : Periphery) (w : WiimoteId) : Session :=
  match polledDevice core w with
  | some (d, device) =>
      if (core.slots d).assignedWiimote = some w then
        reportMapped p.platform (p.gamepads device.id) (p.mappings d).extension (p.sessions w)
      else p.sessions w
  | none => p.sessions w

theorem reportMapped_dirty (egc : Platform) (input : Gamepad) (extension : WiimoteExt)
    {wiimote other : Session} (buttons : other.buttons = wiimote.buttons)
    (regs : other.extensionRegs = wiimote.extensionRegs)
    (dirty : other.inputDirty = wiimote.inputDirty) :
    (reportMapped egc input extension other).inputDirty =
      (reportMapped egc input extension wiimote).inputDirty := by
  have plain (word : UInt16) : (other.fakeWiimoteReportInput word).inputDirty =
      (wiimote.fakeWiimoteReportInput word).inputDirty := by
    unfold Session.fakeWiimoteReportInput
    rw [buttons]
    split
    · rfl
    · exact dirty
  have formatted (word : UInt16) (data : List UInt8) :
      (other.fakeWiimoteReportInputExt egc word data).inputDirty =
        (wiimote.fakeWiimoteReportInputExt egc word data).inputDirty := by
    unfold Session.fakeWiimoteReportInputExt
    dsimp only
    rw [buttons, regs]
    split
    · rfl
    · exact dirty
  cases extension with
  | none => exact plain _
  | nunchuk => exact formatted _ _
  | classic => exact formatted _ _
  | classicWiiuPro => exact dirty
  | guitar => exact dirty
  | motionPlus => exact dirty

theorem reportMapped_dirty_iff (egc : Platform) (input : Gamepad) (extension : WiimoteExt)
    (wiimote : Session) : (reportMapped egc input extension wiimote).inputDirty = true ↔
      wiimote.inputDirty = true ∨ InputChanges egc input extension wiimote := by
  have plain (word : UInt16) : (wiimote.fakeWiimoteReportInput word).inputDirty = true ↔
      wiimote.inputDirty = true ∨ wiimote.buttons ≠ word := by
    unfold Session.fakeWiimoteReportInput
    split
    · rename_i changed
      exact iff_of_true rfl (Or.inr changed)
    · rename_i same
      exact (or_iff_left same).symm
  have formatted (word : UInt16) (data : List UInt8) :
      (wiimote.fakeWiimoteReportInputExt egc word data).inputDirty = true ↔
        wiimote.inputDirty = true ∨ wiimote.buttons ≠ word ∨ ExtensionDiffers wiimote data := by
    rw [ExtensionDiffers, ne_eq (wiimote.extensionRegs.read _ _),
      ← DiffCopy.firstDifference_eq_length (Registers.read_length _ _ _),
      ← egc.memmismatch_first _ _ (Registers.read_length _ _ _)]
    unfold Session.fakeWiimoteReportInputExt
    dsimp only
    split
    · rename_i changed
      exact iff_of_true rfl (Or.inr changed)
    · rename_i same
      exact (or_iff_left same).symm
  cases extension with
  | none => exact plain _
  | nunchuk => exact formatted _ _
  | classic => exact formatted _ _
  | classicWiiuPro => exact (or_iff_left not_false).symm
  | guitar => exact (or_iff_left not_false).symm
  | motionPlus => exact (or_iff_left not_false).symm

theorem polled_dirty_iff (core : Core) (p : Periphery) (w : WiimoteId) :
    (polled core p w).inputDirty = true ↔
      (p.sessions w).inputDirty = true ∨ PollChanges core p w := by
  unfold polled PollChanges
  cases found : polledDevice core w with
  | none => simp
  | some pair =>
      obtain ⟨d, device⟩ := pair
      dsimp only
      split
      · rename_i assigned
        rw [reportMapped_dirty_iff]
        simp [assigned]
      · rename_i other
        simp [other]

structure SameRecords (before after : Session) : Prop where
  channels : ∀ chn, (after.channel chn).state = (before.channel chn).state
  readRequest : after.readRequest = before.readRequest
  extension : after.curExtension = before.curExtension
  mode : after.reportingMode = before.reportingMode

theorem SameRecords.refl (wiimote : Session) : SameRecords wiimote wiimote :=
  ⟨fun _ => rfl, rfl, rfl, rfl⟩

theorem feed_records (egc : Platform) (wiimote : Session) (d : SlotId) (v : WiimoteId)
    (ext : WiimoteExt) (input : Gamepad) (accelerometer : Bool) (irDots : List IrDot) :
    SameRecords wiimote (Deed.session egc wiimote (.feed d v ext input accelerometer irDots)) := by
  obtain ⟨accX, accY, accZ, ir, buttons, dirty, regs, fed⟩ :=
    feed_session egc wiimote d v ext input accelerometer irDots
  rw [fed]
  refine ⟨fun chn => ?_, rfl, rfl, rfl⟩
  cases chn <;> rfl

theorem reportInputs_session {w : WiimoteId} {core : Core} {p q : Periphery} {d : SlotId}
    {device : EgcDevice} {u : Unit} (found : polledDevice core w = some (d, device))
    (run : reportInputs d device (core.slots d).assignedWiimote p = .ok (u, q)) :
    SameRecords (p.sessions w) (q.sessions w) ∧
      (q.sessions w).inputDirty = (polled core p w).inputDirty := by
  obtain ⟨_, _, got, run⟩ := bind_ok.mp run
  cases got
  obtain ⟨v, _, first, run⟩ := bind_ok.mp run
  obtain ⟨assigned, rfl⟩ := deref_ok first
  obtain ⟨stack, p1, read, run⟩ := bind_ok.mp run
  obtain ⟨-, air1⟩ := stackIrDots_air read
  obtain ⟨_, p2, emulated, run⟩ := bind_ok.mp run
  obtain ⟨-, air2⟩ := modifyMapping_still emulated fun _ => rfl
  obtain ⟨-, air3⟩ := modifySession_air run
  have sessions2 : p2.sessions = p.sessions := congrArg Air.sessions (air2.trans air1)
  have sessions3 := congrArg Air.sessions air3
  change q.sessions = Function.update p2.sessions v _ at sessions3
  rw [sessions3, sessions2]
  unfold polled
  rw [found]
  dsimp only
  by_cases own : v = w
  · rw [own] at assigned ⊢
    rw [Function.update_self, if_pos assigned]
    refine ⟨?_, ?_⟩
    · have records := feed_records p.platform (p.sessions w) d w (p.mappings d).extension
        (p.gamepads device.id) (decide (device.desc.numAccelerometers > 0))
        (irDotsFor p (p.gamepads device.id) (p.mappings d) stack).2
      simp only [Deed.session, decide_eq_true_eq] at records
      exact records
    · apply reportMapped_dirty
      all_goals split <;> rfl
  · rw [Function.update_of_ne (Ne.symm own), if_neg]
    · exact ⟨.refl _, rfl⟩
    · rw [assigned]
      exact fun same => own (Option.some.inj same)

theorem modifyMapping_gamepads {p q : Periphery} {d : SlotId} {f : Mapping → Mapping} {u : Unit}
    (run : modifyMapping d f p = .ok (u, q)) : q.gamepads = p.gamepads := by
  cases run
  rfl

theorem checkSwitchIrEmuMode_gamepads {p q : Periphery} {d : SlotId} {device : EgcDevice}
    {u : Unit} (run : checkSwitchIrEmuMode d device p = .ok (u, q)) : q.gamepads = p.gamepads := by
  obtain ⟨_, _, got, run⟩ := bind_ok.mp run
  cases got
  obtain ⟨_, p1, first, run⟩ := bind_ok.mp run
  have before := modifyMapping_gamepads first
  rcases ite_run run with ⟨-, run⟩ | ⟨-, run⟩
  · exact (modifyMapping_gamepads run).trans before
  · cases run
    exact before

theorem polled_congr {core : Core} {p q : Periphery} (platform : q.platform = p.platform)
    (air : q.air = p.air) (gamepads : q.gamepads = p.gamepads) (w : WiimoteId) :
    polled core q w = polled core p w := by
  have sessions : q.sessions = p.sessions := congrArg Air.sessions air
  have extension (d : SlotId) : (q.mappings d).extension = (p.mappings d).extension :=
    congrArg (fun a : Air => a.extensions d) air
  unfold polled
  rw [platform, gamepads, sessions]
  split
  · rw [extension]
  · rfl

theorem setExtension_records (wiimote : Session) (ext : WiimoteExt) :
    SameRecords wiimote (wiimote.fakeWiimoteSetExtension ext) := by
  refine ⟨fun chn => ?_, rfl, rfl, rfl⟩
  cases chn <;> rfl

/-- The poll tells whether the mapping is left as it is; then the dirty flag is that of the polled
session, and else it stays. -/
theorem inputDeviceReportInput_session {w : WiimoteId} {core : Core} {p q : Periphery}
    {report : Bool} (run : inputDeviceReportInput core (core.links w).inputDevice p =
      .ok (report, q)) :
    ∃ d device, polledDevice core w = some (d, device) ∧ report = !comboPressed p d device ∧
      SameRecords (p.sessions w) (q.sessions w) ∧ (q.sessions w).inputDirty =
        if report then (polled core p w).inputDirty else (p.sessions w).inputDirty := by
  obtain ⟨d, _, first, run⟩ := bind_ok.mp run
  obtain ⟨points, rfl⟩ := deref_ok first
  obtain ⟨device, _, second, run⟩ := bind_ok.mp run
  obtain ⟨holds, rfl⟩ := deref_ok second
  have found : polledDevice core w = some (d, device) := by
    rw [polledDevice, points, Option.bind_some, holds]
    rfl
  refine ⟨d, device, found, ?_⟩
  obtain ⟨_, _, got, run⟩ := bind_ok.mp run
  cases got
  obtain ⟨_, p1, held, run⟩ := bind_ok.mp run
  obtain ⟨platform1, air1⟩ := modifyMapping_still held fun _ => rfl
  have sessions1 : p1.sessions = p.sessions := congrArg Air.sessions air1
  split at run
  · rename_i pressed
    obtain ⟨_, p2, switched, run⟩ := bind_ok.mp run
    obtain ⟨-, air2⟩ := modifyMapping_air switched
    obtain ⟨v, _, third, run⟩ := bind_ok.mp run
    obtain ⟨assigned, rfl⟩ := deref_ok third
    obtain ⟨_, p3, retargeted, run⟩ := bind_ok.mp run
    obtain ⟨-, air3⟩ := modifySession_air retargeted
    cases run
    have sessions2 : p2.sessions = p1.sessions := congrArg Air.sessions air2
    have sessions3 := congrArg Air.sessions air3
    change q.sessions = Function.update p2.sessions v _ at sessions3
    rw [sessions2, sessions1] at sessions3
    have pressed_ : comboPressed p d device = true := pressed
    refine ⟨by rw [pressed_]; rfl, ?_⟩
    rw [sessions3]
    by_cases own : v = w
    · rw [own, Function.update_self]
      exact ⟨setExtension_records _ _, rfl⟩
    · rw [Function.update_of_ne (Ne.symm own)]
      exact ⟨.refl _, rfl⟩
  · rename_i released
    obtain ⟨_, p2, checked, run⟩ := bind_ok.mp run
    obtain ⟨platform2, air2⟩ := checkSwitchIrEmuMode_air checked
    obtain ⟨_, p3, reported, run⟩ := bind_ok.mp run
    cases run
    obtain ⟨records, dirty⟩ := reportInputs_session found reported
    have sessions2 : p2.sessions = p1.sessions := congrArg Air.sessions air2
    have same : polled core p2 w = polled core p w :=
      polled_congr (platform2.trans platform1) (air2.trans air1)
        ((checkSwitchIrEmuMode_gamepads checked).trans (modifyMapping_gamepads held)) w
    rw [sessions2, sessions1] at records
    rw [same] at dirty
    have released_ : comboPressed p d device = false := Bool.eq_false_iff.mpr released
    exact ⟨by rw [released_]; rfl, records, dirty⟩

theorem afterChunk_shorter (memory : Nat → UInt8) {wiimote : Session}
    (pending : wiimote.readRequest.size ≠ 0) :
    (wiimote.afterChunk memory).readRequest ≠ wiimote.readRequest := by
  have positive : 0 < wiimote.readRequest.size.toNat := by
    rcases Nat.eq_zero_or_pos wiimote.readRequest.size.toNat with zero | positive
    · exact absurd (UInt16.toNat_inj.mp zero) pending
    · exact positive
  have bound := wiimote.readRequest.size.toNat_lt
  intro same
  have size := congrArg (fun request : ReadRequest => request.size.toNat) same
  rcases reading : Device.readMemory memory wiimote wiimote.readSize with ⟨error, after, data⟩
  rw [afterChunk_request reading] at size
  split at size
  · change 0 = wiimote.readRequest.size.toNat at size
    omega
  · have part : (UInt16.ofNat wiimote.readSize).toNat = wiimote.readSize := by
      refine UInt16.toNat_ofNat_of_lt' (show wiimote.readSize < 65536 from ?_)
      unfold Session.readSize
      omega
    have most : wiimote.readSize ≤ wiimote.readRequest.size.toNat := by
      unfold Session.readSize
      omega
    have least : 0 < wiimote.readSize := by
      unfold Session.readSize
      omega
    change (wiimote.readRequest.size - UInt16.ofNat wiimote.readSize).toNat = _ at size
    have fits : UInt16.ofNat wiimote.readSize ≤ wiimote.readRequest.size := by
      rw [UInt16.le_iff_toNat_le, part]
      exact most
    rw [UInt16.toNat_sub_of_le _ _ fits, part] at size
    omega

theorem afterChange_extension {wiimote : Session}
    (pending : wiimote.newExtension ≠ wiimote.curExtension) :
    wiimote.afterChange.curExtension ≠ wiimote.curExtension := by
  change (if wiimote.curExtension = .none then wiimote.newExtension else .none) ≠ _
  split
  · exact pending
  · rename_i attached
    exact Ne.symm attached

theorem report_records (egc : Platform) (wiimote : Session) (placed : Bool) :
    SameRecords wiimote (Deed.session egc wiimote (.report placed)) := by
  obtain ⟨key, dirty, reported⟩ := report_session egc wiimote placed
  rw [reported]
  refine ⟨fun chn => ?_, rfl, rfl, rfl⟩
  cases chn <;> rfl

theorem SameRecords.trans {first second third : Session} (one : SameRecords first second)
    (two : SameRecords second third) : SameRecords first third :=
  ⟨fun chn => (two.channels chn).trans (one.channels chn), two.readRequest.trans one.readRequest,
    two.extension.trans one.extension, two.mode.trans one.mode⟩

theorem fakeWiimoteSendDataReport_session {dev : Device} {p q : Periphery} {u : Unit}
    (run : dev.fakeWiimoteSendDataReport p = .ok (u, q)) :
    SameRecords (p.sessions dev.self) (q.sessions dev.self) ∧
      ((q.sessions dev.self).inputDirty = true ↔ (p.sessions dev.self).inputDirty = true ∧
        (p.sessions dev.self).reportingMode = inputReportIdReportDisabled) := by
  rcases Device.fakeWiimoteSendDataReport_performs run with ⟨idle, rfl⟩ | ⟨placed, performed⟩
  · refine ⟨.refl _, fun dirty => ⟨dirty, ?_⟩, fun both => both.1⟩
    exact Classical.byContradiction fun enabled => idle ⟨enabled, Or.inr dirty⟩
  · have session := performed.one_session rfl
    have enabled := performed.path.1.1
    rw [session]
    refine ⟨report_records _ _ _, fun dirty => ?_, fun both => absurd both.2 enabled⟩
    cases dirty

theorem tickReports_records {core : Core} {w : WiimoteId} {p q : Periphery} {u : Unit}
    (complete : (core.links w).basebandState = .complete)
    (established : (p.sessions w).aclState ≠ .linking)
    (run : Device.tickReports ⟨core, w⟩ p = .ok (u, q)) :
    (tickBranch core p w = .readReply ∧ (q.sessions w).readRequest ≠ (p.sessions w).readRequest) ∨
    (tickBranch core p w = .extensionChange ∧
      (q.sessions w).curExtension ≠ (p.sessions w).curExtension) ∨
    ((tickBranch core p w = .switchMapping ∨ tickBranch core p w = .dataReport) ∧
      SameRecords (p.sessions w) (q.sessions w) ∧
      ((q.sessions w).inputDirty = true ↔ InputToReport core p w ∧
        (tickBranch core p w = .dataReport →
          (p.sessions w).reportingMode = inputReportIdReportDisabled))) := by
  obtain ⟨read, p1, first, run⟩ := bind_ok.mp run
  rcases Device.fakeWiimoteProcessReadRequest_performs first with ⟨rfl, idle, rfl⟩ |
    ⟨rfl, placed, performed⟩
  · obtain ⟨changed, p2, second, run⟩ := bind_ok.mp run
    rcases Device.fakeWiimoteProcessExtensionChange_performs second with ⟨rfl, same, rfl⟩ |
      ⟨rfl, padding, placed, -, performed⟩
    · obtain ⟨report, p3, third, run⟩ := bind_ok.mp run
      obtain ⟨d, device, found, decided, records, dirty⟩ := inputDeviceReportInput_session third
      have branch : tickBranch core p w =
          if comboPressed p d device then .switchMapping else .dataReport := by
        unfold tickBranch
        rw [complete, found]
        dsimp only
        rw [if_neg established, if_neg (not_not.mpr idle), if_neg (not_not.mpr same)]
      right; right
      cases pressed : comboPressed p d device with
      | true =>
          rw [pressed] at decided branch
          rw [decided] at run dirty
          cases run
          have switching : tickBranch core p w = .switchMapping := branch
          refine ⟨Or.inl switching, records, ?_⟩
          unfold InputToReport
          rw [switching, dirty]
          simp
      | false =>
          rw [pressed] at decided branch
          rw [decided] at run dirty
          have reporting : tickBranch core p w = .dataReport := branch
          have sends : Device.fakeWiimoteSendDataReport ⟨core, w⟩ p3 = .ok (u, q) := run
          obtain ⟨sent, left⟩ := fakeWiimoteSendDataReport_session sends
          refine ⟨Or.inr reporting, records.trans sent, ?_⟩
          dsimp only at left
          unfold InputToReport
          rw [left, dirty, records.mode, reporting]
          rw [if_pos (show (!false) = true from rfl), polled_dirty_iff]
          simp
    · right; left
      have pending : (p.sessions w).newExtension ≠ (p.sessions w).curExtension :=
        performed.path.1
      refine ⟨?_, ?_⟩
      · unfold tickBranch
        rw [complete]
        dsimp only
        rw [if_neg established, if_neg (not_not.mpr idle), if_pos pending]
      · cases run
        rw [performed.one_session rfl]
        exact afterChange_extension pending
  · left
    have pending : (p.sessions w).readRequest.size ≠ 0 := performed.path.1
    refine ⟨?_, ?_⟩
    · unfold tickBranch
      rw [complete]
      dsimp only
      rw [if_neg established, if_pos pending]
    · cases run
      rw [performed.one_session rfl]
      exact afterChunk_shorter _ pending

def configReqPacket (handle remoteCid : UInt16) : List UInt8 :=
  signalPacket handle l2capConfigReq l2capConfigReq
    (configReqPayload remoteCid wiiRequestMtu l2capFlushTimoDefault)

/-- Every Config Request that the session records is among the packets that were placed. -/
def RequestsPlaced (handle : UInt16) (before : Session) (placed : List Reply)
    (after : Session) : Prop :=
  ∀ chn, (after.channel chn).state = .configPend → (before.channel chn).state = .configPend ∨
    configReqPacket handle (after.channel chn).remoteCid ∈ placed.map Reply.data

structure Recorded (handle : UInt16) (before : Session) (placed : List Reply) (after : Session) :
    Prop where
  requests : RequestsPlaced handle before placed after
  quiet : placed = [] → SameRecords before after ∧ after.inputDirty = before.inputDirty

theorem RequestsPlaced.more {handle : UInt16} {before after : Session} {placed : List Reply}
    (requests : RequestsPlaced handle before placed after) (more : List Reply) :
    RequestsPlaced handle before (placed ++ more) after := by
  intro chn pending
  rw [List.map_append]
  exact (requests chn pending).imp_right (List.mem_append_left _)

theorem requestsPlaced_of_linkage {handle : UInt16} {before after : Session} {placed : List Reply}
    (same : after.linkage = before.linkage) : RequestsPlaced handle before placed after := by
  intro chn pending
  left
  rw [← pending]
  cases chn with
  | sdp => exact congrArg (fun l => l.2.1.state) same.symm
  | hidCntl => exact congrArg (fun l => l.2.2.1.state) same.symm
  | hidIntr => exact congrArg (fun l => l.2.2.2.state) same.symm

theorem Recorded.act {egc : Platform} {dev : Device} {a : Air} {deed : Deed} {before : Session}
    {placed : List Reply}
    (recorded : Recorded dev.conHandle before placed (a.sessions dev.self))
    (kind : (∃ chn psm localCid, deed = .request chn psm localCid) ∨
      (∃ chn placed, deed = .configure chn placed) ∨ deed = .finish) :
    Recorded dev.conHandle before (placed ++ a.emits egc dev deed)
      ((a.act egc dev deed).sessions dev.self) := by
  rcases kind with ⟨chn, psm, localCid, rfl⟩ | ⟨chn, sent, rfl⟩ | rfl
  · dsimp only [Air.act, Deed.target]
    rw [Function.update_self]
    refine ⟨?_, ?_⟩
    · intro other pending
      rw [Deed.session, Session.channel_setChannel] at pending ⊢
      by_cases same : other = chn
      · rw [if_pos same] at pending
        cases pending
      · rw [if_neg same] at pending ⊢
        exact recorded.requests.more _ other pending
    · intro none
      exact absurd (List.append_eq_nil_iff.mp none).2 (List.cons_ne_nil _ _)
  · dsimp only [Air.act, Deed.target]
    rw [Function.update_self]
    cases sent with
    | false =>
        change Recorded dev.conHandle before (placed ++ []) (a.sessions dev.self)
        rw [List.append_nil]
        exact recorded
    | true =>
        refine ⟨?_, ?_⟩
        · intro other pending
          rw [Deed.session, if_pos rfl, Session.channel_setChannel] at pending ⊢
          by_cases same : other = chn
          · rw [if_pos same, List.map_append]
            right
            exact List.mem_append_right _ (List.mem_singleton.mpr rfl)
          · rw [if_neg same] at pending ⊢
            exact recorded.requests.more _ other pending
        · intro none
          exact absurd (List.append_eq_nil_iff.mp none).2 (List.cons_ne_nil _ _)
  · change Recorded dev.conHandle before (placed ++ []) _
    dsimp only [Air.act, Deed.target]
    rw [Function.update_self, List.append_nil]
    have channels (chn : Channel) : (Deed.session egc (a.sessions dev.self) .finish).channel chn =
        (a.sessions dev.self).channel chn := by
      cases chn <;> rfl
    refine ⟨?_, ?_⟩
    · intro chn pending
      rw [channels] at pending ⊢
      exact recorded.requests chn pending
    · intro none
      obtain ⟨same, dirty⟩ := recorded.quiet none
      refine ⟨⟨?_, same.readRequest, same.extension, same.mode⟩, dirty⟩
      intro chn
      rw [channels]
      exact same.channels chn

theorem tickLinking_records {dev : Device} {p q : Periphery} {u : Unit}
    (run : dev.tickLinking p = .ok (u, q)) :
    ∃ placed, q.bulkIn.produced = p.bulkIn.produced ++ placed ∧
      Recorded dev.conHandle (p.sessions dev.self) placed (q.sessions dev.self) := by
  obtain ⟨deeds, shape, performed⟩ := Device.tickLinking_performs run
  apply performed.path.kept (fun a => ∃ placed, a.produced = p.bulkIn.produced ++ placed ∧
    Recorded dev.conHandle (p.sessions dev.self) placed (a.sessions dev.self))
  · refine ⟨[], (List.append_nil _).symm, ?_, fun _ => ⟨.refl _, rfl⟩⟩
    exact fun chn pending => Or.inl pending
  · intro a deed member before _
    obtain ⟨placed, produced, recorded⟩ := before
    refine ⟨placed ++ a.emits p.platform dev deed, ?_, recorded.act (shape.kinds deed member)⟩
    rw [← List.append_assoc, ← produced]
    rfl

theorem tickReports_linkage {dev : Device} {p q : Periphery} {u : Unit}
    (run : dev.tickReports p = .ok (u, q)) :
    (∃ placed, q.bulkIn.produced = p.bulkIn.produced ++ placed) ∧
      (q.sessions dev.self).linkage = (p.sessions dev.self).linkage := by
  obtain ⟨deeds, shape, performed⟩ := Device.tickReports_performs run
  exact ⟨⟨_, performed.produced⟩, performed.linkage (Or.inl shape.unlinked)⟩

theorem injectHciEvent_grows {s t : World} {event eventSize : UInt8} {fields : List UInt8}
    (run : injectHciEvent event eventSize fields s = .ok (.iosOk, t)) :
    t.intr.produced ≠ s.intr.produced := by
  obtain ⟨rest, result, -⟩ := injectHciEvent_ledger run
  have grown : t.intr.produced = s.intr.produced ++ _ := congrArg Ledger.produced result
  rw [grown]
  intro same
  exact List.cons_ne_nil _ _ (List.append_right_eq_self.mp same)

theorem injectHciEvent_periphery {s t : World} {event eventSize : UInt8} {fields : List UInt8}
    {ret : IosResult} (run : injectHciEvent event eventSize fields s = .ok (ret, t)) :
    t.core = s.core ∧ t.periphery.sessions = s.periphery.sessions ∧
      t.periphery.bulkIn = s.periphery.bulkIn := by
  obtain ⟨_, _, got, run⟩ := bind_ok.mp run
  cases got
  obtain ⟨done, _, first, run⟩ := bind_ok.mp run
  obtain ⟨-, rfl⟩ := lift_ok.mp first
  cases run
  exact ⟨rfl, rfl, rfl⟩

theorem requestConnection_retained {s t : World} {w : WiimoteId} {u : Unit}
    (requesting : (s.core.links w).basebandState = .requestConnection)
    (run : fakeWiimoteTick w s = .ok (u, t)) :
    t.periphery.sessions = s.periphery.sessions ∧
      t.periphery.bulkIn = s.periphery.bulkIn ∧
      (t.intr.produced = s.intr.produced → t.core = s.core) := by
  obtain ⟨_, _, got, run⟩ := bind_ok.mp run
  cases got
  rw [requesting] at run
  rcases ite_run run with ⟨-, run⟩ | ⟨-, run⟩
  · obtain ⟨ret, s1, injected, run⟩ := bind_ok.mp run
    obtain ⟨core, sessions, bulkIn⟩ := injectHciEvent_periphery injected
    rcases ite_run run with ⟨rfl, run⟩ | ⟨-, run⟩
    · cases run
      refine ⟨sessions, bulkIn, fun same => absurd same ?_⟩
      exact injectHciEvent_grows (t := s1) injected
    · cases run
      exact ⟨sessions, bulkIn, fun _ => core⟩
  · cases run
    exact ⟨rfl, rfl, fun _ => rfl⟩

theorem SameRecords.retained {s t : World} {w : WiimoteId}
    (records : SameRecords (s.periphery.sessions w) (t.periphery.sessions w))
    (baseband : (t.core.links w).basebandState = (s.core.links w).basebandState) :
    Retained s t w ↔ (InputToReport s.core s.periphery w →
      (t.periphery.sessions w).inputDirty = true) := by
  refine ⟨Retained.input, fun input => ?_⟩
  exact ⟨baseband, records.channels, records.readRequest, records.extension, records.mode, input⟩

theorem unconnected_retained {s t : World} {w : WiimoteId}
    (branch : tickBranch s.core s.periphery w = .idle ∨
      tickBranch s.core s.periphery w = .connectionRequest)
    (sessions : t.periphery.sessions = s.periphery.sessions)
    (baseband : (t.core.links w).basebandState = (s.core.links w).basebandState) :
    Retained s t w ↔ ¬ AtStake s.core s.periphery w := by
  have records : SameRecords (s.periphery.sessions w) (t.periphery.sessions w) := by
    rw [sessions]
    exact .refl _
  rw [records.retained baseband, sessions]
  unfold AtStake InputToReport
  rcases branch with idle | requesting
  · rw [idle]
    simp
  · rw [requesting]
    simp

theorem tickLinking_retained {s : World} {w : WiimoteId} {q : Periphery} {u : Unit}
    (complete : (s.core.links w).basebandState = .complete)
    (linking : (s.periphery.sessions w).aclState = .linking)
    (run : Device.tickLinking ⟨s.core, w⟩ s.periphery = .ok (u, q)) :
    ∃ placed, q.bulkIn.produced = s.periphery.bulkIn.produced ++ placed ∧
      RequestsPlaced (s.core.links w).hciConHandle (s.periphery.sessions w) placed (q.sessions w) ∧
      (placed = [] → (Retained s { s with periphery := q } w ↔
        ¬ AtStake s.core s.periphery w)) := by
  obtain ⟨placed, produced, recorded⟩ := tickLinking_records run
  refine ⟨placed, produced, recorded.requests, fun none => ?_⟩
  have branch : tickBranch s.core s.periphery w = .linking := by
    unfold tickBranch
    rw [complete]
    exact if_pos linking
  obtain ⟨records, dirty⟩ := recorded.quiet none
  have retained := SameRecords.retained (s := s) (t := { s with periphery := q }) records rfl
  dsimp only at retained dirty
  rw [retained, dirty]
  unfold AtStake InputToReport
  rw [branch]
  simp

theorem tickReports_retained {s : World} {w : WiimoteId} {q : Periphery} {u : Unit}
    (complete : (s.core.links w).basebandState = .complete)
    (established : (s.periphery.sessions w).aclState ≠ .linking)
    (run : Device.tickReports ⟨s.core, w⟩ s.periphery = .ok (u, q)) :
    Retained s { s with periphery := q } w ↔ ¬ AtStake s.core s.periphery w := by
  rcases tickReports_records complete established run with ⟨reply, changed⟩ |
    ⟨extension, changed⟩ | ⟨branch, records, dirty⟩
  · refine ⟨fun retained => absurd retained.readRequest changed, fun safe => ?_⟩
    exact absurd (Or.inl reply) safe
  · refine ⟨fun retained => absurd retained.extension changed, fun safe => ?_⟩
    exact absurd (Or.inr (Or.inl extension)) safe
  · have retained := SameRecords.retained (s := s) (t := { s with periphery := q }) records rfl
    rw [retained]
    dsimp only
    rw [dirty]
    unfold AtStake InputToReport
    rcases branch with switching | reporting
    · rw [switching]
      simp
    · rw [reporting]
      simp
      grind

/-- A tick that places no message leaves all that records it as it was, unless it answers a read,
announces an extension or reports input; a Config Request is recorded when it is placed. -/
theorem tick_retained_iff {s t : World} {w : WiimoteId} {u : Unit}
    (run : fakeWiimoteTick w s = .ok (u, t)) :
    (PlacesNothing s t → (Retained s t w ↔ ¬ AtStake s.core s.periphery w)) ∧
      ∃ placed, t.periphery.bulkIn.produced = s.periphery.bulkIn.produced ++ placed ∧
        RequestsPlaced (s.core.links w).hciConHandle (s.periphery.sessions w) placed
          (t.periphery.sessions w) := by
  rcases baseband : (s.core.links w).basebandState with _ | _ | _
  · have idle : tickBranch s.core s.periphery w = .idle := by
      unfold tickBranch
      rw [baseband]
    obtain ⟨_, _, got, run⟩ := bind_ok.mp run
    cases got
    rw [baseband] at run
    cases run
    refine ⟨fun _ => unconnected_retained (Or.inl idle) rfl rfl, [],
      (List.append_nil _).symm, requestsPlaced_of_linkage rfl⟩
  · have requesting : tickBranch s.core s.periphery w = .connectionRequest := by
      unfold tickBranch
      rw [baseband]
    obtain ⟨sessions, bulkIn, core⟩ := requestConnection_retained baseband run
    refine ⟨fun silent => ?_, [], ?_, ?_⟩
    · apply unconnected_retained (Or.inr requesting) sessions
      rw [core silent.1]
    · rw [bulkIn, List.append_nil]
    · rw [sessions]
      exact requestsPlaced_of_linkage rfl
  · obtain ⟨_, _, got, run⟩ := bind_ok.mp run
    cases got
    rw [baseband] at run
    obtain ⟨q, inner, rfl⟩ := onDevice_ok run
    obtain ⟨_, _, got, inner⟩ := bind_ok.mp inner
    cases got
    rcases ite_run inner with ⟨linking, inner⟩ | ⟨established, inner⟩
    · obtain ⟨placed, produced, requests, retained⟩ := tickLinking_retained baseband linking inner
      refine ⟨fun silent => retained ?_, placed, produced, requests⟩
      exact List.append_right_eq_self.mp (produced.symm.trans silent.2)
    · obtain ⟨⟨placed, produced⟩, same⟩ := tickReports_linkage inner
      refine ⟨fun _ => tickReports_retained baseband established inner, placed, produced, ?_⟩
      exact requestsPlaced_of_linkage same

/-- Without memory a connection request is not placed, and asked for again. -/
theorem tick_retained_iff_no_memory :
    ∃ s t, Run { Environment.lenient with heap := fun _ => none } anyInput s ∧
      tickBranch s.core s.periphery 0 = .connectionRequest ∧
      fakeWiimoteTick 0 s = .ok ((), t) ∧ PlacesNothing s t ∧ Retained s t 0 := by
  obtain ⟨s, reached, check⟩ : ∃ s,
      Run { Environment.lenient with heap := fun _ => none } anyInput s ∧
      (decide (tickBranch s.core s.periphery 0 = .connectionRequest) &&
        match fakeWiimoteTick 0 s with
        | .ok ((), t) => decide (t.intr.produced = s.intr.produced ∧
            t.periphery.bulkIn.produced = s.periphery.bulkIn.produced)
        | .error _ => false) = true :=
    exists_of_execute [writeScanEnable, .timer [.added (plainDevice 1)]] (by decide +kernel)
  obtain ⟨branch, check⟩ := Bool.and_eq_true_iff.mp check
  have requesting := of_decide_eq_true branch
  split at check
  · rename_i t run
    have silent : t.intr.produced = s.intr.produced ∧
        t.periphery.bulkIn.produced = s.periphery.bulkIn.produced := of_decide_eq_true check
    refine ⟨s, t, reached, requesting, run, silent, ?_⟩
    apply ((tick_retained_iff run).1 silent).mpr
    unfold AtStake
    rw [requesting]
    simp
  · cases check

/-- The host asks for 256 bytes of the EEPROM and collects no reply. -/
def readsWithoutBuffers : List Input :=
  outputReport [outputReportIdReadData, 0x00, 0x00, 0x00, 0x00, 0x01, 0x00] ::
    List.replicate 9 (.timer [])

/-- With the queue full, the chunk of the tick is lost. -/
theorem chunk_lost_when_queue_full :
    ∃ s t, Run .gamepad anyInput s ∧ fakeWiimoteTick 0 s = .ok ((), t) ∧ PlacesNothing s t ∧
      (s.periphery.sessions 0).readRequest.size = 96 ∧
      (t.periphery.sessions 0).readRequest.size = 80 ∧ ¬ Retained s t 0 := by
  obtain ⟨s, reached, check⟩ : ∃ s, Run .gamepad anyInput s ∧
      (match fakeWiimoteTick 0 s with
        | .ok ((), t) => decide ((t.intr.produced = s.intr.produced ∧
            t.periphery.bulkIn.produced = s.periphery.bulkIn.produced) ∧
            (s.periphery.sessions 0).readRequest.size = 96 ∧
            (t.periphery.sessions 0).readRequest.size = 80)
        | .error _ => false) = true :=
    exists_of_execute (hostOpens ++ readsWithoutBuffers) (by decide +kernel)
  split at check
  · rename_i t run
    obtain ⟨silent, before, after⟩ := of_decide_eq_true check
    refine ⟨s, t, reached, run, silent, before, after, fun retained => ?_⟩
    rw [retained.readRequest, before] at after
    exact absurd after (by decide)
  · cases check

end Fakemote
