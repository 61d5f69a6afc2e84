import Fakemote.ModeSwitching
import Fakemote.UninitialisedSession

/-! Ticks, inputs and packets of a session on different uninitialised memory. -/

namespace Fakemote

open Bytes Program

variable {leaks : Leaks}

theorem channel_camera (wiimote : Session) (regs : Registers) (chn : Channel) :
    { wiimote with irRegs := regs : Session }.channel chn = wiimote.channel chn := by
  cases chn <;> rfl

theorem setChannel_camera (wiimote : Session) (regs : Registers) (chn : Channel)
    (info : L2capChannelInfo) :
    { wiimote with irRegs := regs : Session }.setChannel chn info =
      { wiimote.setChannel chn info with irRegs := regs } := by
  cases chn <;> rfl

theorem getChannelInfo_camera (wiimote : Session) (regs : Registers) (cid : UInt16) :
    { wiimote with irRegs := regs : Session }.getChannelInfo cid = wiimote.getChannelInfo cid :=
  rfl

theorem twins_setChannel {w : WiimoteId} (chn : Channel) (f : L2capChannelInfo → L2capChannelInfo) :
    Twins leaks Eq
      (modifySession w fun wiimote => wiimote.setChannel chn (f (wiimote.channel chn)))
      (modifySession w fun wiimote => wiimote.setChannel chn (f (wiimote.channel chn))) :=
  twins_change fun wiimote regs => by rw [channel_camera, setChannel_camera]

theorem twins_generateL2capChannelId :
    Twins leaks Eq Device.generateL2capChannelId Device.generateL2capChannelId := by
  refine Relates.get.bind fun p q like => ?_
  have counted : Twins leaks Eq
      (modify fun p => { p with startingId := p.startingId + 1 } : P Unit)
      (modify fun p => { p with startingId := p.startingId + 1 } : P Unit) :=
    .modify fun s t states => { states with startingId := congrArg (· + 1) states.startingId }
  exact Relates.bind_eq counted fun _ => .pure like.startingId.symm

theorem twins_injectL2capCmd {handle size : UInt16} {code ident : UInt8}
    {payload : Except Fault (List UInt8)}
    (filled : ∀ data, payload = .ok data → size.toNat ≤ data.length) :
    Twins leaks Eq (injectBulkIn (l2capCmdMsg handle code ident size payload))
      (injectBulkIn (l2capCmdMsg handle code ident size payload)) :=
  twins_injectBulkIn (.whole (l2capCmdMsg_whole filled))

theorem twins_injectL2capConnectReq (handle psm scid : UInt16) :
    Twins leaks Eq (injectL2capConnectReq handle psm scid)
      (injectL2capConnectReq handle psm scid) :=
  twins_injectL2capCmd fun _ written => by
    cases written
    exact Nat.le_refl 4

theorem twins_injectL2capDisconnectRsp (handle : UInt16) (ident : UInt8) (dcid scid : UInt16) :
    Twins leaks Eq (injectL2capDisconnectRsp handle ident dcid scid)
      (injectL2capDisconnectRsp handle ident dcid scid) :=
  twins_injectL2capCmd fun _ written => by
    cases written
    exact Nat.le_refl 4

theorem twins_injectL2capConfigReq (handle remoteCid mtu flushTimeOut : UInt16) :
    Twins leaks Eq (injectL2capConfigReq handle remoteCid mtu flushTimeOut)
      (injectL2capConfigReq handle remoteCid mtu flushTimeOut) :=
  twins_injectL2capCmd fun _ written => by
    cases written
    simp only [UInt16.toNat_ofNat', List.length_append, bytes16_length, l2capCfgReqCpSize]
    exact Nat.mod_le _ _

theorem twins_injectL2capConfigRsp (handle remoteCid : UInt16) (ident : UInt8)
    (options : List UInt8) (optionsLen : UInt16) :
    Twins leaks Eq (injectL2capConfigRsp handle remoteCid ident options optionsLen)
      (injectL2capConfigRsp handle remoteCid ident options optionsLen) := by
  refine twins_injectL2capCmd fun data written => ?_
  obtain ⟨copied, loaded, written⟩ := except_bind_ok.mp written
  cases written
  have length := loadBytes_length loaded
  simp only [UInt16.toNat_add, UInt16.toNat_ofNat', List.length_append, bytes16_length, length,
    l2capCfgRspCpSize]
  have least := Nat.mod_le (6 % 2 ^ 16 + optionsLen.toNat) (2 ^ 16)
  omega

theorem twins_inputDeviceResume (core : Core) (inputDevice : Option SlotId) :
    Twins leaks Eq (inputDeviceResume core inputDevice) (inputDeviceResume core inputDevice) :=
  Relates.bind_eq (.lift_eq _) fun _ => twins_callEgc _

theorem twins_inputDeviceSetLeds (core : Core) (inputDevice : Option SlotId) (leds : UInt8) :
    Twins leaks Eq (inputDeviceSetLeds core inputDevice leds)
      (inputDeviceSetLeds core inputDevice leds) :=
  Relates.bind_eq (.lift_eq _) fun _ => twins_callEgc _

theorem twins_inputDeviceSetRumble (core : Core) (inputDevice : Option SlotId) (rumbleOn : Bool) :
    Twins leaks Eq (inputDeviceSetRumble core inputDevice rumbleOn)
      (inputDeviceSetRumble core inputDevice rumbleOn) :=
  Relates.bind_eq (.lift_eq _) fun _ => twins_callEgc _

theorem irEmuModes_some (index : Nat) :
    irEmuModes.getD index .direct = .direct ∨
      irEmuModes.getD index .direct = .relativeAnalogAxis ∨
      irEmuModes.getD index .direct = .absoluteAnalogAxis := by
  match index with
  | 0 => exact Or.inl rfl
  | 1 => exact Or.inr (Or.inl rfl)
  | 2 => exact Or.inr (Or.inr rfl)
  | _ + 3 => exact Or.inl rfl

theorem mapIrDot_first (sensorBarPositionTop : Bool) (dot : IrDot) (irDots others : List IrDot)
    {n : Nat} (two : n < 2) :
    (mapIrDot sensorBarPositionTop dot others).getD n ⟨0, 0⟩ =
      (mapIrDot sensorBarPositionTop dot irDots).getD n ⟨0, 0⟩ := by
  match n, two with
  | 0, _ => rfl
  | 1, _ => rfl

/-- The pointer is a touch that has left the screen; the columns of its dots are not written. -/
def PointerAway (irEmuModeIdx : Nat) (input : Gamepad) : Prop :=
  irEmuModes.getD irEmuModeIdx .direct = .direct ∧ input.touchX.toInt < 0

instance (irEmuModeIdx : Nat) (input : Gamepad) : Decidable (PointerAway irEmuModeIdx input) :=
  inferInstanceAs (Decidable (_ ∧ _))

/-- The modes of the camera that show dots; in the others its bytes are constant. -/
def ShowsDots (mode : UInt8) : Prop :=
  mode = irModeBasic ∨ mode = irModeExtended ∨ mode = irModeFull

instance (mode : UInt8) : Decidable (ShowsDots mode) :=
  inferInstanceAs (Decidable (_ ∨ _))

/-- On the screen the first two dots do not depend on what the locals held. -/
theorem irDotsFor_like {p q : Periphery} (states : LikePeriphery leaks p q) (input : Gamepad)
    (mapping : Mapping) (irDots others : List IrDot) :
    (irDotsFor q input mapping others).1 = (irDotsFor p input mapping irDots).1 ∧
      (¬ PointerAway mapping.irEmuModeIdx input → ∀ n < 2,
        (irDotsFor q input mapping others).2.getD n ⟨0, 0⟩ =
          (irDotsFor p input mapping irDots).2.getD n ⟨0, 0⟩) := by
  have touchRes : q.platform.touchRes = p.platform.touchRes := by rw [states.platform]
  have axisCount : q.platform.axisCount = p.platform.axisCount := by rw [states.platform]
  have axisMap : q.platform.irAnalogAxisMap = p.platform.irAnalogAxisMap := by
    rw [states.platform]
    rfl
  unfold irDotsFor PointerAway
  rw [states.sensorBarPositionTop, touchRes, axisCount, axisMap]
  rcases irEmuModes_some mapping.irEmuModeIdx with mode | mode | mode
  · rw [mode]
    refine ⟨rfl, fun onScreen n two => ?_⟩
    have touches : ¬ input.touchX.toInt < 0 := fun left => onScreen ⟨rfl, left⟩
    dsimp only [bmMapIrDirect]
    rw [if_neg touches, if_neg touches]
    exact mapIrDot_first _ _ _ _ two
  · rw [mode]
    exact ⟨rfl, fun _ n two => mapIrDot_first _ _ _ _ two⟩
  · rw [mode]
    exact ⟨rfl, fun _ n two => mapIrDot_first _ _ _ _ two⟩

theorem irCameraData_bound (mode : UInt8) (first second : IrDot) :
    (Session.irCameraData mode first second).length ≤ cameraDataBytes := by
  unfold Session.irCameraData
  split
  · exact Nat.le_of_ble_eq_true rfl
  · split
    · exact Nat.le_of_ble_eq_true rfl
    · split
      · exact Nat.le_of_ble_eq_true rfl
      · exact Nat.le_of_eq List.length_replicate

theorem write_outside (regs : Registers) {data : List UInt8} {start address : Nat}
    (outside : ¬ (start ≤ address ∧ address < start + data.length)) :
    regs.write start data address = regs address := by
  unfold Registers.write
  exact if_neg outside

theorem irCameraData_like {mode : UInt8} {first second other another : IrDot}
    (same : ShowsDots mode → other = first ∧ another = second) :
    Session.irCameraData mode other another = Session.irCameraData mode first second := by
  by_cases shows : ShowsDots mode
  · obtain ⟨rfl, rfl⟩ := same shows
    rfl
  · unfold ShowsDots at shows
    push Not at shows
    unfold Session.irCameraData
    rw [if_neg shows.1, if_neg shows.2.1, if_neg shows.2.2, if_neg shows.1, if_neg shows.2.1,
      if_neg shows.2.2]

theorem reportIrDots_like {wiimote other : Session} (like : LikeSession leaks wiimote other)
    {irDots others : List IrDot}
    (same : leaks.camera = false → ShowsDots (wiimote.irRegs irRegsMode) →
      ∀ n < 2, others.getD n ⟨0, 0⟩ = irDots.getD n ⟨0, 0⟩) :
    LikeSession leaks (wiimote.fakeWiimoteReportIrDots irDots)
      (other.fakeWiimoteReportIrDots others) := by
  obtain ⟨regs, rfl, kept⟩ := like
  have mode : regs irRegsMode = wiimote.irRegs irRegsMode :=
    kept _ fun inside => absurd inside.2 (by decide)
  refine ⟨_, rfl, fun address out => ?_⟩
  dsimp only [Session.fakeWiimoteReportIrDots]
  rw [mode]
  cases leak : leaks.camera with
  | false =>
      rw [irCameraData_like fun shows =>
        ⟨same leak shows 0 (by omega), same leak shows 1 (by omega)⟩]
      exact Device.write_like kept address out
  | true =>
      have outside : ∀ data : List UInt8, data.length ≤ cameraDataBytes →
          ¬ (irRegsCameraData ≤ address ∧ address < irRegsCameraData + data.length) := by
        intro data bound inside
        exact out ⟨leak, inside.1, by omega⟩
      rw [write_outside _ (outside _ (irCameraData_bound _ _ _)),
        write_outside _ (outside _ (irCameraData_bound _ _ _))]
      exact kept address out

theorem twins_stackIrDots : Twins leaks (fun _ _ => True) stackIrDots stackIrDots :=
  (twins_stackBytes _).bind fun _ _ _ => .pure trivial

theorem fakeWiimoteReportInput_camera (wiimote : Session) (regs : Registers) (buttons : UInt16) :
    { wiimote with irRegs := regs : Session }.fakeWiimoteReportInput buttons =
      { wiimote.fakeWiimoteReportInput buttons with irRegs := regs } := by
  unfold Session.fakeWiimoteReportInput
  split
  · rfl
  · rfl

theorem fakeWiimoteReportInputExt_camera (wiimote : Session) (regs : Registers) (egc : Platform)
    (buttons : UInt16) (extData : List UInt8) :
    { wiimote with irRegs := regs : Session }.fakeWiimoteReportInputExt egc buttons extData =
      { wiimote.fakeWiimoteReportInputExt egc buttons extData with irRegs := regs } := by
  unfold Session.fakeWiimoteReportInputExt
  dsimp only
  split
  · rfl
  · rfl

theorem reportMapped_camera (egc : Platform) (input : Gamepad) (extension : WiimoteExt)
    (wiimote : Session) (regs : Registers) :
    reportMapped egc input extension { wiimote with irRegs := regs } =
      { reportMapped egc input extension wiimote with irRegs := regs } := by
  unfold reportMapped
  cases extension with
  | none => exact fakeWiimoteReportInput_camera _ _ _
  | nunchuk => exact fakeWiimoteReportInputExt_camera _ _ _ _ _
  | classic => exact fakeWiimoteReportInputExt_camera _ _ _ _ _
  | classicWiiuPro => rfl
  | guitar => rfl
  | motionPlus => rfl

theorem deref_eq_some {α : Type} {x : Option α} {a : α} (run : deref x = .ok a) : x = some a := by
  cases x with
  | none => cases run
  | some b =>
      cases run
      rfl

theorem twins_reportInputs {p : Periphery} (d : SlotId) (device : EgcDevice)
    (wiimote : Option WiimoteId)
    (written : leaks.camera = false → leaks.touches = true → ∀ w, wiimote = some w →
      PointerAway (p.mappings d).irEmuModeIdx (p.gamepads device.id) →
      ¬ ShowsDots ((p.sessions w).irRegs irRegsMode)) :
    TwinsAt leaks Eq (reportInputs d device wiimote) (reportInputs d device wiimote) p := by
  refine .get_bind fun q states => ?_
  have mapped : reportMapped q.platform = reportMapped p.platform := by
    rw [states.platform]
    rfl
  have onScreen := fun touches => states.onScreen touches device.id
  rw [states.gamepads, states.mappings, mapped]
  refine .lift_bind fun w assigned => ?_
  refine (twins_stackIrDots.at_state p).bind fun irDots others p1 filled _ => ?_
  obtain ⟨state, dots⟩ := irDotsFor_like states (p.gamepads device.id) (p.mappings d) irDots others
  generalize irDotsFor p (p.gamepads device.id) (p.mappings d) irDots = first at state dots ⊢
  generalize irDotsFor q (p.gamepads device.id) (p.mappings d) others = second at state dots ⊢
  obtain ⟨irEmuState, irDots⟩ := first
  obtain ⟨_, others⟩ := second
  dsimp only at state dots ⊢
  subst state
  refine ((twins_modifyMapping d _).at_state p1).bind fun _ _ p2 moved _ => ?_
  have sessions : p2.sessions = p.sessions := by
    cases filled
    cases moved
    rfl
  refine twinsAt_modifySession fun other like => ?_
  rw [sessions] at like ⊢
  generalize shown : p.sessions w = dev at like ⊢
  have moved : LikeSession leaks
      (if device.desc.numAccelerometers > 0 then
        dev.fakeWiimoteReportAccelerometer (p.gamepads device.id).accelX
          (p.gamepads device.id).accelY (p.gamepads device.id).accelZ
      else dev)
      (if device.desc.numAccelerometers > 0 then
        other.fakeWiimoteReportAccelerometer (p.gamepads device.id).accelX
          (p.gamepads device.id).accelY (p.gamepads device.id).accelZ
      else other) := by
    split
    · exact like.change (f := fun dev => dev.fakeWiimoteReportAccelerometer _ _ _) fun _ => rfl
    · exact like
  refine (reportIrDots_like moved fun hidden shows => dots fun away => ?_).change fun regs =>
    reportMapped_camera _ _ _ _ regs
  have camera : ShowsDots ((p.sessions w).irRegs irRegsMode) := by
    rw [shown]
    split at shows
    · exact shows
    · exact shows
  cases touches : leaks.touches with
  | false => exact absurd away.2 (Int.not_lt.mpr (onScreen touches))
  | true => exact written hidden touches w (deref_eq_some assigned) away camera

theorem twins_checkSwitchIrEmuMode (d : SlotId) (device : EgcDevice) :
    Twins leaks Eq (checkSwitchIrEmuMode d device) (checkSwitchIrEmuMode d device) := by
  refine Relates.get.bind fun p q states => ?_
  rw [states.gamepads, states.mappings]
  refine Relates.bind_eq (twins_modifyMapping _ _) fun _ => ?_
  exact .when Iff.rfl (twins_modifyMapping _ _)

/-- The mode of the pointer once the second combination has been looked at. -/
def Mapping.polledIrEmuModeIdx (mapping : Mapping) (device : EgcDevice) (buttons : UInt32) : Nat :=
  if mapping.irSwitchFires buttons then nextIrEmuModeIdx device mapping.irEmuModeIdx
  else mapping.irEmuModeIdx

/-- The poll of the controller writes dots whose columns are those of the stack. -/
def FeedsStackDots (core : Core) (p : Periphery) (w : WiimoteId) : Prop :=
  tickBranch core p w = .dataReport ∧
    ∃ polled ∈ polledDevice core w, ∃ v ∈ (core.slots polled.1).assignedWiimote,
      PointerAway
        ((p.mappings polled.1).polledIrEmuModeIdx polled.2 (p.gamepads polled.2.id).buttons)
        (p.gamepads polled.2.id) ∧
      ShowsDots ((p.sessions v).irRegs irRegsMode)

instance (core : Core) (p : Periphery) (w : WiimoteId) : Decidable (FeedsStackDots core p w) :=
  inferInstanceAs (Decidable (_ ∧ _))

theorem twins_inputDeviceReportInput {p : Periphery} (core : Core) (w : WiimoteId)
    (written : leaks.camera = false → leaks.touches = true → ∀ d device v,
      polledDevice core w = some (d, device) → comboPressed p d device = false →
      (core.slots d).assignedWiimote = some v →
      PointerAway ((p.mappings d).polledIrEmuModeIdx device (p.gamepads device.id).buttons)
        (p.gamepads device.id) → ¬ ShowsDots ((p.sessions v).irRegs irRegsMode)) :
    TwinsAt leaks Eq (inputDeviceReportInput core (core.links w).inputDevice)
      (inputDeviceReportInput core (core.links w).inputDevice) p := by
  refine .lift_bind fun d points => .lift_bind fun device holds => ?_
  have polls : polledDevice core w = some (d, device) := by
    unfold polledDevice
    rw [deref_eq_some points, Option.bind_some, deref_eq_some holds]
    rfl
  refine .get_bind fun q states => ?_
  rw [states.gamepads, states.mappings]
  refine ((twins_modifyMapping d _).at_state p).bind fun _ _ p1 held _ => ?_
  refine .ite Iff.rfl (fun _ => Relates.at_state ?_ p1) fun released => ?_
  · refine Relates.bind_eq (twins_modifyMapping _ _) fun _ => ?_
    refine Relates.bind_eq (.lift_eq _) fun w => ?_
    exact Relates.bind_eq (twins_change fun _ _ => rfl) fun _ => .pure rfl
  · refine ((twins_checkSwitchIrEmuMode d device).at_state p1).bind fun _ _ p2 checked _ => ?_
    refine RelatesAt.bind (twins_reportInputs d device _ ?_) fun _ _ p3 _ same =>
      (Relates.pure rfl).at_state p3
    intro hidden touches v assigned away
    have sessions : p2.sessions = p.sessions := by
      have later := congrArg Air.sessions (checkSwitchIrEmuMode_air checked).2
      cases held
      exact later
    have gamepads : p2.gamepads = p.gamepads :=
      (checkSwitchIrEmuMode_gamepads checked).trans (modifyMapping_gamepads held)
    have mode : (p2.mappings d).irEmuModeIdx =
        (p.mappings d).polledIrEmuModeIdx device (p.gamepads device.id).buttons := by
      obtain ⟨mapping, before⟩ := modifyMapping_ok held
      obtain ⟨-, -, -, -, -, index⟩ := checkSwitchIrEmuMode_ok checked
      rw [index, mapping, before]
      rfl
    rw [gamepads, mode] at away
    rw [sessions]
    exact written hidden touches d device v polls (Bool.eq_false_iff.mpr released) assigned away

/-- The packet of a channel is an output report that asks for the status. -/
def Session.AsksStatus (wiimote : Session) (dcid : UInt16) (payload : List UInt8)
    (length : UInt16) : Prop :=
  ∃ chn ∈ wiimote.getChannelInfo dcid, (wiimote.channel chn).psm = l2capPsmHidIntr ∧
    payload[0]? = some ((hidTypeData <<< (4 : UInt8)) ||| hidParamOutput) ∧ length - 1 ≠ 0 ∧
    payload[1]? = some outputReportIdStatus

instance (wiimote : Session) (dcid : UInt16) (payload : List UInt8) (length : UInt16) :
    Decidable (wiimote.AsksStatus dcid payload length) :=
  inferInstanceAs (Decidable (∃ _ ∈ _, _))

namespace Device

variable (dev : Device)

theorem twins_checkSendConfigForNewChannel (chn : Channel) :
    Twins leaks Eq (dev.checkSendConfigForNewChannel chn)
      (dev.checkSendConfigForNewChannel chn) := by
  refine (twins_getSession _).bind fun wiimote other like => ?_
  obtain ⟨regs, rfl, -⟩ := like
  rw [channel_camera]
  refine .when Iff.rfl (Relates.bind_eq (twins_injectL2capConfigReq _ _ _ _) fun ret => ?_)
  exact .when Iff.rfl (twins_setChannel chn fun info => { info with state := .configPend })

theorem twins_requestChannel (chn : Channel) (psm : UInt16) :
    Twins leaks Eq (dev.requestChannel chn psm) (dev.requestChannel chn psm) := by
  refine Relates.bind_eq twins_generateL2capChannelId fun localCid => ?_
  refine Relates.bind_eq (twins_injectL2capConnectReq _ _ _) fun ret => ?_
  refine Relates.bind_eq (twins_assertThat Iff.rfl _) fun _ => ?_
  exact twins_setChannel chn fun _ => .setup psm localCid

theorem twins_checkSendConfigs : Twins leaks Eq dev.checkSendConfigs dev.checkSendConfigs :=
  Relates.bind_eq (dev.twins_checkSendConfigForNewChannel _) fun _ =>
    dev.twins_checkSendConfigForNewChannel _

theorem twins_tickLinking : Twins leaks Eq dev.tickLinking dev.tickLinking := by
  refine (twins_getSession _).bind fun wiimote other like => ?_
  obtain ⟨regs, rfl, -⟩ := like
  refine .ite Iff.rfl ?_ (.ite Iff.rfl ?_ (.ite Iff.rfl ?_ dev.twins_checkSendConfigs))
  · exact Relates.bind_eq (dev.twins_requestChannel _ _) fun _ => dev.twins_checkSendConfigs
  · exact Relates.bind_eq (dev.twins_requestChannel _ _) fun _ => dev.twins_checkSendConfigs
  · exact Relates.bind_eq (twins_change fun _ _ => rfl) fun _ => twins_inputDeviceResume _ _

theorem twins_tickReports {p : Periphery} (complete : dev.link.basebandState = .complete)
    (established : (p.sessions dev.self).aclState ≠ .linking)
    (padding : tickBranch dev.core p dev.self = .extensionChange → leaks.padding = true)
    (written : leaks.camera = false → leaks.touches = true →
      ¬ FeedsStackDots dev.core p dev.self) :
    TwinsAt leaks Eq dev.tickReports dev.tickReports p := by
  refine (dev.twins_fakeWiimoteProcessReadRequest.at_state p).bind fun read _ p1 first same => ?_
  subst same
  refine .ite Iff.rfl (fun _ => (Relates.pure rfl).at_state p1) fun unread => ?_
  obtain ⟨-, idle, rfl⟩ | ⟨sent, -⟩ := fakeWiimoteProcessReadRequest_performs first
  case inr => exact absurd sent unread
  have branch : (p.sessions dev.self).newExtension ≠ (p.sessions dev.self).curExtension →
      tickBranch dev.core p dev.self = .extensionChange := by
    intro differs
    unfold tickBranch
    rw [show (dev.core.links dev.self).basebandState = .complete from complete]
    dsimp only
    rw [if_neg established, if_neg (not_not_intro idle), if_pos differs]
  refine (dev.twins_fakeWiimoteProcessExtensionChange fun differs =>
    padding (branch differs)).bind fun changed _ p2 second same => ?_
  subst same
  refine .ite Iff.rfl (fun _ => (Relates.pure rfl).at_state p2) fun unchanged => ?_
  obtain ⟨-, agree, rfl⟩ | ⟨sent, -⟩ := fakeWiimoteProcessExtensionChange_performs second
  case inr => exact absurd sent unchanged
  refine RelatesAt.bind (twins_inputDeviceReportInput dev.core dev.self ?_)
    fun report _ p3 _ same => ?_
  · intro hidden touches d device v polls released assigned away shows
    refine written hidden touches ⟨?_, (d, device), polls, v, assigned, away, shows⟩
    unfold tickBranch
    rw [show (dev.core.links dev.self).basebandState = .complete from complete, polls]
    dsimp only
    rw [if_neg established, if_neg (not_not_intro idle), if_neg (not_not_intro agree), released]
    rfl
  · subst same
    exact (Relates.when Iff.rfl dev.twins_fakeWiimoteSendDataReport).at_state p3

theorem twins_tickConnected {p : Periphery} (complete : dev.link.basebandState = .complete)
    (padding : tickBranch dev.core p dev.self = .extensionChange → leaks.padding = true)
    (written : leaks.camera = false → leaks.touches = true →
      ¬ FeedsStackDots dev.core p dev.self) :
    TwinsAt leaks Eq dev.tickConnected dev.tickConnected p := by
  refine ((twins_getSession dev.self).at_state p).bind fun wiimote other p1 got like => ?_
  obtain ⟨rfl, rfl⟩ := getSession_ok got
  obtain ⟨regs, rfl, -⟩ := like
  refine .ite Iff.rfl (fun _ => dev.twins_tickLinking.at_state p) fun established => ?_
  exact dev.twins_tickReports complete established padding written

theorem twins_channelOrFault (localCid : UInt16) :
    Twins leaks Eq (dev.channelOrFault localCid) (dev.channelOrFault localCid) := by
  refine (twins_getSession _).bind fun wiimote other like => ?_
  obtain ⟨regs, rfl, -⟩ := like
  exact .lift_eq _

theorem twins_handleL2capConfigReq (ident : UInt8) (dcid flags : UInt16) (options : List UInt8)
    (optionsSize : UInt16) :
    Twins leaks Eq (dev.handleL2capConfigReq ident dcid flags options optionsSize)
      (dev.handleL2capConfigReq ident dcid flags options optionsSize) := by
  refine Relates.bind_eq (twins_assertThat Iff.rfl _) fun _ => ?_
  refine Relates.bind_eq (dev.twins_channelOrFault _) fun chn => ?_
  refine Relates.bind_eq (.lift_eq _) fun remoteMtu => ?_
  refine (twins_getSession _).bind fun wiimote other like => ?_
  obtain ⟨regs, rfl, -⟩ := like
  rw [channel_camera]
  refine Relates.bind_eq (twins_setChannel chn fun _ => _) fun _ => ?_
  exact Relates.bind_eq (twins_injectL2capConfigRsp _ _ _ _ _) fun _ => .pure rfl

theorem twins_handleConnectRsp (dcid scid status : UInt16) :
    Twins leaks Eq (dev.handleConnectRsp dcid scid status)
      (dev.handleConnectRsp dcid scid status) := by
  refine Relates.bind_eq (twins_assertThat Iff.rfl _) fun _ => ?_
  refine Relates.bind_eq (dev.twins_channelOrFault _) fun chn => ?_
  exact twins_setChannel chn fun info => { info with remoteCid := dcid }

theorem twins_handleConfigRsp (scid result : UInt16) :
    Twins leaks Eq (dev.handleConfigRsp scid result) (dev.handleConfigRsp scid result) := by
  refine Relates.bind_eq (twins_assertThat Iff.rfl _) fun _ => ?_
  refine Relates.bind_eq (dev.twins_channelOrFault _) fun chn => ?_
  exact twins_setChannel chn fun info => { info with state := .complete }

theorem twins_handleDisconnectReq (ident : UInt8) (dcid scid : UInt16) :
    Twins leaks Eq (dev.handleDisconnectReq ident dcid scid)
      (dev.handleDisconnectReq ident dcid scid) := by
  refine Relates.bind_eq (dev.twins_channelOrFault _) fun chn => ?_
  refine Relates.bind_eq (twins_setChannel chn fun info => { info with valid := false }) fun _ => ?_
  exact Relates.bind_eq (twins_injectL2capDisconnectRsp _ _ _ _) fun _ => .pure rfl

theorem twins_fakeWiimoteUpdateRumble (rumbleOn : Bool) :
    Twins leaks Eq (dev.fakeWiimoteUpdateRumble rumbleOn)
      (dev.fakeWiimoteUpdateRumble rumbleOn) := by
  refine (twins_getSession _).bind fun wiimote other like => ?_
  obtain ⟨regs, rfl, -⟩ := like
  refine .when Iff.rfl (Relates.bind_eq (twins_change fun _ _ => rfl) fun _ => ?_)
  exact twins_inputDeviceSetRumble _ _ _

theorem twins_ackReport (flags rptId : UInt8) :
    Twins leaks Eq (dev.ackReport flags rptId) (dev.ackReport flags rptId) :=
  .when Iff.rfl (Relates.bind_eq (dev.twins_wiimoteSendAck _ _) fun _ => .pure rfl)

theorem twins_handleReadData (report : List UInt8) :
    Twins leaks Eq (dev.handleReadData report) (dev.handleReadData report) := by
  refine (twins_getSession _).bind fun wiimote other like => ?_
  obtain ⟨regs, rfl, -⟩ := like
  refine .ite Iff.rfl ?_ ?_
  · exact Relates.bind_eq (dev.twins_wiimoteSendAck _ _) fun _ => .pure rfl
  · refine Relates.bind_eq (.lift_eq _) fun flags => ?_
    refine Relates.bind_eq (.lift_eq _) fun slave => ?_
    refine Relates.bind_eq (.lift_eq _) fun address => ?_
    refine Relates.bind_eq (.lift_eq _) fun size => ?_
    refine Relates.bind_eq (twins_change fun _ _ => rfl) fun _ => ?_
    exact Relates.bind_eq dev.twins_fakeWiimoteProcessReadRequest fun _ => .pure rfl

theorem twins_handleOutputReport {id : UInt8} (flags : UInt8) (report : List UInt8)
    (padding : id = outputReportIdStatus → leaks.padding = true) :
    Twins leaks Eq (dev.handleOutputReport id flags report)
      (dev.handleOutputReport id flags report) := by
  unfold handleOutputReport
  refine .ite Iff.rfl (.pure rfl) (.ite Iff.rfl ?led (.ite Iff.rfl ?mode (.ite Iff.rfl ?ir
    (.ite Iff.rfl (dev.twins_ackReport _ _) fun p => RelatesAt.ite Iff.rfl ?status ?rest))))
  case led =>
    refine Relates.bind_eq (twins_change fun _ _ => rfl) fun _ => ?_
    exact Relates.bind_eq (twins_inputDeviceSetLeds _ _ _) fun _ => dev.twins_ackReport _ _
  case mode =>
    refine Relates.bind_eq (.lift_eq _) fun mode => ?_
    exact Relates.bind_eq (twins_change fun _ _ => rfl) fun _ => dev.twins_ackReport _ _
  case ir => exact Relates.bind_eq (twins_change fun _ _ => rfl) fun _ => dev.twins_ackReport _ _
  case status =>
    intro asked
    refine Relates.at_state (Relates.bind_eq ?_ fun _ => .pure rfl) p
    exact dev.twins_wiimoteSendInputReportStatus (padding asked)
  case rest =>
    refine fun _ => Relates.at_state ?_ p
    refine .ite Iff.rfl (dev.twins_fakeWiimoteProcessWriteRequest _) ?_
    refine .ite Iff.rfl (dev.twins_handleReadData _) (.ite Iff.rfl (.pure rfl) ?_)
    refine .ite Iff.rfl (dev.twins_ackReport _ _) ?_
    exact .ite Iff.rfl (dev.twins_ackReport _ _) (.throw _)

theorem twins_handleHidIntrDataOutput {data : List UInt8} {size : UInt16}
    (padding : size ≠ 0 → load8 data 0 = .ok outputReportIdStatus → leaks.padding = true) :
    Twins leaks Eq (dev.handleHidIntrDataOutput data size)
      (dev.handleHidIntrDataOutput data size) := by
  refine fun p => RelatesAt.ite Iff.rfl (fun _ => (Relates.pure rfl).at_state p) fun some => ?_
  refine Relates.at_state ?_ p
  refine Relates.bind_eq (.lift_eq _) fun flags => ?_
  refine Relates.bind_eq (dev.twins_fakeWiimoteUpdateRumble _) fun _ => ?_
  refine fun p => RelatesAt.lift_bind fun id found => Relates.at_state ?_ p
  refine dev.twins_handleOutputReport _ _ fun asked => padding some ?_
  rw [found, asked]

theorem twins_handleChannelData {p : Periphery} (dcid : UInt16) (payload : List UInt8)
    (length : UInt16)
    (padding : (p.sessions dev.self).AsksStatus dcid payload length → leaks.padding = true) :
    TwinsAt leaks Eq (dev.handleChannelData dcid payload length)
      (dev.handleChannelData dcid payload length) p := by
  refine ((twins_getSession dev.self).at_state p).bind fun wiimote other p1 got like => ?_
  obtain ⟨rfl, rfl⟩ := getSession_ok got
  obtain ⟨regs, rfl, -⟩ := like
  have known := getChannelInfo_camera (p.sessions dev.self) regs dcid
  rw [known]
  rcases found : (p.sessions dev.self).getChannelInfo dcid with _ | chn
  · exact (Relates.pure rfl).at_state p
  · dsimp only
    rw [channel_camera]
    refine .ite Iff.rfl (fun interrupt => ?_) fun _ => (Relates.pure rfl).at_state p
    refine .lift_bind fun header first => .when Iff.rfl fun output => ?_
    refine (dev.twins_handleHidIntrDataOutput fun some second => ?_).at_state p
    rw [load8_ok] at first second
    rw [List.getElem?_drop] at second
    exact padding ⟨chn, found, interrupt, output ▸ first, some, second⟩

end Device

end Fakemote
