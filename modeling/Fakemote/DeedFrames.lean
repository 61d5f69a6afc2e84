import Fakemote.CallEffects

/-! What the deeds leave unchanged in a session. -/

namespace Fakemote

open Bytes Program Labelled

theorem afterChunk_session (memory : Nat → UInt8) (wiimote : Session) :
    ∃ key dirty request, wiimote.afterChunk memory =
      { wiimote with
        extensionKey := key
        extensionKeyDirty := dirty
        readRequest := request } := by
  obtain ⟨key, dirty, same⟩ := Device.readMemory_session memory wiimote wiimote.readSize
  refine ⟨key, dirty, (wiimote.afterChunk memory).readRequest, ?_⟩
  rcases reading : Device.readMemory memory wiimote wiimote.readSize with ⟨error, after, data⟩
  rw [reading] at same
  rw [Device.afterChunk_of_read reading]
  dsimp only at same ⊢
  rw [same]

theorem afterChunk_request {memory : Nat → UInt8} {wiimote after : Session} {error : UInt8}
    {data : List UInt8}
    (reading : Device.readMemory memory wiimote wiimote.readSize = (error, after, data)) :
    (wiimote.afterChunk memory).readRequest =
      if error ≠ errorCodeSuccess then { wiimote.readRequest with size := 0 }
      else
        { wiimote.readRequest with
          address := wiimote.readRequest.address + UInt16.ofNat wiimote.readSize
          size := wiimote.readRequest.size - UInt16.ofNat wiimote.readSize } := by
  obtain ⟨key, dirty, kept⟩ := Device.readMemory_session memory wiimote wiimote.readSize
  rw [reading] at kept
  have request : after.readRequest = wiimote.readRequest := by
    have whole : after = { wiimote with extensionKey := key, extensionKeyDirty := dirty } := kept
    rw [whole]
  rw [Device.afterChunk_of_read reading, request]

theorem reportInput_session (wiimote : Session) (buttons : UInt16) :
    ∃ word dirty, wiimote.fakeWiimoteReportInput buttons =
      { wiimote with buttons := word, inputDirty := dirty } := by
  unfold Session.fakeWiimoteReportInput
  by_cases changed : wiimote.buttons ≠ buttons
  · exact ⟨_, _, if_pos changed⟩
  · exact ⟨wiimote.buttons, wiimote.inputDirty, if_neg changed⟩

theorem reportInputExt_session (wiimote : Session) (egc : Platform) (buttons : UInt16)
    (extData : List UInt8) :
    ∃ word dirty regs, wiimote.fakeWiimoteReportInputExt egc buttons extData =
      { wiimote with buttons := word, inputDirty := dirty, extensionRegs := regs } := by
  unfold Session.fakeWiimoteReportInputExt
  dsimp only
  by_cases changed : wiimote.buttons ≠ buttons ∨ egc.memmismatch
    (wiimote.extensionRegs.read controllerDataOffset extData.length) extData ≠ extData.length
  · exact ⟨_, _, _, if_pos changed⟩
  · exact ⟨wiimote.buttons, wiimote.inputDirty, wiimote.extensionRegs, if_neg changed⟩

theorem reportMapped_session (egc : Platform) (input : Gamepad) (extension : WiimoteExt)
    (wiimote : Session) :
    ∃ buttons dirty regs, reportMapped egc input extension wiimote =
      { wiimote with buttons := buttons, inputDirty := dirty, extensionRegs := regs } := by
  cases extension with
  | none =>
      obtain ⟨buttons, dirty, same⟩ := reportInput_session wiimote 0
      exact ⟨buttons, dirty, wiimote.extensionRegs, same⟩
  | nunchuk => exact reportInputExt_session _ _ _ _
  | classic => exact reportInputExt_session _ _ _ _
  | classicWiiuPro => exact ⟨wiimote.buttons, wiimote.inputDirty, wiimote.extensionRegs, rfl⟩
  | guitar => exact ⟨wiimote.buttons, wiimote.inputDirty, wiimote.extensionRegs, rfl⟩
  | motionPlus => exact ⟨wiimote.buttons, wiimote.inputDirty, wiimote.extensionRegs, rfl⟩

theorem feed_session (egc : Platform) (wiimote : Session) (d : SlotId) (v : WiimoteId)
    (ext : WiimoteExt) (input : Gamepad) (accelerometer : Bool) (irDots : List IrDot) :
    ∃ accX accY accZ ir buttons dirty regs,
      Deed.session egc wiimote (.feed d v ext input accelerometer irDots) =
        { wiimote with
          accX := accX
          accY := accY
          accZ := accZ
          irRegs := ir
          buttons := buttons
          inputDirty := dirty
          extensionRegs := regs } := by
  cases accelerometer with
  | true =>
      obtain ⟨buttons, dirty, regs, same⟩ := reportMapped_session egc input ext
        ((wiimote.fakeWiimoteReportAccelerometer input.accelX input.accelY
          input.accelZ).fakeWiimoteReportIrDots irDots)
      exact ⟨_, _, _, _, buttons, dirty, regs, same⟩
  | false =>
      obtain ⟨buttons, dirty, regs, same⟩ := reportMapped_session egc input ext
        (wiimote.fakeWiimoteReportIrDots irDots)
      exact ⟨wiimote.accX, wiimote.accY, wiimote.accZ, _, buttons, dirty, regs, same⟩

theorem report_session (egc : Platform) (wiimote : Session) (placed : Bool) :
    ∃ key dirty, Deed.session egc wiimote (.report placed) =
      { wiimote with extensionKey := key, extensionKeyDirty := dirty, inputDirty := false } := by
  obtain ⟨key, dirty, same⟩ := Device.extensionReport_session egc.memory wiimote
  refine ⟨key, dirty, ?_⟩
  dsimp only [Deed.session]
  rw [same]

theorem Device.Performs.one_session {dev : Device} {p q : Periphery} {deed : Deed}
    (performed : dev.Performs p [deed] q) (own : deed.target dev.self = dev.self) :
    q.sessions dev.self = deed.session p.platform (p.sessions dev.self) := by
  have air : q.air = Air.act p.platform dev p.air deed := performed.path.2
  have sessions := congrArg (fun a : Air => a.sessions dev.self) air
  change q.sessions dev.self = Function.update p.sessions (deed.target dev.self)
    (deed.session p.platform (p.sessions (deed.target dev.self))) dev.self at sessions
  rw [sessions, own, Function.update_self]

def Session.linkage (wiimote : Session) :
    AclState × L2capChannelInfo × L2capChannelInfo × L2capChannelInfo :=
  (wiimote.aclState, wiimote.psmSdpChn, wiimote.psmHidCntlChn, wiimote.psmHidIntrChn)

def Deed.links : Deed → Bool
  | request _ _ _ | configure _ _ | finish | recordCid _ _ | recordMtu _ _ _ _ _ | complete _
  | close _ _ _ _ _ => true
  | _ => false

theorem Deed.session_linkage {egc : Platform} {deed : Deed} (other : deed.links = false)
    (wiimote : Session) : (deed.session egc wiimote).linkage = wiimote.linkage := by
  cases deed with
  | request chn psm localCid => cases other
  | configure chn placed => cases other
  | finish => cases other
  | recordCid chn remoteCid => cases other
  | recordMtu chn mtu ident options placed => cases other
  | complete chn => cases other
  | close chn ident dcid scid placed => cases other
  | chunk placed =>
      obtain ⟨key, dirty, request, same⟩ := afterChunk_session egc.memory wiimote
      have after := congrArg Session.linkage same
      exact after
  | write data placed =>
      obtain ⟨irRegs, extensionRegs, dirty, eeprom, same⟩ :=
        Device.writeMemory_session wiimote data
      have after := congrArg Session.linkage same
      exact after
  | feed d v ext input accelerometer irDots =>
      obtain ⟨accX, accY, accZ, ir, buttons, dirty, regs, same⟩ :=
        feed_session egc wiimote d v ext input accelerometer irDots
      have after := congrArg Session.linkage same
      exact after
  | report placed =>
      obtain ⟨key, dirty, same⟩ := report_session egc wiimote placed
      have after := congrArg Session.linkage same
      exact after
  | _ => rfl

/-- Deeds that link only concern the fake Wiimote that does them. -/
theorem Deed.links_target {deed : Deed} (linking : deed.links = true) (self : WiimoteId) :
    deed.target self = self := by
  cases deed with
  | switch d v ext => cases linking
  | feed d v ext input accelerometer irDots => cases linking
  | _ => rfl

theorem Air.act_linkage {egc : Platform} {dev : Device} {a : Air} {deed : Deed} {w : WiimoteId}
    (other : deed.links = false ∨ w ≠ dev.self) :
    ((a.act egc dev deed).sessions w).linkage = (a.sessions w).linkage := by
  dsimp only [Air.act]
  by_cases target : w = deed.target dev.self
  · subst target
    rw [Function.update_self]
    apply Deed.session_linkage
    rcases other with unlinked | away
    · exact unlinked
    · by_contra linking
      rw [Bool.not_eq_false] at linking
      exact away (Deed.links_target linking dev.self)
  · rw [Function.update_of_ne target]

theorem Device.Performs.linkage {dev : Device} {p q : Periphery} {deeds : List Deed}
    {w : WiimoteId} (performed : dev.Performs p deeds q)
    (other : (∀ deed ∈ deeds, deed.links = false) ∨ w ≠ dev.self) :
    (q.sessions w).linkage = (p.sessions w).linkage := by
  apply performed.path.kept (fun a => (a.sessions w).linkage = (p.sessions w).linkage) rfl
  intro a deed member same _
  rw [Air.act_linkage _, same]
  exact other.imp_left fun none => none deed member

theorem Device.LinkingDeeds.kinds {wiimote : Session} {deeds : List Deed}
    (shape : Device.LinkingDeeds wiimote deeds) :
    ∀ deed ∈ deeds, (∃ chn psm localCid, deed = .request chn psm localCid) ∨
      (∃ chn placed, deed = .configure chn placed) ∨ deed = .finish := by
  intro deed member
  cases shape with
  | requestCntl invalid configures =>
      rcases List.mem_cons.mp member with rfl | member
      · exact Or.inl ⟨_, _, _, rfl⟩
      · exact Or.inr (Or.inl (configures deed member))
  | requestIntr complete invalid configures =>
      rcases List.mem_cons.mp member with rfl | member
      · exact Or.inl ⟨_, _, _, rfl⟩
      · exact Or.inr (Or.inl (configures deed member))
  | finish cntl intr => exact Or.inr (Or.inr (List.mem_singleton.mp member))
  | wait configures incomplete => exact Or.inr (Or.inl (configures deed member))

theorem Device.ReportDeeds.unlinked {wiimote : Session} {deeds : List Deed}
    (shape : Device.ReportDeeds wiimote deeds) : ∀ deed ∈ deeds, deed.links = false := by
  cases shape <;> simp [Deed.links]

theorem Device.OutputDeeds.unlinked {pending : UInt16} {report : List UInt8} {id : UInt8}
    {deeds : List Deed} (shape : Device.OutputDeeds pending report id deeds) :
    ∀ deed ∈ deeds, deed.links = false := by
  have acked {rptId : UInt8} {acks : List Deed} (shape : Device.Acks rptId acks) :
      ∀ deed ∈ acks, deed.links = false := by
    rcases shape with rfl | ⟨placed, rfl⟩ <;> simp [Deed.links]
  cases shape with
  | leds acks => simpa [Deed.links] using acked acks
  | mode found acks => simpa [Deed.links] using acked acks
  | ir acks => simpa [Deed.links] using acked acks
  | ack listed acks => exact acked acks
  | _ => simp [Deed.links]

theorem Device.ReportDeedsOf.unlinked {pending : UInt16} {data : List UInt8} {deeds : List Deed}
    (shape : Device.ReportDeedsOf pending data deeds) : ∀ deed ∈ deeds, deed.links = false := by
  cases shape with
  | @mk id rumble rest found first second =>
      intro deed member
      rcases List.mem_append.mp member with h | h
      · rcases first with rfl | ⟨on, rfl⟩
        · cases h
        · rw [List.mem_singleton.mp h]
          rfl
      · exact second.unlinked deed h

theorem inputReportPacket_congr {handle : UInt16} {wiimote after : Session}
    (same : after.linkage = wiimote.linkage) (reportId : UInt8) (data : List UInt8) :
    inputReportPacket handle after reportId data = inputReportPacket handle wiimote reportId data := by
  have channel : after.psmHidIntrChn = wiimote.psmHidIntrChn :=
    congrArg (fun linkage => linkage.2.2.2) same
  unfold inputReportPacket
  rw [channel]

end Fakemote
