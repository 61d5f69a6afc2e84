import Fakemote.Faults

/-! What can stop the module at a packet or a reply: never an access through NULL, and never a write
past a block of the heap. -/

namespace Fakemote

open Bytes Program Transition

/-- Packets may be cut short, and assertions may fail. -/
structure Tolerates (F : Fault → Prop) : Prop where
  outOfBounds : F .outOfBounds
  assertion : ∀ failed, F (.assertion failed)

section Packets

variable {F : Fault → Prop} (tolerates : Tolerates F)
include tolerates

theorem errors_load8 (buffer : List UInt8) (offset : Nat) : ErrorsIn F (load8 buffer offset) :=
  errors_orFault tolerates.outOfBounds _

theorem errors_load16 (buffer : List UInt8) (offset : Nat) : ErrorsIn F (load16 buffer offset) :=
  errors_orFault tolerates.outOfBounds _

theorem errors_loadBytes (buffer : List UInt8) (offset count : Nat) :
    ErrorsIn F (loadBytes buffer offset count) :=
  errors_orFault tolerates.outOfBounds _

theorem errors_loadBdaddr (buffer : List UInt8) (offset : Nat) :
    ErrorsIn F (loadBdaddr buffer offset) := by
  unfold loadBdaddr
  split
  · exact .ok _
  · exact .error tolerates.outOfBounds

theorem errors_store16 (buffer : List UInt8) (offset : Nat) (word : UInt16) :
    ErrorsIn F (store16 buffer offset word) :=
  errors_orFault tolerates.outOfBounds _

theorem errors_asserted {α : Type} (failed : Assertion) (x : Option α) :
    ErrorsIn F (orFault (.assertion failed) x) :=
  errors_orFault (tolerates.assertion failed) x

theorem raises_asserted (condition : Prop) [Decidable condition] (failed : Assertion) :
    Raises F (assertThat condition failed) :=
  .ite (.pure _) (.throw (tolerates.assertion failed))

theorem raises_assertInjected (ret : IosResult) : Raises F (assertInjected ret) :=
  .ite (.pure _) (.throw (tolerates.assertion .injected))

theorem errors_configOptions (fuel : Nat) :
    ∀ (options : List UInt8) (offset size : Nat) (remoteMtu : UInt16),
      ErrorsIn F (Device.configOptions fuel options offset size remoteMtu) := by
  induction fuel with
  | zero => exact fun _ _ _ remoteMtu => .ok remoteMtu
  | succ fuel ih =>
      intro options offset size remoteMtu
      refine .ite ?_ (.ok _)
      refine .bind (errors_load8 tolerates _ _) fun type _ => ?_
      refine .bind (errors_load8 tolerates _ _) fun length _ => ?_
      refine .ite (.ite ?_ (.error (tolerates.assertion _)))
        (.ite (.ite (ih _ _ _ _) (.error (tolerates.assertion _))) (ih _ _ _ _))
      exact .bind (errors_load16 tolerates _ _) fun mtu _ => ih _ _ _ _

/-- The response has room for the options unless its size wraps. -/
theorem raises_injectL2capConfigRsp (handle remoteCid : UInt16) (ident : UInt8)
    {options : List UInt8} (optionsLen : UInt16) (short : options.length + 18 < 65536) :
    Raises F (injectL2capConfigRsp handle remoteCid ident options optionsLen) := by
  have copies : ErrorsIn F (loadBytes options 0 optionsLen.toNat) :=
    errors_loadBytes tolerates _ _ _
  refine .bind .get fun _ => .bind (.lift (errors_inject ?_ ?_)) fun _ => .bind (.modify _)
    fun _ => .pure _
  · have payload := copies.bind (f := fun copied => .ok (bytes16 (htole16 remoteCid) ++
      bytes16 (htole16 0) ++ bytes16 (htole16 l2capSuccess) ++ copied)) fun _ _ => .ok _
    exact .bind (.bind (.bind payload fun _ _ => .ok _) fun _ _ => .ok _) fun _ _ => .ok _
  · intro data written
    obtain ⟨frame, framed, written⟩ := except_bind_ok.mp written
    obtain ⟨command, commanded, framed⟩ := except_bind_ok.mp framed
    obtain ⟨payload, paid, commanded⟩ := except_bind_ok.mp commanded
    obtain ⟨copied, loaded, paid⟩ := except_bind_ok.mp paid
    cases paid
    cases commanded
    cases framed
    cases written
    have length := loadBytes_length loaded
    have inside := loadBytes_readable.mp ⟨copied, loaded⟩
    simp only [l2capCmdMsg, l2capMsg, hciAclMsg, List.length_append, bytes16_length,
      List.length_cons, List.length_nil, length, UInt16.toNat_add, UInt16.toNat_ofNat',
      hciAclDataHdrSize, l2capHdrSize, l2capCmdHdrSize, l2capCfgRspCpSize]
    omega

namespace Device

variable (dev : Device)

theorem raises_channelOrFault (localCid : UInt16) : Raises F (dev.channelOrFault localCid) :=
  .bind (raises_getSession _) fun _ => .lift (errors_asserted tolerates _ _)

theorem raises_handleL2capConfigReq (ident : UInt8) (dcid flags : UInt16) {options : List UInt8}
    (optionsSize : UInt16) (short : options.length + 18 < 65536) :
    Raises F (dev.handleL2capConfigReq ident dcid flags options optionsSize) := by
  refine .bind (raises_asserted tolerates _ _) fun _ => ?_
  refine .bind (dev.raises_channelOrFault tolerates _) fun chn => ?_
  refine .lift_bind (errors_configOptions tolerates _ _ _ _ _) fun remoteMtu _ => ?_
  refine .bind (raises_getSession _) fun wiimote => .bind (.modify _) fun _ => ?_
  exact .bind (raises_injectL2capConfigRsp tolerates _ _ _ _ short) fun _ => .pure _

theorem raises_handleConnectRsp (dcid scid status : UInt16) :
    Raises F (dev.handleConnectRsp dcid scid status) :=
  .bind (raises_asserted tolerates _ _) fun _ =>
    .bind (dev.raises_channelOrFault tolerates _) fun _ => .modify _

theorem raises_handleConfigRsp (scid result : UInt16) :
    Raises F (dev.handleConfigRsp scid result) :=
  .bind (raises_asserted tolerates _ _) fun _ =>
    .bind (dev.raises_channelOrFault tolerates _) fun _ => .modify _

theorem raises_handleDisconnectReq (ident : UInt8) (dcid scid : UInt16) :
    Raises F (dev.handleDisconnectReq ident dcid scid) :=
  .bind (dev.raises_channelOrFault tolerates _) fun _ => .bind (.modify _) fun _ =>
    .bind (raises_injectL2capDisconnectRsp _ _ _ _) fun _ => .pure _

theorem raises_fakeWiimoteProcessWriteRequest (report : List UInt8) :
    Raises F (dev.fakeWiimoteProcessWriteRequest report) := by
  refine .lift_bind (errors_load8 tolerates _ _) fun size _ => .ite (.pure _) ?_
  refine .lift_bind (errors_load8 tolerates _ _) fun space _ => ?_
  refine .lift_bind (errors_load8 tolerates _ _) fun slave _ => ?_
  refine .lift_bind (errors_load16 tolerates _ _) fun address _ => ?_
  refine .lift_bind (.ite (errors_loadBytes tolerates _ _ _) (.ok _)) fun data _ => ?_
  refine .bind (raises_getSession _) fun wiimote => .bind (.modify _) fun _ => ?_
  exact .bind (dev.raises_wiimoteSendAck _ _) fun _ => .pure _

theorem raises_handleReadData (report : List UInt8) : Raises F (dev.handleReadData report) := by
  refine .bind (raises_getSession _) fun wiimote => .ite ?_ ?_
  · exact .bind (dev.raises_wiimoteSendAck _ _) fun _ => .pure _
  · refine .lift_bind (errors_load8 tolerates _ _) fun flags _ => ?_
    refine .lift_bind (errors_load8 tolerates _ _) fun slave _ => ?_
    refine .lift_bind (errors_load16 tolerates _ _) fun address _ => ?_
    refine .lift_bind (errors_load16 tolerates _ _) fun size _ => .bind (.modify _) fun _ => ?_
    exact .bind dev.raises_fakeWiimoteProcessReadRequest fun _ => .pure _

theorem raises_handleOutputReport (controlled : dev.link.inputDevice ≠ none) (id flags : UInt8)
    (report : List UInt8) : Raises F (dev.handleOutputReport id flags report) := by
  have leds : ∀ leds, Raises F (inputDeviceSetLeds dev.core dev.link.inputDevice leds) :=
    fun leds => .lift_bind (raises_deref (Or.inl controlled)) fun _ _ => .modify _
  have ack : ∀ rptId, Raises F (dev.ackReport flags rptId) := dev.raises_ackReport flags
  have status : Raises F (do let _ ← dev.wiimoteSendInputReportStatus) :=
    .bind dev.raises_wiimoteSendInputReportStatus fun _ => .pure _
  have mode : Raises F (do
      let mode ← load8 report 1
      modifySession dev.self fun wiimote =>
        { wiimote with reportingMode := mode, reportingContinuous := reportBit flags 2 }
      dev.ackReport flags outputReportIdReportMode) :=
    .lift_bind (errors_load8 tolerates _ _) fun _ _ => .bind (.modify _) fun _ => ack _
  unfold handleOutputReport
  refine .ite (.pure _) (.ite (.bind (.modify _) fun _ => .bind (leds _) fun _ => ack _) ?_)
  refine .ite mode (.ite (.bind (.modify _) fun _ => ack _) (.ite (ack _) (.ite status ?_)))
  refine .ite (dev.raises_fakeWiimoteProcessWriteRequest tolerates _) ?_
  refine .ite (dev.raises_handleReadData tolerates _) (.ite (.pure _) (.ite (ack _) ?_))
  exact .ite (ack _) (.throw (tolerates.assertion _))

theorem raises_handleHidIntrDataOutput (controlled : dev.link.inputDevice ≠ none)
    (data : List UInt8) (size : UInt16) : Raises F (dev.handleHidIntrDataOutput data size) := by
  have rumble : ∀ on, Raises F (dev.fakeWiimoteUpdateRumble on) := fun on =>
    .bind (raises_getSession _) fun _ => .when <| .bind (.modify _) fun _ =>
      .lift_bind (raises_deref (Or.inl controlled)) fun _ _ => .modify _
  refine .ite (.pure _) (.lift_bind (errors_load8 tolerates _ _) fun flags _ => ?_)
  refine .bind (rumble _) fun _ => .lift_bind (errors_load8 tolerates _ _) fun id _ => ?_
  exact dev.raises_handleOutputReport tolerates controlled _ _ _

theorem raises_handleChannelData (controlled : dev.link.inputDevice ≠ none) (dcid : UInt16)
    (payload : List UInt8) (length : UInt16) :
    Raises F (dev.handleChannelData dcid payload length) := by
  refine .bind (raises_getSession _) fun wiimote => ?_
  cases wiimote.getChannelInfo dcid with
  | none => exact .pure _
  | some chn =>
      refine .ite (.lift_bind (errors_load8 tolerates _ _) fun header _ => .when ?_) (.pure _)
      exact dev.raises_handleHidIntrDataOutput tolerates controlled _ _

end Device

end Packets

section Handlers

variable {F : Fault → Prop}

theorem raises_onDevice {α : Type} {w : WiimoteId} {body : Device → P α}
    (bodies : ∀ dev, Raises F (body dev)) : Raises F (onDevice w body) :=
  raises_withPeriphery fun core => bodies ⟨core, w⟩

theorem raises_commandStatus (opcode : UInt16) : Raises F (injectHciEventCommandStatus opcode) :=
  raises_injectHciEvent (Nat.le_refl 4)

theorem raises_answerForHandle (handle : UInt16) {answer : M Unit} (answers : Raises F answer) :
    Raises F (answerForHandle handle answer) := by
  refine .bind .get fun s => ?_
  cases getFakeWiimoteForHciConHandle s.core handle with
  | none => exact .pure _
  | some w => exact .bind answers fun _ => .pure _

theorem raises_forAddress {core : Core} {bdaddr : BdAddr} {answer : WiimoteId → M Bool}
    (answers : ∀ w, Raises F (answer w)) :
    Raises F (match doesBdaddrBelongToFakeWiimote core bdaddr with
      | some w => answer w
      | none => pure false) := by
  cases doesBdaddrBelongToFakeWiimote core bdaddr with
  | none => exact .pure _
  | some w => exact answers w

theorem raises_handleReset : Raises F handleReset := by
  have reset : ∀ w, Raises F (resetFakeWiimote w) := fun w =>
    .bind (raises_getLink w) fun _ => .when <|
      .bind (raises_releaseInputDevice _) fun _ => .modify _
  exact .bind (reset 0) fun _ => .bind (reset 1) fun _ => .pure _

variable (tolerates : Tolerates F)

include tolerates

theorem raises_handleL2capSignalChannel (w : WiimoteId) (code ident : UInt8) {payload : List UInt8}
    (size : UInt16) (short : payload.length + 14 < 65536) :
    Raises F (handleL2capSignalChannel w code ident payload size) := by
  have word : ∀ offset, ErrorsIn F (load16 payload offset) := errors_load16 tolerates payload
  have options : (payload.drop l2capCfgReqCpSize).length + 18 < 65536 := by
    rw [List.length_drop, l2capCfgReqCpSize]
    omega
  unfold handleL2capSignalChannel
  refine .ite ?connectRsp (.ite ?configReq (.ite ?configRsp (.ite ?disconnectReq
    (.ite ?connectReq (.pure _)))))
  case connectRsp =>
    refine .lift_bind (word _) fun dcid _ => .lift_bind (word _) fun scid _ => ?_
    refine .lift_bind (word _) fun result _ => .lift_bind (word _) fun status _ => .ite ?_ ?_
    · exact .bind (raises_fakeWiimoteDisconnect w) fun _ => .pure _
    · exact raises_onDevice fun dev => dev.raises_handleConnectRsp tolerates _ _ _
  case configReq =>
    refine .lift_bind (word _) fun dcid _ => .lift_bind (word _) fun flags _ => ?_
    exact raises_onDevice fun dev =>
      dev.raises_handleL2capConfigReq tolerates _ _ _ _ options
  case configRsp =>
    refine .lift_bind (word _) fun scid _ => .lift_bind (word _) fun result _ => ?_
    exact raises_onDevice fun dev => dev.raises_handleConfigRsp tolerates _ _
  case disconnectReq =>
    refine .lift_bind (word _) fun dcid _ => .lift_bind (word _) fun scid _ => ?_
    exact raises_onDevice fun dev => dev.raises_handleDisconnectReq tolerates _ _ _
  case connectReq =>
    exact .lift_bind (word _) fun psm _ => .lift_bind (word _) fun scid _ => .pure _

theorem raises_handleL2capSignalChannelRequest (w : WiimoteId) (fuel : Nat) :
    ∀ (data : List UInt8) (length : UInt16), data.length + 10 < 65536 →
      Raises F (handleL2capSignalChannelRequest w fuel data length) := by
  induction fuel with
  | zero => exact fun _ _ _ => .throw tolerates.outOfBounds
  | succ fuel ih =>
      intro data length short
      refine .ite (.pure _) ?_
      refine .lift_bind (errors_load8 tolerates _ _) fun code _ => ?_
      refine .lift_bind (errors_load8 tolerates _ _) fun ident loaded => ?_
      refine .lift_bind (errors_load16 tolerates _ _) fun cmdLen header => ?_
      have inside := load16_readable.mp ⟨cmdLen, header⟩
      refine .bind (raises_handleL2capSignalChannel tolerates _ _ _ _ ?_) fun _ => ih _ _ ?_
      · rw [List.length_drop, l2capCmdHdrSize]
        omega
      · rw [List.length_drop]
        omega

theorem raisesAt_aclDataOut {s : World} {w : WiimoteId} {acl : List UInt8}
    (controlled : (s.core.links w).inputDevice ≠ none) (short : acl.length + 2 < 65536) :
    RaisesAt F (fakeWiimoteHandleAclDataOutRequestFromHost w acl) s := by
  refine .bind ((Raises.modify _).at_state s) fun _ s1 counted => ?_
  have points : (s1.core.links w).inputDevice = (s.core.links w).inputDevice := by
    cases counted
    simp [Core.setLink]
  refine .bind ((Raises.lift (errors_load16 tolerates _ _)).at_state s1) fun length s2 loaded => ?_
  cases (lift_ok.mp loaded).2
  refine .bind ((Raises.lift (errors_load16 tolerates _ _)).at_state s1) fun dcid s3 loaded => ?_
  obtain ⟨header, same⟩ := lift_ok.mp loaded
  cases same
  have inside := load16_readable.mp ⟨dcid, header⟩
  rw [hciAclDataHdrSize] at inside
  refine .ite (fun _ => ?_) fun _ => ?_
  · refine (raises_handleL2capSignalChannelRequest tolerates w _ _ _ ?_).at_state s1
    rw [List.length_drop, hciAclDataHdrSize, l2capHdrSize]
    omega
  · refine raisesAt_onDevice
      ((Device.raises_handleChannelData tolerates ⟨s1.core, w⟩ ?_ _ _ _).at_state _)
    rw [show (Device.mk s1.core w).link.inputDevice = _ from points]
    exact controlled

theorem raises_fakeWiimoteHandleHciCmdAcceptCon (w : WiimoteId) (role : UInt8) :
    Raises F (fakeWiimoteHandleHciCmdAcceptCon w role) := by
  have roleChange : ∀ bdaddr, Raises F (injectHciEventRoleChange bdaddr hciRoleMaster) := by
    intro bdaddr
    apply raises_injectHciEvent
    rw [List.length_append, List.length_append, bdaddr.property]
    exact Nat.le_refl 8
  have conCompl : ∀ bdaddr handle, Raises F (injectHciEventConCompl bdaddr handle 0) := by
    intro bdaddr handle
    apply raises_injectHciEvent
    rw [List.length_append, List.length_append, bdaddr.property]
    exact Nat.le_refl 11
  have asserted := raises_assertInjected tolerates
  refine .bind (raises_commandStatus _) fun ret => .bind (asserted ret) fun _ => ?_
  refine .bind .get fun s => .bind (.modify _) fun _ => .bind (.modify _) fun _ => ?_
  refine .bind (raises_withPeriphery fun _ => .modify _) fun _ => ?_
  refine .bind (raises_getLink w) fun link => .bind (.when ?_) fun _ => ?_
  · exact .bind (roleChange _) fun ret => asserted ret
  · exact .bind (conCompl _ _) fun ret => asserted ret

theorem raises_answerWithStatus (opcode : UInt16) {result : M IosResult}
    (results : Raises F result) : Raises F (answerWithStatus opcode result) :=
  .bind (raises_commandStatus _) fun ret => .bind (raises_assertInjected tolerates ret)
    fun _ => .bind results fun ret => raises_assertInjected tolerates ret

theorem raises_answered (payload : List UInt8) (opcode : UInt16) (result : UInt16 → M IosResult)
    (results : ∀ handle, Raises F (result handle)) :
    Raises F (do
      let conHandle := le16toh (← load16 payload 0)
      answerForHandle conHandle (answerWithStatus opcode (result conHandle))) :=
  .lift_bind (errors_load16 tolerates _ _) fun _ _ =>
    raises_answerForHandle _ (raises_answerWithStatus tolerates _ (results _))

theorem raises_handleRemoteNameReq (payload : List UInt8) :
    Raises F (handleRemoteNameReq payload) := by
  have name : ∀ bdaddr w,
      Raises F (injectHciEventRemoteNameReqCompl 0 bdaddr (fakeWiimoteName w)) := by
    intro bdaddr w
    apply raises_injectHciEvent
    rw [List.length_append, List.length_append, bdaddr.property]
    exact (by decide : 1 + 6 + 15 ≤ (UInt8.ofNat (1 + 6 + hciUnitNameSize)).toNat)
  refine .lift_bind (errors_loadBdaddr tolerates _ _) fun bdaddr _ => .bind .get fun s => ?_
  refine raises_forAddress fun w => ?_
  exact .bind (raises_answerWithStatus tolerates _ (name _ w)) fun _ => .pure _

theorem raises_handleReadStoredLinkKey (payload : List UInt8) :
    Raises F (handleReadStoredLinkKey payload) := by
  have keys : ∀ first second : BdAddr, Raises F (injectHciEventReturnLinkKeys
      [(first, List.replicate hciKeySize 0), (second, List.replicate hciKeySize 0)]) := by
    intro first second
    apply raises_injectHciEvent
    simp only [List.length_append, List.flatMap_cons, List.flatMap_nil, first.property,
      second.property, List.length_replicate, List.length_cons, List.length_nil]
    decide
  refine .lift_bind (errors_loadBdaddr tolerates _ _) fun bdaddr _ => ?_
  refine .lift_bind (errors_load8 tolerates _ _) fun readAll _ => .bind .get fun s => ?_
  refine .ite (.bind (keys _ _) fun _ => .pure _) (.ite ?_ (.pure _))
  exact .throw (tolerates.assertion _)

theorem raises_handleAcceptCon (payload : List UInt8) : Raises F (handleAcceptCon payload) := by
  refine .lift_bind (errors_loadBdaddr tolerates _ _) fun bdaddr _ => ?_
  refine .lift_bind (errors_load8 tolerates _ _) fun role _ => .bind .get fun s => ?_
  refine raises_forAddress fun w => ?_
  exact .bind (raises_fakeWiimoteHandleHciCmdAcceptCon tolerates w role) fun _ => .pure _

theorem raises_handleRejectCon (payload : List UInt8) : Raises F (handleRejectCon payload) := by
  refine .lift_bind (errors_loadBdaddr tolerates _ _) fun bdaddr _ => .bind .get fun s => ?_
  refine raises_forAddress fun w => ?_
  exact .bind (raises_fakeWiimoteDisconnect w) fun _ => .pure _

theorem raises_handleDisconnect (payload : List UInt8) : Raises F (handleDisconnect payload) := by
  refine .lift_bind (errors_load16 tolerates _ _) fun handle _ => .bind .get fun s => ?_
  cases getFakeWiimoteForHciConHandle s.core (le16toh handle) with
  | none => exact .pure _
  | some w =>
      refine .bind (raises_commandStatus _) fun ret => ?_
      refine .bind (raises_assertInjected tolerates ret) fun _ => ?_
      exact .bind (raises_fakeWiimoteDisconnect w) fun _ => .pure _

theorem raises_fakeWiimoteMgrHandleHciCmdFromHost (opcode : UInt16) (payload : List UInt8) :
    Raises F (fakeWiimoteMgrHandleHciCmdFromHost opcode payload) := by
  have word : ∀ offset, ErrorsIn F (load16 payload offset) := errors_load16 tolerates payload
  have answer : ∀ handle {answer : M Unit}, Raises F answer →
      Raises F (answerForHandle handle answer) :=
    fun handle _ answers => raises_answerForHandle handle answers
  have packetType : Raises F (handleChangeConPacketType payload) :=
    .lift_bind (word _) fun _ _ => answer _ (.lift_bind (word _) fun _ _ =>
      raises_answerWithStatus tolerates _ (raises_injectHciEvent (Nat.le_refl 5)))
  have sniff : Raises F (handleSniffMode payload) :=
    .lift_bind (word _) fun _ _ => answer _ (.lift_bind (word _) fun _ _ =>
      raises_answerWithStatus tolerates _ (raises_injectHciEvent (Nat.le_refl 6)))
  have policy : Raises F (handleWriteLinkPolicySettings payload) :=
    .lift_bind (word _) fun _ _ => answer _ (.bind (raises_commandStatus _) fun ret =>
      raises_assertInjected tolerates ret)
  have supervision : Raises F (handleWriteLinkSupervisionTimeout payload) :=
    .lift_bind (word _) fun _ _ => answer _ (.bind (raises_injectHciEvent (Nat.le_refl 6))
      fun ret => raises_assertInjected tolerates ret)
  have auth : Raises F (handleAuthReq payload) :=
    raises_answered tolerates payload _ (fun handle => injectHciEventAuthCompl 0 handle)
      fun _ => raises_injectHciEvent (Nat.le_refl 3)
  have features : Raises F (handleReadRemoteFeatures payload) :=
    raises_answered tolerates payload _
      (fun handle => injectHciEventReadRemoteFeaturesCompl handle wiimoteRemoteFeatures)
      fun _ => raises_injectHciEvent (Nat.le_refl 11)
  have version : Raises F (handleReadRemoteVerInfo payload) :=
    raises_answered tolerates payload _
      (fun handle => injectHciEventReadRemoteVerInfoCompl handle wiimoteLmpVersion
        wiimoteManufacturerId wiimoteLmpSubversion)
      fun _ => raises_injectHciEvent (Nat.le_refl 8)
  have clock : Raises F (handleReadClockOffset payload) :=
    raises_answered tolerates payload _
      (fun handle => injectHciEventReadClockOffsetCompl handle 0x3818)
      fun _ => raises_injectHciEvent (Nat.le_refl 5)
  unfold fakeWiimoteMgrHandleHciCmdFromHost
  refine .ite (raises_handleDisconnect tolerates _) (.ite (raises_handleAcceptCon tolerates _) ?_)
  refine .ite (raises_handleRejectCon tolerates _) (.ite packetType (.ite auth ?_))
  refine .ite (raises_handleRemoteNameReq tolerates _) (.ite features (.ite version ?_))
  refine .ite clock (.ite sniff (.ite policy (.ite raises_handleReset ?_)))
  exact .ite (raises_handleReadStoredLinkKey tolerates _) (.ite supervision (.pure _))

theorem errors_translateToVirt (table : ConHandleMap) (data : List UInt8) (offset : Nat) :
    ErrorsIn F (translateToVirt table data offset) :=
  .bind (errors_load16 tolerates _ _) fun _ _ => .bind (errors_asserted tolerates _ _) fun _ _ =>
    errors_store16 tolerates _ _ _

theorem errors_translateNumComplPkts (table : ConHandleMap) (count : Nat) :
    ∀ (offset : Nat) (data : List UInt8),
      ErrorsIn F (translateNumComplPkts table count offset data) := by
  induction count with
  | zero => exact fun _ data => .ok data
  | succ count ih =>
      exact fun _ _ => .bind (errors_translateToVirt tolerates _ _ _) fun _ _ => ih _ _

theorem errors_handleCommandCompl (hci : HciState) (data : List UInt8) :
    ErrorsIn F (handleCommandCompl hci data) := by
  have stored := errors_store16 tolerates
  refine .bind (errors_load16 tolerates _ _) fun opcode _ => .ite ?_ (.ok _)
  refine .bind (errors_load16 tolerates _ _) fun maxNumKeys _ => ?_
  refine .bind (errors_load16 tolerates _ _) fun numKeysRead _ => .ite ?_ (.ok _)
  exact .bind (stored _ _ _) fun _ _ => .bind (stored _ _ _) fun _ _ => .ok _

theorem errors_hciEvent (hci : HciState) (data : List UInt8) :
    ErrorsIn F (hciStateHandleHciEventFromController hci data) := by
  have asserted {α : Type} (failed : Assertion) (x : Option α) := errors_asserted tolerates failed x
  have stored := errors_store16 tolerates
  have conCompl : ErrorsIn F (handleConCompl hci data) := by
    refine .bind (errors_load8 tolerates _ _) fun status _ => .ite ?_ (.ok _)
    refine .bind (errors_load16 tolerates _ _) fun phys _ => .bind (asserted _ _) fun table _ => ?_
    exact .bind (stored _ _ _) fun _ _ => .ok _
  have disconCompl : ErrorsIn F (handleDisconCompl hci data) := by
    refine .bind (errors_load8 tolerates _ _) fun status _ => .ite ?_ (.ok _)
    refine .bind (errors_load16 tolerates _ _) fun phys _ => .bind (asserted _ _) fun virt _ => ?_
    exact .bind (asserted _ _) fun table _ => .bind (stored _ _ _) fun _ _ => .ok _
  refine .bind (errors_load8 tolerates _ _) fun event _ => .ite conCompl (.ite disconCompl ?_)
  refine .ite (errors_handleCommandCompl tolerates _ _) (.ite ?_ ?_)
  · refine .bind (errors_load8 tolerates _ _) fun count _ => ?_
    exact .bind (errors_translateNumComplPkts tolerates _ _ _ _) fun _ _ => .ok _
  · cases translatedEvents.lookup event with
    | none => exact .ok _
    | some offset => exact .bind (errors_translateToVirt tolerates _ _ _) fun _ _ => .ok _

theorem errors_snoopHciCmd (hci : HciState) (opcode : UInt16) (data : List UInt8) :
    ErrorsIn F (snoopHciCmd hci opcode data) := by
  have phys : ErrorsIn F (translateToPhys hci.table data hciCmdHdrSize) :=
    .bind (errors_load16 tolerates _ _) fun _ _ => .bind (errors_asserted tolerates _ _) fun _ _ =>
      errors_store16 tolerates _ _ _
  refine .ite (.error (tolerates.assertion _)) (.ite ?_ (.ite ?_ (.ite (.ok _) (.ite ?_ ?_))))
  · exact .bind (errors_load8 tolerates _ _) fun _ _ => .ok _
  · exact .bind (errors_loadBytes tolerates _ _ _) fun _ _ => .ok _
  · exact .bind (errors_load8 tolerates _ _) fun _ _ => .ok _
  · exact .ite (.error (tolerates.assertion _)) (.ite (.bind phys fun _ _ => .ok _) (.ok _))

theorem errors_receiveMessage (e : Endpoint) (msg : IpcMessage) :
    ErrorsIn F (e.receiveMessage msg) := by
  have pending : ErrorsIn F (e.handleBulkIntrPendingMessage msg msg.wLength) := by
    unfold Endpoint.handleBulkIntrPendingMessage
    dsimp only
    split
    · exact .ok _
    · refine .ite ?_ (.ok _)
      unfold Endpoint.configureHandDownMsg
      by_cases room : msg.wLength.toNat ≤ handDownMsgDataSize
      · rw [if_pos room]
        exact .ok _
      · rw [if_neg room]
        exact .error (tolerates.assertion _)
  unfold Endpoint.receiveMessage
  generalize e.handleBulkIntrPendingMessage msg msg.wLength = x at pending ⊢
  cases x with
  | error fault => exact .error (pending fault rfl)
  | ok received =>
      dsimp only
      split
      · split
        · exact .ok _
        · exact .ok _
      · exact .ok _

theorem raises_trackReply (ep : EndpointId) (retval : Int) (buffer : List UInt8) :
    Raises F (trackReply ep retval buffer) := by
  refine .ite (.bind .get fun s => ?_) (.pure _)
  cases ep with
  | intr =>
      exact .lift_bind (errors_hciEvent tolerates _ _) fun _ _ => .bind (.modify _) fun _ => .pure _
  | bulkIn =>
      refine .lift (ErrorsIn.bind (errors_load16 tolerates _ _) fun _ _ => ?_)
      exact .bind (errors_asserted tolerates _ _) fun _ _ => errors_store16 tolerates _ _ _

/-- Packets of the host that no `u16` sum of sizes wraps for. -/
def Input.Short : Input → Prop
  | .aclOut data => data.length + 2 < 65536
  | _ => True

theorem raisesAt_aclOut {s : World} (paired : Paired s.ledger) {data : List UInt8}
    (short : data.length + 2 < 65536) :
    RaisesAt F (hciStateHandleAclDataOutRequestFromHost data) s := by
  refine .bind ((Raises.lift (errors_load16 tolerates _ _)).at_state s) fun word s1 loaded => ?_
  cases (lift_ok.mp loaded).2
  have manager : RaisesAt F
      (fakeWiimoteMgrHandleAclDataOutRequestFromHost (hciConHandle (le16toh word)) data) s := by
    refine .get_bind ?_
    cases found : getFakeWiimoteForHciConHandle s.core (hciConHandle (le16toh word)) with
    | none => exact (Raises.pure _).at_state s
    | some w =>
        have owns := List.find?_some found
        rw [Bool.and_eq_true] at owns
        have active := (isConnected_iff.mp owns.1).1
        refine .bind (raisesAt_aclDataOut tolerates (paired.controlled w active) short) ?_
        exact fun _ t _ => (Raises.pure _).at_state t
  refine .bind manager fun handled s2 managed => ?_
  have translated : ∀ hci, ErrorsIn F (translateAclOut hci data) := fun hci =>
    .bind (errors_load16 tolerates _ _) fun _ _ => .bind (errors_asserted tolerates _ _) fun _ _ =>
      errors_store16 tolerates _ _ _
  refine Raises.at_state (.ite (.pure _) (.bind .get fun s => ?_)) s2
  exact .lift_bind (translated _) fun _ _ => .pure _

theorem raisesAt_handleInput {s : World} (paired : Paired s.ledger) {input : Input}
    (short : input.Short) : RaisesAt F (handleInput input) s := by
  cases input with
  | hciCommand data =>
      refine Raises.at_state (.bind ?_ fun _ => .pure _) s
      refine .lift_bind (errors_load16 tolerates _ _) fun opcode _ => ?_
      refine .bind (raises_fakeWiimoteMgrHandleHciCmdFromHost tolerates _ _) fun handled => ?_
      refine .ite (.pure _) (.bind .get fun s => ?_)
      exact .lift_bind (errors_snoopHciCmd tolerates _ _ _) fun _ _ => .bind (.modify _)
        fun _ => .pure _
  | aclOut data =>
      exact .bind (raisesAt_aclOut tolerates paired short) fun _ t _ => (Raises.pure _).at_state t
  | bufferRequest ep msg =>
      refine Raises.at_state (.bind .get fun s => ?_) s
      refine .lift_bind (errors_receiveMessage tolerates _ _) fun received _ => ?_
      cases ep <;> exact .modify _
  | handDownReply ep retval written =>
      refine Raises.at_state (.bind .get fun s => ?_) s
      refine .bind (raises_trackReply tolerates _ _ _) fun buffer => ?_
      cases ep <;> exact .modify _
  | timer events => exact raisesAt_periodicTimer (fun _ _ => tolerates.assertion _) paired events

end Handlers

end Fakemote
