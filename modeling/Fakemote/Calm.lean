import Fakemote.FakeWiimote

/-! What session code can do to the rest of the module: it injects packets on the ACL-in endpoint
and suspends no controller, and no lookup of a physical handle fails in it. -/

namespace Fakemote

open Program

inductive Quiet : Periphery → Periphery → Prop
  | still {p q : Periphery} (heap : q.heap = p.heap) (bulkIn : q.bulkIn = p.bulkIn)
      (suspends : q.suspends = p.suspends) : Quiet p q
  | inject {p : Periphery} {packet : Packet} {done : Injection}
      (run : inject p.heap p.bulkIn packet = .ok done) :
      Quiet p { p with heap := done.heap, bulkIn := done.endpoint }
  | trans {p q r : Periphery} : Quiet p q → Quiet q r → Quiet p r

theorem Quiet.refl (p : Periphery) : Quiet p p := .still rfl rfl rfl

def physLookup : Fault := .assertion .conHandleGetPhys

structure Calm {α : Type} (m : P α) : Prop where
  respects : Respects Quiet m
  raises : Raises (· ≠ physLookup) m

namespace Calm

variable {α β : Type}

theorem pure (a : α) : Calm (pure a : P α) :=
  ⟨Respects.pure Quiet.refl a, Raises.pure a⟩

theorem bind {m : P α} {f : α → P β} (first : Calm m) (rest : ∀ a, Calm (f a)) :
    Calm (m >>= f) :=
  ⟨Respects.bind (fun p q r => @Quiet.trans p q r) first.respects fun a => (rest a).respects,
    Raises.bind first.raises fun a => (rest a).raises⟩

theorem get : Calm (get : P Periphery) := ⟨Respects.get Quiet.refl, Raises.get⟩

theorem modify {f : Periphery → Periphery} (still : ∀ p, Quiet p (f p)) :
    Calm (modify f : P Unit) :=
  ⟨Respects.modify still, Raises.modify f⟩

theorem throw {fault : Fault} (other : fault ≠ physLookup) : Calm (throw fault : P α) :=
  ⟨Respects.throw fault, Raises.throw other⟩

theorem lift {x : Except Fault α} (other : ∀ fault, x = .error fault → fault ≠ physLookup) :
    Calm (liftM x : P α) :=
  ⟨Respects.lift Quiet.refl x, Raises.lift other⟩

theorem ite {condition : Prop} [Decidable condition] {m n : P α} (yes : Calm m) (no : Calm n) :
    Calm (if condition then m else n) :=
  ⟨Respects.ite yes.respects no.respects, Raises.ite yes.raises no.raises⟩

theorem when {condition : Prop} [Decidable condition] {m : P Unit} (yes : Calm m) :
    Calm (when condition m) :=
  ite yes (pure ())

end Calm

theorem orFault_other {α : Type} {fault : Fault} {x : Option α} (other : fault ≠ physLookup) :
    ∀ e, orFault fault x = .error e → e ≠ physLookup := by
  intro e run
  rw [orFault_error run]
  exact other

theorem outOfBounds_other : Fault.outOfBounds ≠ physLookup := by decide

theorem deref_other {α : Type} {x : Option α} : ∀ e, deref x = .error e → e ≠ physLookup := by
  intro e run
  cases x with
  | some a => cases run
  | none =>
      cases run
      decide

theorem inject_other {heap : Heap} {endpoint : Endpoint} {packet : Packet}
    (bytes : ∀ e, packet.bytes = .error e → e ≠ physLookup) :
    ∀ e, inject heap endpoint packet = .error e → e ≠ physLookup := by
  intro e run
  unfold inject at run
  split at run
  · cases run
  · rename_i msg _
    cases source : packet.bytes with
    | error fault =>
        simp only [source, bind, Except.bind, Except.error.injEq] at run
        exact run ▸ bytes fault source
    | ok data =>
        simp only [source, bind, Except.bind, fillMessage] at run
        split at run
        · rename_i failed
          split at failed
          · cases failed
          · cases failed
            cases run
            decide
        · cases run

section Helpers

variable {α : Type}

theorem calm_load8 (buffer : List UInt8) (offset : Nat) :
    Calm (liftM (load8 buffer offset) : P UInt8) :=
  .lift (orFault_other outOfBounds_other)

theorem calm_load16 (buffer : List UInt8) (offset : Nat) :
    Calm (liftM (load16 buffer offset) : P UInt16) :=
  .lift (orFault_other outOfBounds_other)

theorem calm_loadBytes (buffer : List UInt8) (offset count : Nat) :
    Calm (liftM (loadBytes buffer offset count) : P (List UInt8)) :=
  .lift (orFault_other outOfBounds_other)

theorem calm_storeBytes (buffer : List UInt8) (offset : Nat) (bytes : List UInt8) :
    Calm (liftM (storeBytes buffer offset bytes) : P (List UInt8)) :=
  .lift (orFault_other outOfBounds_other)

theorem calm_deref (x : Option α) : Calm (liftM (deref x) : P α) := .lift deref_other

theorem calm_modifySession (w : WiimoteId) (f : Session → Session) : Calm (modifySession w f) :=
  .modify fun _ => .still rfl rfl rfl

theorem calm_modifyMapping (d : SlotId) (f : Mapping → Mapping) : Calm (modifyMapping d f) :=
  .modify fun _ => .still rfl rfl rfl

theorem calm_getSession (w : WiimoteId) : Calm (getSession w) := .bind .get fun _ => .pure _

theorem calm_stackBytes (count : Nat) : Calm (stackBytes count) :=
  .bind .get fun _ => .bind (.modify fun _ => .still rfl rfl rfl) fun _ => .pure _

theorem calm_assertThat {condition : Prop} [Decidable condition] {failed : Assertion}
    (other : failed ≠ .conHandleGetPhys) : Calm (assertThat condition failed) :=
  .ite (.pure ()) (.throw fun same => other (Fault.assertion.inj same))

theorem calm_callEgc {call : EgcCall} (other : ∀ device, call ≠ .suspend device) :
    Calm (callEgc call) := by
  apply Calm.modify
  intro p
  refine Quiet.still rfl rfl ?_
  cases call with
  | suspend device => exact absurd rfl (other device)
  | resume device => simp [Periphery.suspends]
  | setLeds device leds => simp [Periphery.suspends]
  | setRumble device on => simp [Periphery.suspends]

end Helpers

theorem calm_injectBulkIn {packet : Packet}
    (bytes : ∀ e, packet.bytes = .error e → e ≠ physLookup) : Calm (injectBulkIn packet) := by
  constructor
  · intro p ret q run
    obtain ⟨_, _, got, run⟩ := bind_ok.mp run
    cases got
    obtain ⟨done, _, first, run⟩ := bind_ok.mp run
    obtain ⟨injected, rfl⟩ := lift_ok.mp first
    cases run
    exact .inject injected
  · exact .bind .get fun p => .bind (.lift (inject_other bytes)) fun done =>
      .bind (fun _ _ run => by cases run) fun _ => .pure _

theorem l2capCmdMsg_other {hciConHandle : UInt16} {code ident : UInt8} {size : UInt16}
    {payload : Except Fault (List UInt8)} (other : ∀ e, payload = .error e → e ≠ physLookup) :
    ∀ e, (l2capCmdMsg hciConHandle code ident size payload).bytes = .error e →
      e ≠ physLookup := by
  intro e run
  cases payload with
  | ok data => cases run
  | error fault =>
      cases run
      exact other _ rfl

theorem calm_injectL2capPacket (hciConHandle dcid : UInt16) (data : List UInt8) :
    Calm (injectL2capPacket hciConHandle dcid data) :=
  calm_injectBulkIn fun _ run => by cases run

theorem calm_injectL2capConnectReq (hciConHandle psm scid : UInt16) :
    Calm (injectL2capConnectReq hciConHandle psm scid) :=
  calm_injectBulkIn fun _ run => by cases run

theorem calm_injectL2capDisconnectRsp (hciConHandle : UInt16) (ident : UInt8)
    (dcid scid : UInt16) : Calm (injectL2capDisconnectRsp hciConHandle ident dcid scid) :=
  calm_injectBulkIn fun _ run => by cases run

theorem calm_injectL2capConfigReq (hciConHandle remoteCid mtu flushTimeOut : UInt16) :
    Calm (injectL2capConfigReq hciConHandle remoteCid mtu flushTimeOut) :=
  calm_injectBulkIn fun _ run => by cases run

theorem calm_injectL2capConfigRsp (hciConHandle remoteCid : UInt16) (ident : UInt8)
    (options : List UInt8) (optionsLen : UInt16) :
    Calm (injectL2capConfigRsp hciConHandle remoteCid ident options optionsLen) := by
  apply calm_injectBulkIn
  apply l2capCmdMsg_other
  intro e run
  cases copied : loadBytes options 0 optionsLen.toNat with
  | ok bytes =>
      rw [copied] at run
      cases run
  | error fault =>
      rw [copied] at run
      cases run
      exact orFault_other outOfBounds_other e copied

theorem calm_inputDeviceResume (core : Core) (d : Option SlotId) :
    Calm (inputDeviceResume core d) :=
  .bind (calm_deref _) fun _ => calm_callEgc fun _ same => by cases same

theorem calm_inputDeviceSetLeds (core : Core) (d : Option SlotId) (leds : UInt8) :
    Calm (inputDeviceSetLeds core d leds) :=
  .bind (calm_deref _) fun _ => calm_callEgc fun _ same => by cases same

theorem calm_inputDeviceSetRumble (core : Core) (d : Option SlotId) (on : Bool) :
    Calm (inputDeviceSetRumble core d on) :=
  .bind (calm_deref _) fun _ => calm_callEgc fun _ same => by cases same

theorem calm_reportInputs (d : SlotId) (device : EgcDevice) (w : Option WiimoteId) :
    Calm (reportInputs d device w) :=
  .bind .get fun _ => .bind (calm_deref _) fun _ =>
    .bind (.bind (calm_stackBytes _) fun _ => .pure _) fun _ =>
      .bind (calm_modifyMapping _ _) fun _ => calm_modifySession _ _

theorem calm_checkSwitchIrEmuMode (d : SlotId) (device : EgcDevice) :
    Calm (checkSwitchIrEmuMode d device) :=
  .bind .get fun _ => .bind (calm_modifyMapping _ _) fun _ => .when (calm_modifyMapping _ _)

theorem calm_inputDeviceReportInput (core : Core) (d : Option SlotId) :
    Calm (inputDeviceReportInput core d) := by
  refine .bind (calm_deref _) fun d => .bind (calm_deref _) fun device => .bind .get fun p =>
    .bind (calm_modifyMapping _ _) fun _ => .ite ?_ ?_
  · exact .bind (calm_modifyMapping _ _) fun _ => .bind (calm_deref _) fun _ =>
      .bind (calm_modifySession _ _) fun _ => .pure _
  · exact .bind (calm_checkSwitchIrEmuMode _ _) fun _ =>
      .bind (calm_reportInputs _ _ _) fun _ => .pure _

namespace Device

variable (dev : Device)

theorem calm_sendHidInputReport (reportId : UInt8) (data : List UInt8) :
    Calm (dev.sendHidInputReport reportId data) :=
  .bind (calm_getSession _) fun _ => .bind (calm_assertThat (by decide)) fun _ =>
    .bind (calm_assertThat (by decide)) fun _ => calm_injectL2capPacket _ _ _

theorem calm_wiimoteSendAck (rptId errorCode : UInt8) :
    Calm (dev.wiimoteSendAck rptId errorCode) :=
  .bind (calm_getSession _) fun _ => dev.calm_sendHidInputReport _ _

theorem calm_wiimoteSendInputReportStatus : Calm dev.wiimoteSendInputReportStatus :=
  .bind (calm_getSession _) fun _ => .bind (calm_stackBytes _) fun _ =>
    dev.calm_sendHidInputReport _ _

theorem calm_fakeWiimoteProcessReadRequest : Calm dev.fakeWiimoteProcessReadRequest :=
  .bind .get fun _ => .ite (.pure _) <| .bind (calm_modifySession _ _) fun _ =>
    .bind (dev.calm_sendHidInputReport _ _) fun _ => .pure _

theorem calm_writeData (report : List UInt8) (stored : Bool) (size : Nat) :
    Calm (liftM (writeData report stored size) : P (List UInt8)) := by
  unfold writeData
  split
  · exact calm_loadBytes _ _ _
  · exact .pure _

theorem calm_fakeWiimoteProcessWriteRequest (report : List UInt8) :
    Calm (dev.fakeWiimoteProcessWriteRequest report) :=
  .bind (calm_load8 _ _) fun _ => .ite (.pure _) <| .bind (calm_load8 _ _) fun _ =>
    .bind (calm_load8 _ _) fun _ => .bind (calm_load16 _ _) fun _ =>
      .bind (calm_writeData _ _ _) fun _ => .bind (calm_getSession _) fun _ =>
        .bind (calm_modifySession _ _) fun _ => .bind (dev.calm_wiimoteSendAck _ _) fun _ => .pure _

theorem calm_fakeWiimoteProcessExtensionChange : Calm dev.fakeWiimoteProcessExtensionChange :=
  .bind (calm_getSession _) fun _ => .ite (.pure _) <| .bind (calm_modifySession _ _) fun _ =>
    .bind dev.calm_wiimoteSendInputReportStatus fun _ => .pure _

theorem calm_extensionBytes (size : Nat) : Calm (dev.extensionBytes size) := by
  refine .bind .get fun p => .ite (.pure _) ?_
  split
  · exact .bind (calm_modifySession _ _) fun _ => .pure _
  · exact .pure _

theorem calm_fakeWiimoteSendDataReport : Calm dev.fakeWiimoteSendDataReport :=
  .bind (calm_getSession _) fun _ => .ite (.pure _) <| .ite
    (.bind (calm_stackBytes _) fun _ => .bind (calm_storeBytes _ _ _) fun _ =>
      .bind (calm_storeBytes _ _ _) fun _ => .bind (dev.calm_extensionBytes _) fun _ =>
        .bind (calm_storeBytes _ _ _) fun _ => .bind (calm_storeBytes _ _ _) fun _ =>
          .bind (dev.calm_sendHidInputReport _ _) fun _ => calm_modifySession _ _)
    (.pure _)

theorem calm_generateL2capChannelId : Calm generateL2capChannelId :=
  .bind .get fun _ => .bind (.modify fun _ => .still rfl rfl rfl) fun _ => .pure _

theorem calm_checkSendConfigForNewChannel (chn : Channel) :
    Calm (dev.checkSendConfigForNewChannel chn) :=
  .bind (calm_getSession _) fun _ => .when <|
    .bind (calm_injectL2capConfigReq _ _ _ _) fun _ => .when (calm_modifySession _ _)

theorem calm_requestChannel (chn : Channel) (psm : UInt16) : Calm (dev.requestChannel chn psm) :=
  .bind calm_generateL2capChannelId fun _ => .bind (calm_injectL2capConnectReq _ _ _) fun _ =>
    .bind (calm_assertThat (by decide)) fun _ => calm_modifySession _ _

theorem calm_checkSendConfigs : Calm dev.checkSendConfigs :=
  .bind (dev.calm_checkSendConfigForNewChannel _) fun _ =>
    dev.calm_checkSendConfigForNewChannel _

theorem calm_tickLinking : Calm dev.tickLinking :=
  .bind (calm_getSession _) fun _ => .ite
    (.bind (dev.calm_requestChannel _ _) fun _ => dev.calm_checkSendConfigs) <| .ite
    (.bind (dev.calm_requestChannel _ _) fun _ => dev.calm_checkSendConfigs) <| .ite
    (.bind (calm_modifySession _ _) fun _ => calm_inputDeviceResume _ _)
    dev.calm_checkSendConfigs

theorem calm_tickReports : Calm dev.tickReports :=
  .bind dev.calm_fakeWiimoteProcessReadRequest fun _ => .ite (.pure _) <|
    .bind dev.calm_fakeWiimoteProcessExtensionChange fun _ => .ite (.pure _) <|
      .bind (calm_inputDeviceReportInput _ _) fun _ => .when dev.calm_fakeWiimoteSendDataReport

theorem calm_tickConnected : Calm dev.tickConnected :=
  .bind (calm_getSession _) fun _ => .ite dev.calm_tickLinking dev.calm_tickReports

theorem configOptions_other (fuel : Nat) :
    ∀ (options : List UInt8) (offset size : Nat) (remoteMtu : UInt16) (e : Fault),
      configOptions fuel options offset size remoteMtu = .error e → e ≠ physLookup := by
  induction fuel with
  | zero =>
      intro options offset size remoteMtu e run
      cases run
  | succ fuel ih =>
      intro options offset size remoteMtu e run
      unfold configOptions at run
      split at run
      case isFalse => cases run
      case isTrue =>
          rcases type : load8 options offset with fault | type'
          · simp only [type, bind, Except.bind, Except.error.injEq] at run
            exact run ▸ orFault_other outOfBounds_other fault type
          rcases length : load8 options (offset + 1) with fault | length'
          · simp only [type, length, bind, Except.bind, Except.error.injEq] at run
            exact run ▸ orFault_other outOfBounds_other fault length
          simp only [type, length, bind, Except.bind] at run
          split at run
          case isTrue =>
              split at run
              case isTrue =>
                  split at run
                  case h_1 fault mtu =>
                      cases run
                      exact orFault_other outOfBounds_other e mtu
                  case h_2 => exact ih _ _ _ _ e run
              case isFalse =>
                  cases run
                  decide
          case isFalse =>
              split at run
              case isTrue =>
                  split at run
                  · exact ih _ _ _ _ e run
                  · cases run
                    decide
              case isFalse => exact ih _ _ _ _ e run

theorem calm_channelOrFault (localCid : UInt16) : Calm (dev.channelOrFault localCid) :=
  .bind (calm_getSession _) fun _ => .lift (orFault_other (by decide))

theorem calm_handleL2capConfigReq (ident : UInt8) (dcid flags : UInt16) (options : List UInt8)
    (optionsSize : UInt16) : Calm (dev.handleL2capConfigReq ident dcid flags options optionsSize) :=
  .bind (calm_assertThat (by decide)) fun _ => .bind (dev.calm_channelOrFault _) fun _ =>
    .bind (.lift (configOptions_other _ _ _ _ _)) fun _ => .bind (calm_getSession _) fun _ =>
      .bind (calm_modifySession _ _) fun _ =>
        .bind (calm_injectL2capConfigRsp _ _ _ _ _) fun _ => .pure _

theorem calm_handleConnectRsp (dcid scid status : UInt16) :
    Calm (dev.handleConnectRsp dcid scid status) :=
  .bind (calm_assertThat (by decide)) fun _ => .bind (dev.calm_channelOrFault _) fun _ =>
    calm_modifySession _ _

theorem calm_handleConfigRsp (scid result : UInt16) : Calm (dev.handleConfigRsp scid result) :=
  .bind (calm_assertThat (by decide)) fun _ => .bind (dev.calm_channelOrFault _) fun _ =>
    calm_modifySession _ _

theorem calm_handleDisconnectReq (ident : UInt8) (dcid scid : UInt16) :
    Calm (dev.handleDisconnectReq ident dcid scid) :=
  .bind (dev.calm_channelOrFault _) fun _ => .bind (calm_modifySession _ _) fun _ =>
    .bind (calm_injectL2capDisconnectRsp _ _ _ _) fun _ => .pure _

theorem calm_fakeWiimoteUpdateRumble (on : Bool) : Calm (dev.fakeWiimoteUpdateRumble on) :=
  .bind (calm_getSession _) fun _ => .when <| .bind (calm_modifySession _ _) fun _ =>
    calm_inputDeviceSetRumble _ _ _

theorem calm_ackReport (flags rptId : UInt8) : Calm (dev.ackReport flags rptId) :=
  .when <| .bind (dev.calm_wiimoteSendAck _ _) fun _ => .pure _

theorem calm_handleReadData (report : List UInt8) : Calm (dev.handleReadData report) :=
  .bind (calm_getSession _) fun _ => .ite
    (.bind (dev.calm_wiimoteSendAck _ _) fun _ => .pure _)
    (.bind (calm_load8 _ _) fun _ => .bind (calm_load8 _ _) fun _ =>
      .bind (calm_load16 _ _) fun _ => .bind (calm_load16 _ _) fun _ =>
        .bind (calm_modifySession _ _) fun _ =>
          .bind dev.calm_fakeWiimoteProcessReadRequest fun _ => .pure _)

theorem calm_handleOutputReport (id flags : UInt8) (report : List UInt8) :
    Calm (dev.handleOutputReport id flags report) := by
  have ack : ∀ rptId, Calm (dev.ackReport flags rptId) := dev.calm_ackReport flags
  refine .ite (.pure _) <| .ite ?led <| .ite ?mode <| .ite ?ir <| .ite (ack _) <| .ite ?status <|
    .ite (dev.calm_fakeWiimoteProcessWriteRequest _) <| .ite (dev.calm_handleReadData _) <|
    .ite (.pure _) <| .ite (ack _) <| .ite (ack _) <| .throw (by decide)
  case led =>
      exact .bind (calm_modifySession _ _) fun _ =>
        .bind (calm_inputDeviceSetLeds _ _ _) fun _ => ack _
  case mode =>
      exact .bind (calm_load8 _ _) fun _ => .bind (calm_modifySession _ _) fun _ => ack _
  case ir => exact .bind (calm_modifySession _ _) fun _ => ack _
  case status => exact .bind dev.calm_wiimoteSendInputReportStatus fun _ => .pure _

theorem calm_handleHidIntrDataOutput (data : List UInt8) (size : UInt16) :
    Calm (dev.handleHidIntrDataOutput data size) :=
  .ite (.pure _) <| .bind (calm_load8 _ _) fun _ =>
    .bind (dev.calm_fakeWiimoteUpdateRumble _) fun _ => .bind (calm_load8 _ _) fun _ =>
      dev.calm_handleOutputReport _ _ _

theorem calm_handleChannelData (dcid : UInt16) (payload : List UInt8) (length : UInt16) :
    Calm (dev.handleChannelData dcid payload length) := by
  refine .bind (calm_getSession _) fun wiimote => ?_
  split
  · exact .pure _
  · exact .ite
      (.bind (calm_load8 _ _) fun _ => .when (dev.calm_handleHidIntrDataOutput _ _)) (.pure _)

end Device

end Fakemote
