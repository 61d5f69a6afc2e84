import Fakemote.Calm
import Fakemote.FakeWiimoteMgr

/-! What the handlers can do to the heap and the endpoints: they inject messages, and nothing
else. No lookup of a physical handle fails in them. -/

namespace Fakemote

open Program

inductive Delivers : World → World → Prop
  | still {s t : World} (heap : t.periphery.heap = s.periphery.heap) (intr : t.intr = s.intr)
      (bulkIn : t.periphery.bulkIn = s.periphery.bulkIn) : Delivers s t
  | event {s t : World} {packet : Packet} {done : Injection}
      (run : inject s.periphery.heap s.intr packet = .ok done)
      (heap : t.periphery.heap = done.heap) (intr : t.intr = done.endpoint)
      (bulkIn : t.periphery.bulkIn = s.periphery.bulkIn) : Delivers s t
  | packet {s t : World} {packet : Packet} {done : Injection}
      (run : inject s.periphery.heap s.periphery.bulkIn packet = .ok done)
      (heap : t.periphery.heap = done.heap) (intr : t.intr = s.intr)
      (bulkIn : t.periphery.bulkIn = done.endpoint) : Delivers s t
  | trans {s t u : World} : Delivers s t → Delivers t u → Delivers s u

theorem Delivers.refl (s : World) : Delivers s s := .still rfl rfl rfl

structure Steady {α : Type} (m : M α) : Prop where
  respects : Respects Delivers m
  raises : Raises (· ≠ physLookup) m

namespace Steady

variable {α β : Type}

theorem pure (a : α) : Steady (pure a : M α) :=
  ⟨Respects.pure Delivers.refl a, Raises.pure a⟩

theorem bind {m : M α} {f : α → M β} (first : Steady m) (rest : ∀ a, Steady (f a)) :
    Steady (m >>= f) :=
  ⟨Respects.bind (fun s t u => @Delivers.trans s t u) first.respects fun a => (rest a).respects,
    Raises.bind first.raises fun a => (rest a).raises⟩

theorem get : Steady (get : M World) := ⟨Respects.get Delivers.refl, Raises.get⟩

theorem modifyCore (f : Core → Core) : Steady (modifyCore f) :=
  ⟨Respects.modify fun _ => .still rfl rfl rfl, Raises.modify _⟩

theorem modifyHci (f : HciState → HciState) : Steady (modifyHci f) := modifyCore _

theorem modifyLink (w : WiimoteId) (f : Link → Link) : Steady (modifyLink w f) := modifyCore _

theorem modifySlot (d : SlotId) (f : Slot → Slot) : Steady (modifySlot d f) := modifyCore _

theorem getLink (w : WiimoteId) : Steady (getLink w) := .bind .get fun _ => .pure _

theorem throw {fault : Fault} (other : fault ≠ physLookup) : Steady (throw fault : M α) :=
  ⟨Respects.throw fault, Raises.throw other⟩

theorem lift {x : Except Fault α} (other : ∀ fault, x = .error fault → fault ≠ physLookup) :
    Steady (liftM x : M α) :=
  ⟨Respects.lift Delivers.refl x, Raises.lift other⟩

theorem ite {condition : Prop} [Decidable condition] {m n : M α} (yes : Steady m)
    (no : Steady n) : Steady (if condition then m else n) :=
  ⟨Respects.ite yes.respects no.respects, Raises.ite yes.raises no.raises⟩

theorem when {condition : Prop} [Decidable condition] {m : M Unit} (yes : Steady m) :
    Steady (when condition m) :=
  ite yes (pure ())

end Steady

theorem Quiet.delivers {p q : Periphery} (quiet : Quiet p q) :
    ∀ s : World, s.periphery = p → Delivers s { s with periphery := q } := by
  induction quiet with
  | still heap bulkIn suspends =>
      rintro s rfl
      exact .still heap rfl bulkIn
  | inject run =>
      rintro s rfl
      exact .packet run rfl rfl rfl
  | @trans p q r _ _ first second =>
      rintro s rfl
      exact .trans (first s rfl) (second { s with periphery := q } rfl)

theorem steady_withPeriphery {α : Type} {body : Core → P α} (calm : ∀ core, Calm (body core)) :
    Steady (withPeriphery body) where
  respects := by
    intro s a t run
    obtain ⟨p, inner, rfl⟩ := zoom_ok.mp run
    exact ((calm s.core).respects _ _ _ inner).delivers s rfl
  raises := by
    intro s e run
    exact Raises.zoom (calm s.core).raises s e run

theorem steady_onDevice {α : Type} {w : WiimoteId} {body : Device → P α}
    (calm : ∀ dev, Calm (body dev)) : Steady (onDevice w body) :=
  steady_withPeriphery fun core => calm ⟨core, w⟩

theorem steady_load8 (buffer : List UInt8) (offset : Nat) :
    Steady (liftM (load8 buffer offset) : M UInt8) :=
  .lift (orFault_other outOfBounds_other)

theorem steady_load16 (buffer : List UInt8) (offset : Nat) :
    Steady (liftM (load16 buffer offset) : M UInt16) :=
  .lift (orFault_other outOfBounds_other)

theorem steady_loadBdaddr (buffer : List UInt8) (offset : Nat) :
    Steady (liftM (loadBdaddr buffer offset) : M BdAddr) := by
  apply Steady.lift
  intro fault run
  unfold loadBdaddr at run
  split at run
  · cases run
  · cases run
    exact outOfBounds_other

theorem steady_injectHciEvent (event eventSize : UInt8) (fields : List UInt8) :
    Steady (injectHciEvent event eventSize fields) where
  respects := by
    intro s ret t run
    obtain ⟨_, _, got, run⟩ := bind_ok.mp run
    cases got
    obtain ⟨done, _, first, run⟩ := bind_ok.mp run
    obtain ⟨injected, rfl⟩ := lift_ok.mp first
    cases run
    exact .event injected rfl rfl rfl
  raises := by
    refine Raises.bind Raises.get fun s => Raises.bind (Raises.lift ?_) fun done => ?_
    · exact inject_other fun e missing => by cases missing
    · exact Raises.bind (Raises.modify _) fun _ => Raises.pure _

theorem steady_assertInjected (ret : IosResult) : Steady (assertInjected ret) :=
  .ite (.pure ()) (.throw (by decide))

theorem steady_inputDeviceReleaseWiimote (d : SlotId) : Steady (inputDeviceReleaseWiimote d) where
  respects := by
    intro s u t run
    obtain ⟨_, s1, first, run⟩ := bind_ok.mp run
    cases first
    cases run
    exact .still rfl rfl rfl
  raises := by
    intro s e run
    rcases bind_error.mp run with first | ⟨_, _, _, second⟩
    · cases first
    · cases second

theorem steady_releaseInputDevice (d : Option SlotId) : Steady (releaseInputDevice d) := by
  cases d with
  | none => exact .pure ()
  | some d => exact steady_inputDeviceReleaseWiimote d

theorem steady_fakeWiimoteDisconnect (w : WiimoteId) : Steady (fakeWiimoteDisconnect w) :=
  .bind (.modifyLink _ _) fun _ => .bind (.getLink _) fun _ =>
    .bind (steady_releaseInputDevice _) fun _ => .ite (steady_injectHciEvent _ _ _) (.pure _)

theorem steady_fakeWiimoteHandleHciCmdAcceptCon (w : WiimoteId) (role : UInt8) :
    Steady (fakeWiimoteHandleHciCmdAcceptCon w role) :=
  .bind (steady_injectHciEvent _ _ _) fun _ => .bind (steady_assertInjected _) fun _ =>
    .bind .get fun _ => .bind (.modifyHci _) fun _ => .bind (.modifyLink _ _) fun _ =>
    .bind (steady_withPeriphery fun _ => calm_modifySession _ _) fun _ =>
    .bind (.getLink _) fun _ =>
    .bind (.when (.bind (steady_injectHciEvent _ _ _) fun _ => steady_assertInjected _)) fun _ =>
    .bind (steady_injectHciEvent _ _ _) fun _ => steady_assertInjected _

theorem steady_disconnectRemoved (w : Option WiimoteId) : Steady (disconnectRemoved w) := by
  cases w with
  | none => exact .pure ()
  | some w =>
      exact .bind (.modifyLink _ _) fun _ => .bind (steady_fakeWiimoteDisconnect _) fun _ =>
        .pure _

theorem steady_inputDeviceHandleRemoved (device : Nat) :
    Steady (inputDeviceHandleRemoved device) := by
  refine .bind .get fun s => ?_
  split
  · exact .pure ()
  · exact .bind (steady_disconnectRemoved _) fun _ => .modifySlot _ _

theorem steady_inputDeviceHandleAdded (device : EgcDevice) :
    Steady (inputDeviceHandleAdded device) := by
  refine .bind .get fun s => ?_
  split
  · exact .pure ()
  · exact .bind (.modifySlot _ _) fun _ => steady_withPeriphery fun _ => calm_modifyMapping _ _

theorem steady_inputDevicesTick : Steady inputDevicesTick :=
  .bind (.modifySlot _ _) fun _ => .modifySlot _ _

theorem steady_fakeWiimoteInitState (w : WiimoteId) (d : SlotId) :
    Steady (fakeWiimoteInitState w d) :=
  .bind (.modifyLink _ _) fun _ => steady_withPeriphery fun _ => calm_modifySession _ _

theorem steady_fakeWiimoteTick (w : WiimoteId) : Steady (fakeWiimoteTick w) := by
  refine .bind .get fun s => ?_
  split
  · exact .when (.bind (steady_injectHciEvent _ _ _) fun _ => .when (.modifyLink _ _))
  · exact steady_onDevice fun dev => dev.calm_tickConnected
  · exact .pure ()

theorem steady_handleL2capSignalChannel (w : WiimoteId) (code ident : UInt8)
    (payload : List UInt8) (size : UInt16) :
    Steady (handleL2capSignalChannel w code ident payload size) := by
  refine .ite ?_ (.ite ?_ (.ite ?_ (.ite ?_ (.ite ?_ (.pure ())))))
  · exact .bind (steady_load16 _ _) fun _ => .bind (steady_load16 _ _) fun _ =>
      .bind (steady_load16 _ _) fun _ => .bind (steady_load16 _ _) fun _ =>
      .ite (.bind (steady_fakeWiimoteDisconnect _) fun _ => .pure _)
        (steady_onDevice fun dev => dev.calm_handleConnectRsp _ _ _)
  · exact .bind (steady_load16 _ _) fun _ => .bind (steady_load16 _ _) fun _ =>
      steady_onDevice fun dev => dev.calm_handleL2capConfigReq _ _ _ _ _
  · exact .bind (steady_load16 _ _) fun _ => .bind (steady_load16 _ _) fun _ =>
      steady_onDevice fun dev => dev.calm_handleConfigRsp _ _
  · exact .bind (steady_load16 _ _) fun _ => .bind (steady_load16 _ _) fun _ =>
      steady_onDevice fun dev => dev.calm_handleDisconnectReq _ _ _
  · exact .bind (steady_load16 _ _) fun _ => .bind (steady_load16 _ _) fun _ => .pure ()

theorem steady_handleL2capSignalChannelRequest (w : WiimoteId) (fuel : Nat) :
    ∀ (data : List UInt8) (length : UInt16),
      Steady (handleL2capSignalChannelRequest w fuel data length) := by
  induction fuel with
  | zero => exact fun _ _ => .throw outOfBounds_other
  | succ fuel ih =>
      intro data length
      exact .ite (.pure ()) (.bind (steady_load8 _ _) fun _ => .bind (steady_load8 _ _) fun _ =>
        .bind (steady_load16 _ _) fun _ =>
        .bind (steady_handleL2capSignalChannel _ _ _ _ _) fun _ => ih _ _)

theorem steady_fakeWiimoteHandleAclDataOutRequestFromHost (w : WiimoteId) (acl : List UInt8) :
    Steady (fakeWiimoteHandleAclDataOutRequestFromHost w acl) :=
  .bind (.modifyLink _ _) fun _ => .bind (steady_load16 _ _) fun _ =>
    .bind (steady_load16 _ _) fun _ => .ite (steady_handleL2capSignalChannelRequest _ _ _ _)
      (steady_onDevice fun dev => dev.calm_handleChannelData _ _ _)

theorem steady_sendEventNumberOfCompletedPackets :
    Steady fakeWiimoteMgrSendEventNumberOfCompletedPackets :=
  .bind .get fun _ => .bind (.modifyLink _ _) fun _ => .bind (.modifyLink _ _) fun _ =>
    .when (.bind (steady_injectHciEvent _ _ _) fun _ => .pure _)

theorem steady_checkAssignInputDevice (w : WiimoteId) : Steady (checkAssignInputDevice w) := by
  refine .bind .get fun s => .ite (.pure ()) ?_
  split
  · exact .pure ()
  · exact .bind (.modifySlot _ _) fun _ => .bind (steady_fakeWiimoteInitState _ _) fun _ =>
      .modifyLink _ _

theorem steady_tickActive (w : WiimoteId) : Steady (tickActive w) :=
  .bind (.getLink _) fun _ => .when (steady_fakeWiimoteTick _)

theorem steady_fakeWiimoteMgrTickDevices : Steady fakeWiimoteMgrTickDevices :=
  .bind .get fun _ => .bind (.when (.bind (steady_checkAssignInputDevice _) fun _ =>
      steady_checkAssignInputDevice _)) fun _ =>
    .bind (steady_tickActive _) fun _ => .bind (steady_tickActive _) fun _ =>
      steady_sendEventNumberOfCompletedPackets

theorem steady_answerForHandle {handle : UInt16} {answer : M Unit} (steady : Steady answer) :
    Steady (answerForHandle handle answer) := by
  refine .bind .get fun s => ?_
  split
  · exact .bind steady fun _ => .pure _
  · exact .pure _

theorem steady_answerWithStatus {opcode : UInt16} {result : M IosResult}
    (steady : Steady result) : Steady (answerWithStatus opcode result) :=
  .bind (steady_injectHciEvent _ _ _) fun _ => .bind (steady_assertInjected _) fun _ =>
    .bind steady fun _ => steady_assertInjected _

theorem steady_handleDisconnect (payload : List UInt8) : Steady (handleDisconnect payload) := by
  refine .bind (steady_load16 _ _) fun handle => .bind .get fun s => ?_
  split
  · exact .bind (steady_injectHciEvent _ _ _) fun _ => .bind (steady_assertInjected _) fun _ =>
      .bind (steady_fakeWiimoteDisconnect _) fun _ => .pure _
  · exact .pure _

theorem steady_handleAcceptCon (payload : List UInt8) : Steady (handleAcceptCon payload) := by
  refine .bind (steady_loadBdaddr _ _) fun bdaddr => .bind (steady_load8 _ _) fun role =>
    .bind .get fun s => ?_
  split
  · exact .bind (steady_fakeWiimoteHandleHciCmdAcceptCon _ _) fun _ => .pure _
  · exact .pure _

theorem steady_handleRejectCon (payload : List UInt8) : Steady (handleRejectCon payload) := by
  refine .bind (steady_loadBdaddr _ _) fun bdaddr => .bind .get fun s => ?_
  split
  · exact .bind (steady_fakeWiimoteDisconnect _) fun _ => .pure _
  · exact .pure _

theorem steady_handleRemoteNameReq (payload : List UInt8) :
    Steady (handleRemoteNameReq payload) := by
  refine .bind (steady_loadBdaddr _ _) fun bdaddr => .bind .get fun s => ?_
  split
  · exact .bind (steady_answerWithStatus (steady_injectHciEvent _ _ _)) fun _ => .pure _
  · exact .pure _

theorem steady_resetFakeWiimote (w : WiimoteId) : Steady (resetFakeWiimote w) :=
  .bind (.getLink _) fun _ => .when (.bind (steady_releaseInputDevice _) fun _ =>
    .modifyLink _ _)

theorem steady_handleReset : Steady handleReset :=
  .bind (steady_resetFakeWiimote _) fun _ => .bind (steady_resetFakeWiimote _) fun _ => .pure _

theorem steady_handleReadStoredLinkKey (payload : List UInt8) :
    Steady (handleReadStoredLinkKey payload) :=
  .bind (steady_loadBdaddr _ _) fun _ => .bind (steady_load8 _ _) fun _ => .bind .get fun _ =>
    .ite (.bind (steady_injectHciEvent _ _ _) fun _ => .pure _)
      (.ite (.throw (by decide)) (.pure _))

theorem steady_fakeWiimoteMgrHandleHciCmdFromHost (opcode : UInt16) (payload : List UInt8) :
    Steady (fakeWiimoteMgrHandleHciCmdFromHost opcode payload) := by
  have answered {opcode : UInt16} {result : M IosResult} (steady : Steady result)
      {handle : UInt16} : Steady (answerForHandle handle (answerWithStatus opcode result)) :=
    steady_answerForHandle (steady_answerWithStatus steady)
  have inject := steady_injectHciEvent
  refine .ite (steady_handleDisconnect _) (.ite (steady_handleAcceptCon _)
    (.ite (steady_handleRejectCon _) (.ite ?_ (.ite ?_ (.ite (steady_handleRemoteNameReq _)
    (.ite ?_ (.ite ?_ (.ite ?_ (.ite ?_ (.ite ?_ (.ite steady_handleReset
    (.ite (steady_handleReadStoredLinkKey _) (.ite ?_ (.pure _))))))))))))))
  · exact .bind (steady_load16 _ _) fun _ => steady_answerForHandle
      (.bind (steady_load16 _ _) fun _ => steady_answerWithStatus (inject _ _ _))
  · exact .bind (steady_load16 _ _) fun _ => answered (inject _ _ _)
  · exact .bind (steady_load16 _ _) fun _ => answered (inject _ _ _)
  · exact .bind (steady_load16 _ _) fun _ => answered (inject _ _ _)
  · exact .bind (steady_load16 _ _) fun _ => answered (inject _ _ _)
  · exact .bind (steady_load16 _ _) fun _ => steady_answerForHandle
      (.bind (steady_load16 _ _) fun _ => steady_answerWithStatus (inject _ _ _))
  · exact .bind (steady_load16 _ _) fun _ => steady_answerForHandle
      (.bind (inject _ _ _) fun _ => steady_assertInjected _)
  · exact .bind (steady_load16 _ _) fun _ => steady_answerForHandle
      (.bind (inject _ _ _) fun _ => steady_assertInjected _)

theorem steady_fakeWiimoteMgrHandleAclDataOutRequestFromHost (handle : UInt16)
    (acl : List UInt8) :
    Steady (fakeWiimoteMgrHandleAclDataOutRequestFromHost handle acl) := by
  refine .bind .get fun s => ?_
  split
  · exact .bind (steady_fakeWiimoteHandleAclDataOutRequestFromHost _ _) fun _ => .pure _
  · exact .pure _

end Fakemote
