import Fakemote.Calls

/-! What leaves the sessions alone: no session and no mapped extension changes, no channel id is
drawn, and no fake Wiimote becomes active, connected or driven by a controller. -/

namespace Fakemote

open Bytes Program

/-- The fake Wiimote gets its inputs from the slot, and the slot is assigned to it. -/
def Core.Drives (core : Core) (d : SlotId) (w : WiimoteId) : Prop :=
  (core.links w).inputDevice = some d ∧ (core.slots d).device.isSome ∧
    (core.slots d).assignedWiimote = some w

structure Aloof (s t : World) : Prop where
  platform : t.periphery.platform = s.periphery.platform
  sessions : t.periphery.sessions = s.periphery.sessions
  extensions : ∀ d, (t.periphery.mappings d).extension = (s.periphery.mappings d).extension
  startingId : t.periphery.startingId = s.periphery.startingId
  active : ∀ w, (t.core.links w).active = true → (s.core.links w).active = true
  complete : ∀ w, (t.core.links w).basebandState = .complete →
    (s.core.links w).basebandState = .complete
  devices : ∀ d, (t.core.slots d).device.isSome → (s.core.slots d).device.isSome
  drives : ∀ d w, t.core.Drives d w → s.core.Drives d w

namespace Aloof

theorem refl (s : World) : Aloof s s :=
  ⟨rfl, rfl, fun _ => rfl, rfl, fun _ h => h, fun _ h => h, fun _ h => h, fun _ _ h => h⟩

theorem trans (s t u : World) (first : Aloof s t) (second : Aloof t u) : Aloof s u where
  platform := second.platform.trans first.platform
  sessions := second.sessions.trans first.sessions
  extensions d := (second.extensions d).trans (first.extensions d)
  startingId := second.startingId.trans first.startingId
  active w h := first.active w (second.active w h)
  complete w h := first.complete w (second.complete w h)
  devices d h := first.devices d (second.devices d h)
  drives d w h := first.drives d w (second.drives d w h)

theorem of_core {s t : World} (core : t.core = s.core)
    (platform : t.periphery.platform = s.periphery.platform)
    (sessions : t.periphery.sessions = s.periphery.sessions)
    (mappings : t.periphery.mappings = s.periphery.mappings)
    (startingId : t.periphery.startingId = s.periphery.startingId) : Aloof s t where
  platform := platform
  sessions := sessions
  extensions d := by rw [mappings]
  startingId := startingId
  active w h := by rwa [core] at h
  complete w h := by rwa [core] at h
  devices d h := by rwa [core] at h
  drives d w h := by rwa [core] at h

end Aloof

namespace Respects

variable {α β : Type}

theorem aloof_pure (a : α) : Respects Aloof (pure a : M α) := Respects.pure Aloof.refl a

theorem aloof_bind {m : M α} {f : α → M β} (first : Respects Aloof m)
    (rest : ∀ a, Respects Aloof (f a)) : Respects Aloof (m >>= f) :=
  Respects.bind Aloof.trans first rest

theorem aloof_get : Respects Aloof (get : M World) := Respects.get Aloof.refl

theorem aloof_lift (x : Except Fault α) : Respects Aloof (liftM x : M α) :=
  Respects.lift Aloof.refl x

theorem aloof_when {condition : Prop} [Decidable condition] {m : M Unit} (yes : Respects Aloof m) :
    Respects Aloof (when condition m) :=
  Respects.when Aloof.refl yes

end Respects

open Respects

theorem aloof_modifyHci (f : HciState → HciState) : Respects Aloof (modifyHci f) :=
  Respects.modify fun _ =>
    ⟨rfl, rfl, fun _ => rfl, rfl, fun _ h => h, fun _ h => h, fun _ h => h, fun _ _ h => h⟩

theorem aloof_modifyLink {w : WiimoteId} {f : Link → Link}
    (active : ∀ link, (f link).active = true → link.active = true)
    (complete : ∀ link, (f link).basebandState = .complete → link.basebandState = .complete)
    (inputDevice : ∀ link d, (f link).inputDevice = some d → link.inputDevice = some d) :
    Respects Aloof (modifyLink w f) := by
  apply Respects.modify
  intro s
  have kept (v : WiimoteId) : ((s.core.setLink w f).links v = f (s.core.links v) ∧ v = w) ∨
      (s.core.setLink w f).links v = s.core.links v := by
    by_cases same : v = w
    · subst same
      exact Or.inl ⟨setLink_same _ _ _, rfl⟩
    · exact Or.inr (setLink_other same)
  refine ⟨rfl, rfl, fun _ => rfl, rfl, ?_, ?_, fun _ h => h, ?_⟩
  · intro v h
    rcases kept v with ⟨changed, -⟩ | same
    · exact active _ (changed ▸ h)
    · exact same ▸ h
  · intro v h
    rcases kept v with ⟨changed, -⟩ | same
    · exact complete _ (changed ▸ h)
    · exact same ▸ h
  · intro d v h
    refine ⟨?_, h.2⟩
    rcases kept v with ⟨changed, -⟩ | same
    · exact inputDevice _ d (changed ▸ h.1)
    · exact same ▸ h.1

theorem setSlot_same (core : Core) (d : SlotId) (f : Slot → Slot) :
    (core.setSlot d f).slots d = f (core.slots d) :=
  Function.update_self _ _ _

theorem setSlot_other {core : Core} {d e : SlotId} {f : Slot → Slot} (other : e ≠ d) :
    (core.setSlot d f).slots e = core.slots e :=
  Function.update_of_ne other _ _

theorem aloof_modifySlot {d : SlotId} {f : Slot → Slot}
    (device : ∀ slot, (f slot).device.isSome → slot.device.isSome)
    (owner : ∀ slot v, (f slot).assignedWiimote = some v → slot.assignedWiimote = some v) :
    Respects Aloof (modifySlot d f) := by
  apply Respects.modify
  intro s
  have kept (e : SlotId) : ((s.core.setSlot d f).slots e = f (s.core.slots e) ∧ e = d) ∨
      (s.core.setSlot d f).slots e = s.core.slots e := by
    by_cases same : e = d
    · subst same
      exact Or.inl ⟨setSlot_same _ _ _, rfl⟩
    · exact Or.inr (setSlot_other same)
  have devices (e : SlotId) (h : ((s.core.setSlot d f).slots e).device.isSome) :
      (s.core.slots e).device.isSome := by
    rcases kept e with ⟨changed, -⟩ | same
    · exact device _ (changed ▸ h)
    · exact same ▸ h
  refine ⟨rfl, rfl, fun _ => rfl, rfl, fun _ h => h, fun _ h => h, devices, ?_⟩
  intro e v h
  refine ⟨h.1, devices e h.2.1, ?_⟩
  rcases kept e with ⟨changed, -⟩ | same
  · exact owner _ v (changed ▸ h.2.2)
  · exact same ▸ h.2.2

theorem aloof_getLink (w : WiimoteId) : Respects Aloof (getLink w) :=
  aloof_bind aloof_get fun _ => aloof_pure _

theorem aloof_injectHciEvent (event eventSize : UInt8) (fields : List UInt8) :
    Respects Aloof (injectHciEvent event eventSize fields) := by
  intro s ret t run
  obtain ⟨_, _, got, run⟩ := bind_ok.mp run
  cases got
  obtain ⟨done, _, first, run⟩ := bind_ok.mp run
  obtain ⟨-, rfl⟩ := lift_ok.mp first
  cases run
  exact .of_core rfl rfl rfl rfl rfl

theorem aloof_assertInjected (ret : IosResult) : Respects Aloof (assertInjected ret) :=
  Respects.ite (aloof_pure ()) (Respects.throw _)

theorem aloof_inputDeviceReleaseWiimote (d : SlotId) :
    Respects Aloof (inputDeviceReleaseWiimote d) := by
  apply aloof_bind
  · apply aloof_modifySlot
    · exact fun _ h => h
    · intro slot v assigned
      cases assigned
  · intro u s a t run
    obtain ⟨p, inner, rfl⟩ := zoom_ok.mp run
    cases inner
    exact .of_core rfl rfl rfl rfl rfl

theorem aloof_releaseInputDevice (d : Option SlotId) : Respects Aloof (releaseInputDevice d) := by
  cases d with
  | none => exact aloof_pure ()
  | some d => exact aloof_inputDeviceReleaseWiimote d

theorem aloof_deactivate (w : WiimoteId) :
    Respects Aloof (modifyLink w fun link => { link with active := false }) := by
  apply aloof_modifyLink
  · intro link h
    cases h
  · exact fun _ h => h
  · exact fun _ _ h => h

theorem aloof_fakeWiimoteDisconnect (w : WiimoteId) : Respects Aloof (fakeWiimoteDisconnect w) :=
  aloof_bind (aloof_deactivate w) fun _ => aloof_bind (aloof_getLink _) fun _ =>
    aloof_bind (aloof_releaseInputDevice _) fun _ =>
    Respects.ite (aloof_injectHciEvent _ _ _) (aloof_pure _)

theorem aloof_disconnectRemoved (w : Option WiimoteId) : Respects Aloof (disconnectRemoved w) := by
  cases w with
  | none => exact aloof_pure ()
  | some w =>
      apply aloof_bind
      · apply aloof_modifyLink
        · exact fun _ h => h
        · exact fun _ h => h
        · intro link d h
          cases h
      · exact fun _ => aloof_bind (aloof_fakeWiimoteDisconnect w) fun _ => aloof_pure _

theorem aloof_inputDeviceHandleRemoved (device : Nat) :
    Respects Aloof (inputDeviceHandleRemoved device) := by
  apply aloof_bind aloof_get
  intro s
  split
  · exact aloof_pure ()
  · apply aloof_bind (aloof_disconnectRemoved _)
    intro u
    apply aloof_modifySlot
    · intro slot holds
      cases holds
    · exact fun _ _ h => h

theorem aloof_inputDevicesTick : Respects Aloof inputDevicesTick := by
  have tick (d : SlotId) : Respects Aloof (modifySlot d Slot.tick) := by
    apply aloof_modifySlot
    · intro slot holds
      unfold Slot.tick at holds
      split at holds <;> exact holds
    · intro slot v assigned
      unfold Slot.tick at assigned
      split at assigned <;> exact assigned
  exact aloof_bind (tick 0) fun _ => tick 1

theorem aloof_modifyEndpoint (ep : EndpointId) (f : Endpoint → Endpoint) :
    Respects Aloof (modifyEndpoint ep f) := by
  cases ep with
  | intr => exact Respects.modify fun _ => .of_core rfl rfl rfl rfl rfl
  | bulkIn => exact Respects.modify fun _ => .of_core rfl rfl rfl rfl rfl

theorem aloof_handleBufferRequest (ep : EndpointId) (msg : IpcMessage) :
    Respects Aloof (handleBufferRequest ep msg) :=
  aloof_bind aloof_get fun _ => aloof_bind (aloof_lift _) fun _ => aloof_modifyEndpoint _ _

theorem aloof_trackReply (ep : EndpointId) (retval : Int) (buffer : List UInt8) :
    Respects Aloof (trackReply ep retval buffer) := by
  apply Respects.ite
  · apply aloof_bind aloof_get
    intro s
    cases ep with
    | intr =>
        exact aloof_bind (aloof_lift _) fun _ => aloof_bind (aloof_modifyHci _) fun _ =>
          aloof_pure _
    | bulkIn => exact aloof_lift _
  · exact aloof_pure _

theorem aloof_oh1ResourceReply (ep : EndpointId) (retval : Int) (written : List UInt8) :
    Respects Aloof (oh1ResourceReply ep retval written) :=
  aloof_bind aloof_get fun _ => aloof_bind (aloof_trackReply _ _ _) fun _ =>
    aloof_modifyEndpoint _ _

theorem aloof_sendEventNumberOfCompletedPackets :
    Respects Aloof fakeWiimoteMgrSendEventNumberOfCompletedPackets := by
  have reset (w : WiimoteId) : Respects Aloof (resetNumCompleted w) := by
    apply aloof_modifyLink
    · intro link h
      split at h <;> exact h
    · intro link h
      split at h <;> exact h
    · intro link d h
      split at h <;> exact h
  exact aloof_bind aloof_get fun _ => aloof_bind (reset 0) fun _ => aloof_bind (reset 1) fun _ =>
    aloof_when (aloof_bind (aloof_injectHciEvent _ _ _) fun _ => aloof_pure _)

theorem aloof_answerForHandle {handle : UInt16} {answer : M Unit} (aloof : Respects Aloof answer) :
    Respects Aloof (answerForHandle handle answer) := by
  apply aloof_bind aloof_get
  intro s
  split
  · exact aloof_bind aloof fun _ => aloof_pure _
  · exact aloof_pure _

theorem aloof_answerWithStatus {opcode : UInt16} {result : M IosResult}
    (aloof : Respects Aloof result) : Respects Aloof (answerWithStatus opcode result) :=
  aloof_bind (aloof_injectHciEvent _ _ _) fun _ => aloof_bind (aloof_assertInjected _) fun _ =>
    aloof_bind aloof fun _ => aloof_assertInjected _

theorem aloof_handleDisconnect (payload : List UInt8) :
    Respects Aloof (handleDisconnect payload) := by
  apply aloof_bind (aloof_lift _)
  intro handle
  apply aloof_bind aloof_get
  intro s
  split
  · exact aloof_bind (aloof_injectHciEvent _ _ _) fun _ => aloof_bind (aloof_assertInjected _)
      fun _ => aloof_bind (aloof_fakeWiimoteDisconnect _) fun _ => aloof_pure _
  · exact aloof_pure _

theorem aloof_handleRejectCon (payload : List UInt8) :
    Respects Aloof (handleRejectCon payload) := by
  apply aloof_bind (aloof_lift _)
  intro bdaddr
  apply aloof_bind aloof_get
  intro s
  split
  · exact aloof_bind (aloof_fakeWiimoteDisconnect _) fun _ => aloof_pure _
  · exact aloof_pure _

theorem aloof_handleRemoteNameReq (payload : List UInt8) :
    Respects Aloof (handleRemoteNameReq payload) := by
  apply aloof_bind (aloof_lift _)
  intro bdaddr
  apply aloof_bind aloof_get
  intro s
  split
  · exact aloof_bind (aloof_answerWithStatus (aloof_injectHciEvent _ _ _)) fun _ => aloof_pure _
  · exact aloof_pure _

theorem aloof_resetFakeWiimote (w : WiimoteId) : Respects Aloof (resetFakeWiimote w) :=
  aloof_bind (aloof_getLink _) fun _ => aloof_when (aloof_bind (aloof_releaseInputDevice _)
    fun _ => aloof_deactivate w)

theorem aloof_handleReset : Respects Aloof handleReset :=
  aloof_bind (aloof_resetFakeWiimote _) fun _ => aloof_bind (aloof_resetFakeWiimote _) fun _ =>
    aloof_pure _

theorem aloof_handleReadStoredLinkKey (payload : List UInt8) :
    Respects Aloof (handleReadStoredLinkKey payload) :=
  aloof_bind (aloof_lift _) fun _ => aloof_bind (aloof_lift _) fun _ => aloof_bind aloof_get
    fun _ => Respects.ite (aloof_bind (aloof_injectHciEvent _ _ _) fun _ => aloof_pure _)
      (Respects.ite (Respects.throw _) (aloof_pure _))

theorem aloof_fakeWiimoteMgrHandleHciCmdFromHost {opcode : UInt16} (other : opcode ≠ hciCmdAcceptCon)
    (payload : List UInt8) :
    Respects Aloof (fakeWiimoteMgrHandleHciCmdFromHost opcode payload) := by
  have answered {opcode : UInt16} {result : M IosResult} (aloof : Respects Aloof result)
      {handle : UInt16} :
      Respects Aloof (answerForHandle handle (answerWithStatus opcode result)) :=
    aloof_answerForHandle (aloof_answerWithStatus aloof)
  have inject := aloof_injectHciEvent
  unfold fakeWiimoteMgrHandleHciCmdFromHost
  rw [if_neg other]
  refine .ite (aloof_handleDisconnect _) (.ite (aloof_handleRejectCon _) (.ite ?_ (.ite ?_
    (.ite (aloof_handleRemoteNameReq _) (.ite ?_ (.ite ?_ (.ite ?_ (.ite ?_ (.ite ?_
    (.ite aloof_handleReset (.ite (aloof_handleReadStoredLinkKey _)
    (.ite ?_ (aloof_pure _)))))))))))))
  · exact aloof_bind (aloof_lift _) fun _ => aloof_answerForHandle
      (aloof_bind (aloof_lift _) fun _ => aloof_answerWithStatus (inject _ _ _))
  · exact aloof_bind (aloof_lift _) fun _ => answered (inject _ _ _)
  · exact aloof_bind (aloof_lift _) fun _ => answered (inject _ _ _)
  · exact aloof_bind (aloof_lift _) fun _ => answered (inject _ _ _)
  · exact aloof_bind (aloof_lift _) fun _ => answered (inject _ _ _)
  · exact aloof_bind (aloof_lift _) fun _ => aloof_answerForHandle
      (aloof_bind (aloof_lift _) fun _ => aloof_answerWithStatus (inject _ _ _))
  · exact aloof_bind (aloof_lift _) fun _ => aloof_answerForHandle
      (aloof_bind (inject _ _ _) fun _ => aloof_assertInjected _)
  · exact aloof_bind (aloof_lift _) fun _ => aloof_answerForHandle
      (aloof_bind (inject _ _ _) fun _ => aloof_assertInjected _)

end Fakemote
