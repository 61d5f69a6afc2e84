import Fakemote.ControllerPairing
import Fakemote.DeedFrames
import Fakemote.HidReports
import Fakemote.InBounds
import Fakemote.InjectedPackets
import Fakemote.Library.FaultSets
import Fakemote.TimerPhases

/-! What can stop a timer: only a Connect Request that could not be injected. -/

namespace Fakemote

open Bytes Program Transition

section Helpers

variable {F : Fault → Prop}

theorem errors_orFault {α : Type} {fault : Fault} (raised : F fault) (x : Option α) :
    ErrorsIn F (orFault fault x) := by
  cases x with
  | some a => exact .ok a
  | none => exact .error raised

theorem raises_assertThat {condition : Prop} [Decidable condition] {failed : Assertion}
    (holds : condition) : Raises F (assertThat condition failed) := by
  unfold assertThat
  rw [if_pos holds]
  exact .pure ()

theorem raises_getSession (w : WiimoteId) : Raises F (getSession w) :=
  .bind .get fun _ => .pure _

theorem raises_stackBytes (count : Nat) : Raises F (stackBytes count) :=
  .bind .get fun _ => .bind (.modify _) fun _ => .pure _

theorem stackBytes_length {count : Nat} {p q : Periphery} {bytes : List UInt8}
    (run : stackBytes count p = .ok (bytes, q)) : bytes.length = count := by
  cases run
  rw [List.length_map, List.length_range]

theorem raises_deref {α : Type} {x : Option α} (there : x ≠ none ∨ F .nullPointer) :
    ErrorsIn F (deref x) := by
  cases x with
  | some a => exact .ok a
  | none => exact .error (there.resolve_left (not_not.mpr rfl))

def Packet.Fits (packet : Packet) : Prop :=
  ∃ data, packet.bytes = .ok data ∧ data.length ≤ packet.size.toNat

theorem Packet.Fills.fits {packet : Packet} {bytes : List UInt8} (fills : packet.Fills bytes) :
    packet.Fits :=
  ⟨bytes, fills.writes, Nat.le_of_eq fills.size.symm⟩

/-- The faults of an injection are those of its bytes when these fit. -/
theorem errors_inject {heap : Heap} {endpoint : Endpoint} {packet : Packet}
    (source : ErrorsIn F packet.bytes)
    (fits : ∀ data, packet.bytes = .ok data → data.length ≤ packet.size.toNat) :
    ErrorsIn F (inject heap endpoint packet) := by
  unfold inject Heap.injmessageAlloc
  cases heap.outcome heap.calls with
  | none => exact .ok _
  | some junk =>
      refine .bind source fun data written => .bind ?_ fun msg _ => .ok _
      unfold fillMessage
      rw [if_pos (by simpa using fits data written)]
      exact .ok _

theorem Packet.Fits.errorsIn {packet : Packet} (fits : packet.Fits) (heap : Heap)
    (endpoint : Endpoint) : ErrorsIn F (inject heap endpoint packet) := by
  obtain ⟨data, written, least⟩ := fits
  refine errors_inject (written ▸ .ok data) fun bytes same => ?_
  rw [written] at same
  cases same
  exact least

theorem raises_injectBulkIn {packet : Packet} (fits : packet.Fits) :
    Raises F (injectBulkIn packet) :=
  .bind .get fun _ => .bind (.lift (fits.errorsIn _ _)) fun _ => .bind (.modify _) fun _ => .pure _

theorem raises_injectHciEvent {event eventSize : UInt8} {fields : List UInt8}
    (fits : fields.length ≤ eventSize.toNat) :
    Raises F (injectHciEvent event eventSize fields) := by
  have packet : (hciEventMsg event eventSize fields).Fits := by
    have bound := eventSize.toNat_lt
    refine ⟨_, rfl, ?_⟩
    simp only [hciEventMsg, hciEventHdrSize, UInt16.toNat_ofNat', List.length_append,
      List.length_cons, List.length_nil]
    omega
  exact .bind .get fun _ => .bind (.lift (packet.errorsIn _ _)) fun _ =>
    .bind (.modify _) fun _ => .pure _

theorem raises_signal {handle : UInt16} {code ident : UInt8} (payload : List UInt8)
    (short : payload.length + 12 < 65536) :
    Raises F (injectBulkIn
      (l2capCmdMsg handle code ident (UInt16.ofNat payload.length) (.ok payload))) :=
  raises_injectBulkIn (fills_l2capCmdMsg short).fits

theorem raises_injectL2capConnectReq (handle psm scid : UInt16) :
    Raises F (injectL2capConnectReq handle psm scid) :=
  raises_signal (connectReqPayload psm scid) (show 4 + 12 < 65536 by decide)

theorem raises_injectL2capDisconnectRsp (handle : UInt16) (ident : UInt8) (dcid scid : UInt16) :
    Raises F (injectL2capDisconnectRsp handle ident dcid scid) :=
  raises_signal (disconnectPayload dcid scid) (show 4 + 12 < 65536 by decide)

theorem raises_injectL2capConfigReq (handle remoteCid mtu flushTimeOut : UInt16) :
    Raises F (injectL2capConfigReq handle remoteCid mtu flushTimeOut) := by
  rw [injectL2capConfigReq_eq]
  exact raises_signal _ (configReqPayload_short _ _ _)

end Helpers

def Session.Asks (wiimote : Session) : Prop :=
  wiimote.psmHidCntlChn.valid = false ∨
    wiimote.psmHidCntlChn.isComplete = true ∧ wiimote.psmHidIntrChn.valid = false

def Session.Requests (wiimote : Session) : Prop := wiimote.aclState = .linking ∧ wiimote.Asks

namespace Device

section Session

variable {F : Fault → Prop} (dev : Device)

theorem raises_sendHidInputReport {id : UInt8} {data : List UInt8}
    (short : data.length ≤ controllerDataBytes) : Raises F (dev.sendHidInputReport id data) := by
  rw [controllerDataBytes] at short
  refine .bind (raises_getSession _) fun wiimote => ?_
  refine .bind (raises_assertThat (by rw [wiimoteMaxPayload]; exact short)) fun _ => ?_
  refine .bind (raises_assertThat ?_) fun _ => ?_
  · rw [wiimoteMaxPayload, List.length_cons]
    omega
  · refine raises_injectBulkIn (fills_l2capMsg ?_).fits
    simp only [List.length_cons]
    omega

theorem raises_wiimoteSendAck (rptId errorCode : UInt8) :
    Raises F (dev.wiimoteSendAck rptId errorCode) :=
  .bind (raises_getSession _) fun _ => dev.raises_sendHidInputReport (show 4 ≤ 21 by decide)

theorem raises_ackReport (flags rptId : UInt8) : Raises F (dev.ackReport flags rptId) :=
  .when (.bind (dev.raises_wiimoteSendAck _ _) fun _ => .pure _)

theorem raises_wiimoteSendInputReportStatus : Raises F dev.wiimoteSendInputReportStatus := by
  refine .bind (raises_getSession _) fun wiimote => ?_
  refine .bind_gives (raises_stackBytes 2) (fun _ _ _ run => stackBytes_length run)
    fun padding two => dev.raises_sendHidInputReport ?_
  simp only [List.length_append, bytes16_length, List.length_cons, List.length_nil, two]
  decide

theorem raises_fakeWiimoteProcessReadRequest : Raises F dev.fakeWiimoteProcessReadRequest := by
  refine .bind .get fun p => .ite (.pure _) ?_
  have least := readMemory_length p.platform.memory (p.sessions dev.self)
    (min 16 (p.sessions dev.self).readRequest.size.toNat)
  generalize readMemory p.platform.memory (p.sessions dev.self) _ = read at least ⊢
  obtain ⟨error, after, data⟩ := read
  dsimp only at least ⊢
  refine .bind (.modify _) fun _ => .bind (dev.raises_sendHidInputReport ?_) fun _ => .pure _
  simp only [List.length_append, bytes16_length, List.length_cons, List.length_nil,
    List.length_replicate, controllerDataBytes]
  omega

theorem raises_fakeWiimoteProcessExtensionChange :
    Raises F dev.fakeWiimoteProcessExtensionChange :=
  .bind (raises_getSession _) fun _ => .ite (.pure _) <| .bind (.modify _) fun _ =>
    .bind dev.raises_wiimoteSendInputReportStatus fun _ => .pure _

theorem inputReport_room (mode : UInt8) :
    inputReportAccOffset mode + inputReportAccSize mode ≤ controllerDataBytes ∧
      inputReportIrOffset mode + inputReportIrSize mode ≤ controllerDataBytes ∧
      inputReportExtOffset mode + inputReportExtSize mode ≤ controllerDataBytes := by
  by_cases listed : mode ∈ [inputReportIdBtnAcc, inputReportIdBtnExp8, inputReportIdBtnAccIr,
    inputReportIdBtnExp19, inputReportIdBtnAccExp, inputReportIdBtnIrExp, inputReportIdBtnAccIrExp,
    inputReportIdExp21]
  · simp only [List.mem_cons, List.not_mem_nil, or_false] at listed
    rcases listed with rfl | rfl | rfl | rfl | rfl | rfl | rfl | rfl <;> decide
  · simp only [List.mem_cons, List.not_mem_nil, or_false, not_or] at listed
    obtain ⟨h1, h2, h3, h4, h5, h6, h7, h8⟩ := listed
    simp [inputReportAccOffset, inputReportAccSize, inputReportIrOffset, inputReportIrSize,
      inputReportExtOffset, inputReportExtSize, h1, h2, h3, h4, h5, h6, h7, h8]

theorem extensionBytes_short {size : Nat} {p q : Periphery} {bytes : List UInt8}
    (run : dev.extensionBytes size p = .ok (bytes, q)) : bytes.length ≤ size := by
  obtain ⟨_, _, got, run⟩ := bind_ok.mp run
  cases got
  rcases ite_run run with ⟨-, run⟩ | ⟨-, run⟩
  · cases run
    exact Nat.zero_le size
  · rcases read : (p.sessions dev.self).extensionReadData p.platform.memory 0 size with
      _ | ⟨after, data⟩
    · rw [read] at run
      cases run
      exact Nat.zero_le size
    · rw [read] at run
      obtain ⟨_, _, -, run⟩ := bind_ok.mp run
      cases run
      exact Nat.le_of_eq (extensionReadData_length read)

theorem raises_extensionBytes (size : Nat) : Raises F (dev.extensionBytes size) := by
  refine .bind .get fun p => .ite (.pure _) ?_
  cases (p.sessions dev.self).extensionReadData p.platform.memory 0 size with
  | none => exact .pure _
  | some read => exact .bind (.modify _) fun _ => .pure _

theorem raises_stored {β : Type} {report bytes : List UInt8} {offset : Nat}
    {f : List UInt8 → P β} (whole : report.length = controllerDataBytes)
    (room : offset + bytes.length ≤ controllerDataBytes)
    (rest : ∀ after : List UInt8, after.length = controllerDataBytes → Raises F (f after)) :
    Raises F (liftM (storeBytes report offset bytes) >>= f) := by
  refine .lift_bind ?_ fun after stored => rest after ?_
  · unfold storeBytes Bytes.storeBytes
    rw [whole, if_pos room]
    exact .ok _
  · rw [← whole]
    exact Bytes.storeBytes_length (orFault_ok.mp stored)

theorem raises_fakeWiimoteSendDataReport : Raises F dev.fakeWiimoteSendDataReport := by
  refine .bind (raises_getSession _) fun wiimote => .ite (.pure _) (.ite ?_ (.pure _))
  obtain ⟨accRoom, irRoom, extRoom⟩ := inputReport_room wiimote.reportingMode
  refine .bind_gives (raises_stackBytes _) (fun _ _ _ run => stackBytes_length run)
    fun buffer whole => ?_
  refine raises_stored whole ?_ fun acc whole => ?_
  · rw [accelerometer_length]
    exact accRoom
  refine raises_stored whole ?_ fun ir whole => ?_
  · rw [Registers.read_length]
    exact irRoom
  refine .bind_gives (dev.raises_extensionBytes _) (fun _ _ _ run => dev.extensionBytes_short run)
    fun extension short => ?_
  refine raises_stored whole (by omega) fun ext whole => ?_
  refine raises_stored whole ?_ fun btn whole => ?_
  · rw [buttons_length, controllerDataBytes]
    split <;> omega
  refine .bind (dev.raises_sendHidInputReport ?_) fun _ => .modify _
  rw [List.length_take]
  omega

theorem raises_checkSendConfigForNewChannel (chn : Channel) :
    Raises F (dev.checkSendConfigForNewChannel chn) :=
  .bind (raises_getSession _) fun _ => .when <|
    .bind (raises_injectL2capConfigReq _ _ _ _) fun _ => .when (.modify _)

theorem raises_checkSendConfigs : Raises F dev.checkSendConfigs :=
  .bind (dev.raises_checkSendConfigForNewChannel _) fun _ =>
    dev.raises_checkSendConfigForNewChannel _

theorem raises_requestChannel (injected : F (.assertion .injected)) (chn : Channel)
    (psm : UInt16) : Raises F (dev.requestChannel chn psm) := by
  refine .bind (.bind .get fun _ => .bind (.modify _) fun _ => .pure _) fun localCid => ?_
  refine .bind (raises_injectL2capConnectReq _ _ _) fun ret => ?_
  exact .bind (.ite (.pure _) (.throw injected)) fun _ => .modify _

/-- The fake Wiimote has its slot, with a controller, and the slot has its fake Wiimote. -/
def Driven (dev : Device) : Prop :=
  ∃ d, dev.link.inputDevice = some d ∧ (dev.core.slots d).device ≠ none ∧
    (dev.core.slots d).assignedWiimote ≠ none

theorem raisesAt_tickLinking {p : Periphery}
    (injected : (p.sessions dev.self).Asks → F (.assertion .injected)) (driven : dev.Driven) :
    RaisesAt F dev.tickLinking p := by
  obtain ⟨d, points, -, -⟩ := driven
  have resume : Raises F (inputDeviceResume dev.core dev.link.inputDevice) := by
    rw [points]
    exact .lift_bind (.ok d) fun _ _ => .modify _
  have request : ∀ chn psm, F (.assertion .injected) → Raises F (do
      dev.requestChannel chn psm
      dev.checkSendConfigs) := fun chn psm injected =>
    .bind (dev.raises_requestChannel injected _ _) fun _ => dev.raises_checkSendConfigs
  refine .bind ((raises_getSession _).at_state p) fun wiimote q got => ?_
  cases got
  refine .ite (fun invalid => ?_) fun _ => .ite (fun due => ?_) fun _ => ?_
  · exact (request _ _ (injected (Or.inl invalid))).at_state p
  · exact (request _ _ (injected (Or.inr due))).at_state p
  · exact (Raises.ite (.bind (.modify _) fun _ => resume) dev.raises_checkSendConfigs).at_state p

theorem raises_inputDeviceReportInput (driven : dev.Driven) :
    Raises F (inputDeviceReportInput dev.core dev.link.inputDevice) := by
  obtain ⟨d, points, device, wiimote⟩ := driven
  have dots : Raises F stackIrDots := .bind (raises_stackBytes _) fun _ => .pure _
  have assigned : ErrorsIn F (deref (dev.core.slots d).assignedWiimote) :=
    raises_deref (Or.inl wiimote)
  have reported : ∀ device, Raises F (reportInputs d device (dev.core.slots d).assignedWiimote) :=
    fun device => .bind .get fun _ => .lift_bind assigned fun _ _ => .bind dots fun _ =>
      .bind (.modify _) fun _ => .modify _
  have switched : ∀ device, Raises F (checkSwitchIrEmuMode d device) :=
    fun device => .bind .get fun _ => .bind (.modify _) fun _ => .when (.modify _)
  rw [points]
  refine .lift_bind (.ok d) fun same found => ?_
  cases found
  refine .lift_bind (raises_deref (Or.inl device)) fun egc _ => .bind .get fun p => ?_
  refine .bind (.modify _) fun _ => .ite ?_ ?_
  · refine .bind (.modify _) fun _ => .lift_bind assigned fun _ _ => ?_
    exact .bind (.modify _) fun _ => .pure _
  · exact .bind (switched _) fun _ => .bind (reported _) fun _ => .pure _

theorem raises_tickReports (driven : dev.Driven) : Raises F dev.tickReports :=
  .bind dev.raises_fakeWiimoteProcessReadRequest fun _ => .ite (.pure _) <|
    .bind dev.raises_fakeWiimoteProcessExtensionChange fun _ => .ite (.pure _) <|
    .bind (dev.raises_inputDeviceReportInput driven) fun _ =>
    .when dev.raises_fakeWiimoteSendDataReport

theorem raisesAt_tickConnected {p : Periphery}
    (injected : (p.sessions dev.self).Requests → F (.assertion .injected)) (driven : dev.Driven) :
    RaisesAt F dev.tickConnected p := by
  refine .bind ((raises_getSession _).at_state p) fun wiimote q got => ?_
  cases got
  refine .ite (fun linking => ?_) fun _ => (dev.raises_tickReports driven).at_state p
  exact dev.raisesAt_tickLinking (fun asks => injected ⟨linking, asks⟩) driven

end Session

end Device

theorem step_error {s : World} {input : Input} {fault : Fault} :
    step s input = .error fault ↔ handleInput input s = .error fault := by
  unfold step
  cases handleInput input s with
  | error other => simp
  | ok result => simp

section Timers

variable {F : Fault → Prop}

theorem raises_withPeriphery {α : Type} {body : Core → P α}
    (bodies : ∀ core, Raises F (body core)) :
    Raises F (withPeriphery body) :=
  fun s e run => (bodies s.core).zoom s e run

theorem raisesAt_onDevice {α : Type} {w : WiimoteId} {body : Device → P α} {s : World}
    (bodies : RaisesAt F (body ⟨s.core, w⟩) s.periphery) : RaisesAt F (onDevice w body) s := by
  intro e run
  have zoomed : zoom World.periphery (fun s p => { s with periphery := p }) (body ⟨s.core, w⟩) s =
      .error e := run
  unfold zoom at zoomed
  split at zoomed
  · cases zoomed
  · rename_i fault inner
    cases zoomed
    exact bodies _ inner

theorem raises_inputDeviceReleaseWiimote (d : SlotId) : Raises F (inputDeviceReleaseWiimote d) :=
  .bind (.modify _) fun _ => raises_withPeriphery fun _ => .modify _

theorem raises_releaseInputDevice (inputDevice : Option SlotId) :
    Raises F (releaseInputDevice inputDevice) := by
  cases inputDevice with
  | none => exact .pure ()
  | some d => exact raises_inputDeviceReleaseWiimote d

theorem raises_getLink (w : WiimoteId) : Raises F (getLink w) := .bind .get fun _ => .pure _

theorem raises_fakeWiimoteDisconnect (w : WiimoteId) : Raises F (fakeWiimoteDisconnect w) :=
  .bind (.modify _) fun _ => .bind (raises_getLink w) fun _ =>
    .bind (raises_releaseInputDevice _) fun _ =>
    .ite (raises_injectHciEvent (Nat.le_refl 4)) (.pure _)

theorem raises_handleEgcEvent (event : EgcEvent) : Raises F (handleEgcEvent event) := by
  cases event with
  | added device =>
      refine .bind .get fun s => ?_
      cases freeSlot s.core with
      | none => exact .pure ()
      | some d => exact .bind (.modify _) fun _ => raises_withPeriphery fun _ => .modify _
  | removed device =>
      refine .bind .get fun s => ?_
      cases inputDeviceFromEgc s.core device with
      | none => exact .pure ()
      | some d =>
          refine .bind ?_ fun _ => .modify _
          cases (s.core.slots d).assignedWiimote with
          | none => exact .pure ()
          | some w =>
              refine .bind (.modify _) fun _ => .bind (raises_fakeWiimoteDisconnect w) fun _ => ?_
              exact .pure ()
  | input device state => exact raises_withPeriphery fun _ => .modify _

theorem raises_egcHandleEvents (events : List EgcEvent) : Raises F (egcHandleEvents events) := by
  induction events with
  | nil => exact .pure ()
  | cons event events ih => exact .bind (raises_handleEgcEvent event) fun _ => ih

theorem raises_checkAssignInputDevice (w : WiimoteId) : Raises F (checkAssignInputDevice w) := by
  refine .bind .get fun s => .ite (.pure ()) ?_
  cases inputDeviceGetUnassigned s.core with
  | none => exact .pure ()
  | some d =>
      refine .bind (.modify _) fun _ => .bind ?_ fun _ => .modify _
      exact .bind (.modify _) fun _ => raises_withPeriphery fun _ => .modify _

theorem raises_sendEventNumberOfCompletedPackets :
    Raises F fakeWiimoteMgrSendEventNumberOfCompletedPackets := by
  refine .bind .get fun s => .bind (.modify _) fun _ => .bind (.modify _) fun _ => ?_
  refine .when (.bind (raises_injectHciEvent ?_) fun _ => .pure ())
  have few : ((connectedLinks s.core).map numComplPktsEntry).length ≤ 2 := by
    rw [List.length_map]
    exact connectedLinks_length s.core
  exact Nat.le_of_eq (numComplPkts_fields few)

theorem Paired.ticks {α : Type} {m : M α} {s t : World} {a : α} (paired : Paired s.ledger)
    (ticks : Ticks m) (run : m s = .ok (a, t)) : Paired t.ledger := by
  obtain ⟨labels, moves, path⟩ := ticks s a t run
  have safe : s.ledger.Along safeRelease labels := by
    refine Labelled.Along.always (fun label member a => ?_) _
    cases moves label member <;> trivial
  exact path.safe_invariant Paired safe paired fun _ _ holds enabled safe => holds.act enabled safe

theorem Paired.driven {s : World} (paired : Paired s.ledger) {w : WiimoteId}
    (active : (s.core.links w).active = true) : (Device.mk s.core w).Driven := by
  rcases points : (s.core.links w).inputDevice with _ | d
  · exact absurd points (paired.controlled w active)
  · have named := (paired.agree w d).mp (controllerOf_eq_some.mpr ⟨active, points⟩)
    obtain ⟨present, assigned⟩ := wiimoteOf_eq_some.mp named
    refine ⟨d, points, Option.isSome_iff_ne_none.mp present, ?_⟩
    rw [show (s.core.slots d).assignedWiimote = some w from assigned]
    exact nofun

/-- A connected fake Wiimote that is about to ask for a channel. -/
def World.Requests (s : World) (w : WiimoteId) : Prop :=
  (s.core.links w).active = true ∧ (s.core.links w).basebandState = .complete ∧
    (s.periphery.sessions w).Requests

def Fewer (s t : World) : Prop := ∀ w, t.Requests w → s.Requests w

theorem Fewer.trans {s t u : World} (first : Fewer s t) (second : Fewer t u) : Fewer s u :=
  fun w requests => first w (second w requests)

theorem Aloof.fewer {s t : World} (aloof : Aloof s t) : Fewer s t := by
  rintro w ⟨active, complete, requests⟩
  rw [aloof.sessions] at requests
  exact ⟨aloof.active w active, aloof.complete w complete, requests⟩

theorem egcHandleEvents_fewer {u : Unit} (events : List EgcEvent) :
    ∀ {s t : World}, egcHandleEvents events s = .ok (u, t) → Fewer s t := by
  induction events with
  | nil =>
      intro s t run
      cases run
      exact fun _ requests => requests
  | cons event events ih =>
      intro s t run
      obtain ⟨_, s1, first, rest⟩ := bind_ok.mp run
      refine Fewer.trans ?_ (ih rest)
      cases egcEvent_effect first with
      | aloof aloof => exact aloof.fewer
      | plug free => exact fun _ requests => requests

theorem checkAssign_fewer {s t : World} {w : WiimoteId} {u : Unit}
    (run : checkAssignInputDevice w s = .ok (u, t)) : Fewer s t := by
  cases checkAssign_effect run with
  | aloof aloof => exact aloof.fewer
  | @assign w d inactive found =>
      rintro v ⟨active, complete, requests⟩
      by_cases same : v = w
      · subst same
        rw [s.assigned_session_same] at requests
        cases requests.1
      · rw [s.assigned_session_other d same] at requests
        rw [s.assigned_link_other d same] at active complete
        exact ⟨active, complete, requests⟩

theorem tickActive_fewer {s t : World} {v w : WiimoteId} {u : Unit} (other : v ≠ w)
    (run : tickActive w s = .ok (u, t)) (requests : t.Requests v) : s.Requests v := by
  by_cases connected : (s.core.links w).active = true ∧ (s.core.links w).basebandState = .complete
  · obtain ⟨deeds, q, rfl, performed, -⟩ := tickActive_performs connected.1 connected.2 run
    obtain ⟨active, complete, requests⟩ := requests
    have linkage := performed.linkage (Or.inr other)
    unfold Session.linkage at linkage
    simp only [Prod.mk.injEq] at linkage
    unfold Session.Requests Session.Asks at requests
    rw [linkage.1, linkage.2.2.1, linkage.2.2.2] at requests
    exact ⟨active, complete, requests⟩
  · exact (tickActive_aloof connected run).fewer v requests

theorem raisesAt_tickActive {s : World} {w : WiimoteId}
    (injected : s.Requests w → F (.assertion .injected)) (paired : Paired s.ledger) :
    RaisesAt F (tickActive w) s := by
  refine .get_bind (.when fun active => .get_bind ?_)
  have driven := paired.driven active
  cases baseband : (s.core.links w).basebandState with
  | inactive => exact (Raises.pure ()).at_state s
  | requestConnection =>
      refine (Raises.when (.bind (raises_injectHciEvent ?_) fun _ => .when (.modify _))).at_state s
      rw [List.length_append, (s.core.links w).bdaddr.property]
      exact Nat.le_refl 10
  | complete =>
      exact raisesAt_onDevice (Device.raisesAt_tickConnected ⟨s.core, w⟩
        (fun requests => injected ⟨active, baseband, requests⟩) driven)

theorem raisesAt_periodicTimer {s : World}
    (injected : ∀ w, s.Requests w → F (.assertion .injected)) (paired : Paired s.ledger)
    (events : List EgcEvent) : RaisesAt F (periodicTimer events) s := by
  refine .bind (raises_egcHandleEvents events s) fun _ s1 plugged => ?_
  have fewer := egcHandleEvents_fewer events plugged
  have paired := paired.ticks (.egcHandleEvents events) plugged
  refine .bind ((Raises.bind (.modify _) fun _ => .modify _).at_state s1) fun _ s2 ticked => ?_
  have fewer := fewer.trans (aloof_inputDevicesTick _ _ _ ticked).fewer
  have paired := paired.ticks .inputDevicesTick ticked
  have assign : Raises F fakeWiimoteMgrCheckAssignInputDevices :=
    .bind (raises_checkAssignInputDevice 0) fun _ => raises_checkAssignInputDevice 1
  have assigns : Ticks fakeWiimoteMgrCheckAssignInputDevices :=
    .bind (.checkAssignInputDevice 0) fun _ => .checkAssignInputDevice 1
  refine .get_bind (.bind ((Raises.when assign).at_state s2) fun _ s3 assigned => ?_)
  have paired := paired.ticks (.when assigns) assigned
  have fewer : Fewer s s3 := by
    rcases ite_run assigned with ⟨-, run⟩ | ⟨-, run⟩
    · obtain ⟨_, s23, first, second⟩ := bind_ok.mp run
      exact (fewer.trans (checkAssign_fewer first)).trans (checkAssign_fewer second)
    · cases run
      exact fewer
  refine .bind (raisesAt_tickActive (fun requests => injected 0 (fewer 0 requests)) paired)
    fun _ s4 first => ?_
  have paired := paired.ticks (.tickActive 0) first
  have asked : s4.Requests 1 → F (.assertion .injected) := fun requests =>
    injected 1 (fewer 1 (tickActive_fewer (by decide) first requests))
  refine .bind (raisesAt_tickActive asked paired) fun _ s5 second => ?_
  exact raises_sendEventNumberOfCompletedPackets.at_state s5

end Timers

/-- In every run in which the host rejects nothing that would release a stale slot, a timer stops
only at the assertion after a Connect Request, and only when a connected fake Wiimote was about to
ask the host for a channel. Otherwise it comes to its end, whatever memory and queues refuse. -/
theorem timer_stops_only_at_request {env : Environment} {s : World}
    (reached : Run env rejectsReleasable s) {events : List EgcEvent} {fault : Fault}
    (run : step s (.timer events) = .error fault) :
    fault = .assertion .injected ∧ ∃ w, s.Requests w := by
  have paired : Paired s.ledger := reached.ledger_invariant Paired (init_paired env)
    (fun _ _ _ _ holds safe moves path => along_moves holds safe moves path)
    fun _ _ holds enabled safe => holds.act enabled safe
  have raises : RaisesAt (fun fault => fault = .assertion .injected ∧ ∃ w, s.Requests w)
      (periodicTimer events) s :=
    raisesAt_periodicTimer (fun w requests => ⟨rfl, w, requests⟩) paired events
  exact raises fault (step_error.mp run)

/-- The heap is empty after four packets. -/
def Environment.fourBlocks : Environment :=
  { Environment.lenient with heap := fun n => if n < 4 then some fun _ => 0 else none }

/-- The Connect Request of a fake Wiimote that has just been accepted finds no memory. -/
theorem timer_stops_only_at_request_no_memory :
    ∃ s, Run .fourBlocks rejectsReleasable s ∧
      step s (.timer []) = .error (.assertion .injected) ∧ ∃ w, s.Requests w := by
  obtain ⟨s, reached, fault⟩ : ∃ s, Run .fourBlocks rejectsReleasable s ∧
      decide (faultOf (step s (.timer [])) = some (.assertion .injected)) = true :=
    exists_of_execute [writeScanEnable, .timer [.added (plainDevice 1)], acceptCon 0]
      (by decide +kernel)
  have stops := faultOf_eq_some.mp (of_decide_eq_true fault)
  exact ⟨s, reached, stops, (timer_stops_only_at_request reached stops).2⟩

end Fakemote
