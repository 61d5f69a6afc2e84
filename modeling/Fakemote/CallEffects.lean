import Fakemote.Aloof
import Fakemote.SessionPackets

/-! What a call can do to the sessions, said once: nothing, plug in or assign a controller, accept a
connection, or the deeds of one fake Wiimote. -/

namespace Fakemote

open Bytes Program Transition Respects

inductive Command
  | connectRsp (dcid scid result status : UInt16)
  | configReq (dcid flags : UInt16)
  | configRsp (scid result : UInt16)
  | disconnectReq (dcid scid : UInt16)
  | other
  deriving DecidableEq

def commandOf (code : UInt8) (payload : List UInt8) : Except Fault Command :=
  if code = l2capConnectRsp then do
    let dcid := le16toh (← load16 payload 0)
    let scid := le16toh (← load16 payload 2)
    let result := le16toh (← load16 payload 4)
    let status := le16toh (← load16 payload 6)
    return .connectRsp dcid scid result status
  else if code = l2capConfigReq then do
    let dcid := le16toh (← load16 payload 0)
    let flags := le16toh (← load16 payload 2)
    return .configReq dcid flags
  else if code = l2capConfigRsp then do
    let scid := le16toh (← load16 payload 0)
    let result := le16toh (← load16 payload 4)
    return .configRsp scid result
  else if code = l2capDisconnectReq then do
    let dcid := le16toh (← load16 payload 0)
    let scid := le16toh (← load16 payload 2)
    return .disconnectReq dcid scid
  else return .other

/-- The size of the options of a Config Request, as a `u16` that may wrap. -/
def receivedOptionsSize (size : UInt16) : Nat := (size - UInt16.ofNat l2capCfgReqCpSize).toNat

def receivedOptions (payload : List UInt8) (size : UInt16) : List UInt8 :=
  (payload.drop l2capCfgReqCpSize).take (receivedOptionsSize size)

def receivedMtu (payload : List UInt8) (size : UInt16) : Except Fault UInt16 :=
  Device.configOptions (receivedOptionsSize size) (payload.drop l2capCfgReqCpSize) 0
    (receivedOptionsSize size) l2capMtuDefault

inductive CommandDeeds (wiimote : Session) (ident : UInt8) (payload : List UInt8) (size : UInt16) :
    Command → List Deed → Prop
  | connectRsp {dcid scid result status : UInt16} {chn : Channel} :
      connectRspFails dcid scid result = false → wiimote.getChannelInfo scid = some chn →
      CommandDeeds wiimote ident payload size (.connectRsp dcid scid result status)
        [.recordCid chn dcid]
  | configReq {dcid flags mtu : UInt16} {chn : Channel} {placed : Bool} :
      wiimote.getChannelInfo dcid = some chn → receivedMtu payload size = .ok mtu →
      CommandDeeds wiimote ident payload size (.configReq dcid flags)
        [.recordMtu chn mtu ident (receivedOptions payload size) placed]
  | configRsp {scid result : UInt16} {chn : Channel} : wiimote.getChannelInfo scid = some chn →
      CommandDeeds wiimote ident payload size (.configRsp scid result) [.complete chn]
  | disconnectReq {dcid scid : UInt16} {chn : Channel} {placed : Bool} :
      wiimote.getChannelInfo dcid = some chn →
      CommandDeeds wiimote ident payload size (.disconnectReq dcid scid)
        [.close chn ident dcid scid placed]

theorem onDevice_ok {α : Type} {w : WiimoteId} {body : Device → P α} {s t : World} {a : α}
    (run : onDevice w body s = .ok (a, t)) :
    ∃ q, body ⟨s.core, w⟩ s.periphery = .ok (a, q) ∧ t = { s with periphery := q } :=
  withPeriphery_frame run

theorem handleL2capSignalChannel_ok {s t : World} {w : WiimoteId} {code ident : UInt8}
    {payload : List UInt8} {size : UInt16} {u : Unit}
    (run : handleL2capSignalChannel w code ident payload size s = .ok (u, t)) :
    ∃ command, commandOf code payload = .ok command ∧
      ((∃ deeds q, CommandDeeds (s.periphery.sessions w) ident payload size command deeds ∧
        Device.Performs ⟨s.core, w⟩ s.periphery deeds q ∧ t = { s with periphery := q }) ∨
      (∃ dcid scid result status ret, command = .connectRsp dcid scid result status ∧
        connectRspFails dcid scid result = true ∧ fakeWiimoteDisconnect w s = .ok (ret, t)) ∨
      (command = .other ∧ t = s)) := by
  unfold handleL2capSignalChannel at run
  rcases ite_run run with ⟨rfl, run⟩ | ⟨other1, run⟩
  · obtain ⟨dcid, _, first, run⟩ := bind_ok.mp run
    obtain ⟨dcidAt, rfl⟩ := lift_ok.mp first
    obtain ⟨scid, _, second, run⟩ := bind_ok.mp run
    obtain ⟨scidAt, rfl⟩ := lift_ok.mp second
    obtain ⟨result, _, third, run⟩ := bind_ok.mp run
    obtain ⟨resultAt, rfl⟩ := lift_ok.mp third
    obtain ⟨status, _, fourth, run⟩ := bind_ok.mp run
    obtain ⟨statusAt, rfl⟩ := lift_ok.mp fourth
    have read : commandOf l2capConnectRsp payload =
        .ok (.connectRsp (le16toh dcid) (le16toh scid) (le16toh result) (le16toh status)) := by
      unfold commandOf
      rw [if_pos rfl, dcidAt, scidAt, resultAt, statusAt]
      rfl
    refine ⟨_, read, ?_⟩
    rcases ite_run run with ⟨fails, run⟩ | ⟨works, run⟩
    · obtain ⟨ret, _, closed, run⟩ := bind_ok.mp run
      cases run
      exact Or.inr (Or.inl ⟨_, _, _, _, ret, rfl, fails, closed⟩)
    · obtain ⟨q, inner, rfl⟩ := onDevice_ok run
      obtain ⟨chn, found, performed⟩ := Device.handleConnectRsp_performs inner
      exact Or.inl ⟨_, q, .connectRsp (Bool.not_eq_true _ ▸ works) found, performed, rfl⟩
  rcases ite_run run with ⟨rfl, run⟩ | ⟨other2, run⟩
  · obtain ⟨dcid, _, first, run⟩ := bind_ok.mp run
    obtain ⟨dcidAt, rfl⟩ := lift_ok.mp first
    obtain ⟨flags, _, second, run⟩ := bind_ok.mp run
    obtain ⟨flagsAt, rfl⟩ := lift_ok.mp second
    have read : commandOf l2capConfigReq payload =
        .ok (.configReq (le16toh dcid) (le16toh flags)) := by
      unfold commandOf
      rw [if_neg (by decide), if_pos rfl, dcidAt, flagsAt]
      rfl
    obtain ⟨q, inner, rfl⟩ := onDevice_ok run
    obtain ⟨chn, mtu, placed, found, options, performed⟩ :=
      Device.handleL2capConfigReq_performs inner
    have shape : CommandDeeds (s.periphery.sessions w) ident payload size
        (.configReq (le16toh dcid) (le16toh flags))
        [.recordMtu chn mtu ident (receivedOptions payload size) placed] := .configReq found options
    exact ⟨_, read, Or.inl ⟨_, q, shape, performed, rfl⟩⟩
  rcases ite_run run with ⟨rfl, run⟩ | ⟨other3, run⟩
  · obtain ⟨scid, _, first, run⟩ := bind_ok.mp run
    obtain ⟨scidAt, rfl⟩ := lift_ok.mp first
    obtain ⟨result, _, second, run⟩ := bind_ok.mp run
    obtain ⟨resultAt, rfl⟩ := lift_ok.mp second
    have read : commandOf l2capConfigRsp payload =
        .ok (.configRsp (le16toh scid) (le16toh result)) := by
      unfold commandOf
      rw [if_neg (by decide), if_neg (by decide), if_pos rfl, scidAt, resultAt]
      rfl
    obtain ⟨q, inner, rfl⟩ := onDevice_ok run
    obtain ⟨chn, found, performed⟩ := Device.handleConfigRsp_performs inner
    exact ⟨_, read, Or.inl ⟨_, q, .configRsp found, performed, rfl⟩⟩
  rcases ite_run run with ⟨rfl, run⟩ | ⟨other4, run⟩
  · obtain ⟨dcid, _, first, run⟩ := bind_ok.mp run
    obtain ⟨dcidAt, rfl⟩ := lift_ok.mp first
    obtain ⟨scid, _, second, run⟩ := bind_ok.mp run
    obtain ⟨scidAt, rfl⟩ := lift_ok.mp second
    have read : commandOf l2capDisconnectReq payload =
        .ok (.disconnectReq (le16toh dcid) (le16toh scid)) := by
      unfold commandOf
      rw [if_neg (by decide), if_neg (by decide), if_neg (by decide), if_pos rfl, dcidAt, scidAt]
      rfl
    obtain ⟨q, inner, rfl⟩ := onDevice_ok run
    obtain ⟨chn, placed, found, performed⟩ := Device.handleDisconnectReq_performs inner
    exact ⟨_, read, Or.inl ⟨_, q, .disconnectReq found, performed, rfl⟩⟩
  · have read : commandOf code payload = .ok .other := by
      unfold commandOf
      rw [if_neg other1, if_neg other2, if_neg other3, if_neg other4]
      rfl
    rcases ite_run run with ⟨-, run⟩ | ⟨-, run⟩
    · obtain ⟨psm, _, first, run⟩ := bind_ok.mp run
      obtain ⟨-, rfl⟩ := lift_ok.mp first
      obtain ⟨scid, _, second, run⟩ := bind_ok.mp run
      obtain ⟨-, rfl⟩ := lift_ok.mp second
      cases run
      exact ⟨.other, read, Or.inr (Or.inr ⟨rfl, rfl⟩)⟩
    · cases run
      exact ⟨.other, read, Or.inr (Or.inr ⟨rfl, rfl⟩)⟩

def World.plugged (s : World) (d : SlotId) (device : EgcDevice) : World :=
  { s with
    core := s.core.setSlot d fun _ => ⟨some device, none, 0⟩
    periphery := { s.periphery with
      mappings := Function.update s.periphery.mappings d
        (Mapping.added s.periphery.platform device (s.periphery.mappings d)) } }

def World.assigned (s : World) (w : WiimoteId) (d : SlotId) : World :=
  { s with
    core := (s.core.setSlot d fun slot => { slot with assignedWiimote := some w }).setLink w
      fun link =>
        { link with
          active := true
          basebandState := .requestConnection
          numCompletedAclDataPackets := 0
          inputDevice := some d }
    periphery := { s.periphery with
      sessions := Function.update s.periphery.sessions w (s.periphery.sessions w).initState } }

def World.accepted (s : World) (w : WiimoteId) : World :=
  let (handle, hci) := hciConHandleVirtAlloc s.core.hci
  { s with
    core := { s.core with hci := hci }.setLink w fun link =>
      { link with basebandState := .complete, hciConHandle := handle }
    periphery := { s.periphery with
      sessions := Function.update s.periphery.sessions w
        { s.periphery.sessions w with aclState := .linking } } }

namespace World

variable (s : World) {v w : WiimoteId} (d : SlotId)

theorem assigned_session_same :
    (s.assigned w d).periphery.sessions w = (s.periphery.sessions w).initState :=
  Function.update_self _ _ _

theorem assigned_session_other (other : v ≠ w) :
    (s.assigned w d).periphery.sessions v = s.periphery.sessions v :=
  Function.update_of_ne other _ _

theorem assigned_link_other (other : v ≠ w) :
    (s.assigned w d).core.links v = s.core.links v := by
  simp [assigned, other]

theorem accepted_session_same :
    (s.accepted w).periphery.sessions w = { s.periphery.sessions w with aclState := .linking } :=
  Function.update_self _ _ _

theorem accepted_session_other (other : v ≠ w) :
    (s.accepted w).periphery.sessions v = s.periphery.sessions v :=
  Function.update_of_ne other _ _

theorem accepted_link_other (other : v ≠ w) :
    (s.accepted w).core.links v = s.core.links v := by
  simp [accepted, other]

theorem accepted_active : ((s.accepted w).core.links v).active = (s.core.links v).active := by
  by_cases same : v = w
  · subst same
    simp [accepted]
  · rw [accepted_link_other s same]

end World

inductive Effect (s : World) : Call → World → Prop
  | aloof {c : Call} {t : World} : Aloof s t → Effect s c t
  | plug {d : SlotId} {device : EgcDevice} : freeSlot s.core = some d →
      Effect s (.egcEvent (.added device)) (s.plugged d device)
  | assign {w : WiimoteId} {d : SlotId} : (s.core.links w).active = false →
      inputDeviceGetUnassigned s.core = some d → Effect s (.assign w) (s.assigned w d)
  | accept {data : List UInt8} {w : WiimoteId} {s1 t : World} : Aloof s s1 →
      Aloof (s1.accepted w) t → Effect s (.hciCommand data) t
  | tick {w : WiimoteId} {deeds : List Deed} {q : Periphery} : (s.core.links w).active = true →
      (s.core.links w).basebandState = .complete →
      Device.Performs ⟨s.core, w⟩ s.periphery deeds q →
      (if (s.periphery.sessions w).aclState = .linking then
        Device.LinkingDeeds (s.periphery.sessions w) deeds
      else Device.ReportDeeds (s.periphery.sessions w) deeds) →
      Effect s (.tick w) { s with periphery := q }
  | command {w : WiimoteId} {code ident : UInt8} {payload : List UInt8} {size : UInt16}
      {command : Command} {deeds : List Deed} {q : Periphery} :
      commandOf code payload = .ok command →
      CommandDeeds (s.periphery.sessions w) ident payload size command deeds →
      Device.Performs ⟨s.core, w⟩ s.periphery deeds q →
      Effect s (.command w code ident payload size) { s with periphery := q }
  | output {w : WiimoteId} {dcid length : UInt16} {payload : List UInt8} {deeds : List Deed}
      {q : Periphery} :
      (deeds = [] ∨
        Device.ReportDeedsOf (s.periphery.sessions w).readRequest.size (payload.drop 1) deeds) →
      Device.Performs ⟨s.core, w⟩ s.periphery deeds q →
      Effect s (.channelData w dcid payload length) { s with periphery := q }

theorem egcEvent_effect {s t : World} {event : EgcEvent} {u : Unit}
    (run : handleEgcEvent event s = .ok (u, t)) : Effect s (.egcEvent event) t := by
  cases event with
  | added device =>
      obtain ⟨_, _, got, run⟩ := bind_ok.mp run
      cases got
      rcases free : freeSlot s.core with _ | d
      · rw [free] at run
        cases run
        exact .aloof (.refl s)
      · rw [free] at run
        obtain ⟨_, s1, first, run⟩ := bind_ok.mp run
        cases first
        obtain ⟨q, inner, rfl⟩ := withPeriphery_frame run
        cases inner
        exact .plug free
  | removed device => exact .aloof (aloof_inputDeviceHandleRemoved device _ _ _ run)
  | input device state =>
      cases run
      exact .aloof (.of_core rfl rfl rfl rfl rfl)

theorem checkAssign_effect {s t : World} {w : WiimoteId} {u : Unit}
    (run : checkAssignInputDevice w s = .ok (u, t)) : Effect s (.assign w) t := by
  obtain ⟨_, _, got, run⟩ := bind_ok.mp run
  cases got
  rcases ite_run run with ⟨-, run⟩ | ⟨free, run⟩
  · cases run
    exact .aloof (.refl s)
  · rcases found : inputDeviceGetUnassigned s.core with _ | d
    · rw [found] at run
      cases run
      exact .aloof (.refl s)
    · rw [found] at run
      have after : t = s.assigned w d := by
        cases run
        simp [World.assigned, Core.setLink, Core.setSlot]
      rw [after]
      exact .assign (by simpa using free) found

theorem hciCommand_effect {s t : World} {data : List UInt8} {result : Bool × List UInt8}
    (run : hciStateHandleHciCmdFromHost data s = .ok (result, t)) :
    Effect s (.hciCommand data) t := by
  obtain ⟨word, _, first, run⟩ := bind_ok.mp run
  obtain ⟨-, rfl⟩ := lift_ok.mp first
  obtain ⟨handled, s1, managed, run⟩ := bind_ok.mp run
  have after : Aloof s1 t := by
    rcases ite_run run with ⟨-, run⟩ | ⟨-, run⟩
    · cases run
      exact .refl _
    · obtain ⟨_, _, got, run⟩ := bind_ok.mp run
      cases got
      obtain ⟨snooped, _, second, run⟩ := bind_ok.mp run
      obtain ⟨-, rfl⟩ := lift_ok.mp second
      obtain ⟨_, s2, stored, run⟩ := bind_ok.mp run
      cases run
      exact aloof_modifyHci _ _ _ _ stored
  by_cases accept : le16toh word = hciCmdAcceptCon
  · rw [accept] at managed
    change handleAcceptCon (data.drop hciCmdHdrSize) s = .ok (handled, s1) at managed
    obtain ⟨bdaddr, _, second, managed⟩ := bind_ok.mp managed
    obtain ⟨-, rfl⟩ := lift_ok.mp second
    obtain ⟨role, _, third, managed⟩ := bind_ok.mp managed
    obtain ⟨-, rfl⟩ := lift_ok.mp third
    obtain ⟨_, _, got, managed⟩ := bind_ok.mp managed
    cases got
    rcases belongs : doesBdaddrBelongToFakeWiimote s.core bdaddr with _ | w
    · rw [belongs] at managed
      cases managed
      exact .aloof after
    · rw [belongs] at managed
      obtain ⟨_, s2, accepted, managed⟩ := bind_ok.mp managed
      cases managed
      obtain ⟨ret, s3, status, accepted⟩ := bind_ok.mp accepted
      have one := aloof_injectHciEvent _ _ _ _ _ _ status
      obtain ⟨_, s4, asserted, accepted⟩ := bind_ok.mp accepted
      have two := aloof_assertInjected _ _ _ _ asserted
      have before := Aloof.trans _ _ _ one two
      obtain ⟨_, _, got, accepted⟩ := bind_ok.mp accepted
      cases got
      obtain ⟨_, s5, stored, accepted⟩ := bind_ok.mp accepted
      cases stored
      obtain ⟨_, s6, linked, accepted⟩ := bind_ok.mp accepted
      cases linked
      obtain ⟨_, s7, session, accepted⟩ := bind_ok.mp accepted
      obtain ⟨q, inner, rfl⟩ := withPeriphery_frame session
      cases inner
      refine .accept (w := w) before (Aloof.trans _ _ _ ?_ after)
      have rest : Respects Aloof (do
          let link ← getLink w
          when (role = hciRoleMaster) (do
            let ret ← injectHciEventRoleChange link.bdaddr hciRoleMaster
            assertInjected ret)
          let ret ← injectHciEventConCompl link.bdaddr link.hciConHandle 0
          assertInjected ret) :=
        aloof_bind (aloof_getLink w) fun _ => aloof_bind
          (aloof_when (aloof_bind (aloof_injectHciEvent _ _ _) fun _ => aloof_assertInjected _))
          fun _ => aloof_bind (aloof_injectHciEvent _ _ _) fun _ => aloof_assertInjected _
      exact rest _ _ _ accepted
  · exact .aloof (Aloof.trans _ _ _
      (aloof_fakeWiimoteMgrHandleHciCmdFromHost accept _ _ _ _ managed) after)

theorem tickActive_performs {s t : World} {w : WiimoteId} {u : Unit}
    (active : (s.core.links w).active = true)
    (baseband : (s.core.links w).basebandState = .complete)
    (run : tickActive w s = .ok (u, t)) :
    ∃ deeds q, t = { s with periphery := q } ∧
      Device.Performs ⟨s.core, w⟩ s.periphery deeds q ∧
      if (s.periphery.sessions w).aclState = .linking then
        Device.LinkingDeeds (s.periphery.sessions w) deeds
      else Device.ReportDeeds (s.periphery.sessions w) deeds := by
  obtain ⟨link, _, got, run⟩ := bind_ok.mp run
  cases got
  rcases ite_run run with ⟨-, run⟩ | ⟨inactive, -⟩
  · obtain ⟨_, _, again, run⟩ := bind_ok.mp run
    cases again
    rw [baseband] at run
    obtain ⟨q, inner, rfl⟩ := onDevice_ok run
    obtain ⟨deeds, performed, shape⟩ := Device.tickConnected_performs inner
    exact ⟨deeds, q, rfl, performed, shape⟩
  · exact absurd active inactive

theorem tickActive_aloof {s t : World} {w : WiimoteId} {u : Unit}
    (other : ¬ ((s.core.links w).active = true ∧ (s.core.links w).basebandState = .complete))
    (run : tickActive w s = .ok (u, t)) : Aloof s t := by
  obtain ⟨link, _, got, run⟩ := bind_ok.mp run
  cases got
  rcases ite_run run with ⟨active, run⟩ | ⟨-, run⟩
  · obtain ⟨_, _, again, run⟩ := bind_ok.mp run
    cases again
    rcases baseband : (s.core.links w).basebandState with _ | _ | _
    · rw [baseband] at run
      cases run
      exact .refl s
    · rw [baseband] at run
      have inactive : Respects Aloof (modifyLink w fun link =>
          { link with basebandState := .inactive }) :=
        aloof_modifyLink (fun _ h => h) (fun _ h => by cases h) fun _ _ h => h
      have aloof : Respects Aloof (when (hciCanRequestConnection s.core.hci) (do
          let ret ← injectHciEventConReq (s.core.links w).bdaddr wiimoteHciClass0 wiimoteHciClass1
            wiimoteHciClass2 hciLinkAcl
          when (ret = .iosOk) (modifyLink w fun link =>
            { link with basebandState := .inactive }))) :=
        aloof_when (aloof_bind (aloof_injectHciEvent _ _ _) fun _ => aloof_when inactive)
      exact aloof _ _ _ run
    · exact absurd ⟨active, baseband⟩ other
  · cases run
    exact .refl s

theorem tickActive_bulkIn {s t : World} {w : WiimoteId} {u : Unit}
    (other : ¬ ((s.core.links w).active = true ∧ (s.core.links w).basebandState = .complete))
    (run : tickActive w s = .ok (u, t)) : t.periphery.bulkIn = s.periphery.bulkIn := by
  obtain ⟨link, _, got, run⟩ := bind_ok.mp run
  cases got
  rcases ite_run run with ⟨active, run⟩ | ⟨-, run⟩
  · obtain ⟨_, _, again, run⟩ := bind_ok.mp run
    cases again
    rcases baseband : (s.core.links w).basebandState with _ | _ | _
    · rw [baseband] at run
      cases run
      rfl
    · rw [baseband] at run
      rcases ite_run run with ⟨-, run⟩ | ⟨-, run⟩
      · obtain ⟨ret, s1, injected, run⟩ := bind_ok.mp run
        obtain ⟨_, _, got, injected⟩ := bind_ok.mp injected
        cases got
        obtain ⟨done, _, first, injected⟩ := bind_ok.mp injected
        obtain ⟨-, rfl⟩ := lift_ok.mp first
        cases injected
        rcases ite_run run with ⟨-, run⟩ | ⟨-, run⟩ <;> cases run <;> rfl
      · cases run
        rfl
    · exact absurd ⟨active, baseband⟩ other
  · cases run
    rfl

theorem channelData_performs {s t : World} {w : WiimoteId} {dcid length : UInt16}
    {payload : List UInt8} {u : Unit}
    (run : handleCall (.channelData w dcid payload length) s = .ok (u, t)) :
    ∃ deeds q, t = { s with periphery := q } ∧
      Device.Performs ⟨s.core, w⟩ s.periphery deeds q ∧
      (deeds = [] ∨
        Device.ReportDeedsOf (s.periphery.sessions w).readRequest.size (payload.drop 1) deeds) := by
  change onDevice w (fun dev => dev.handleChannelData dcid payload length) s = _ at run
  obtain ⟨q, inner, rfl⟩ := onDevice_ok run
  have performed := Device.handleChannelData_performs inner
  split at performed
  · subst performed
    exact ⟨[], _, rfl, .refl _, Or.inl rfl⟩
  · rename_i data found
    obtain ⟨deeds, shape, performed⟩ := performed
    rw [Device.reportFrom_some found] at shape
    exact ⟨deeds, q, rfl, performed, Or.inr shape⟩

theorem callStep_effect {s t : World} {c : Call} (run : callStep s c = .ok t) : Effect s c t := by
  have run := callStep_ok.mp run
  cases c with
  | hciCommand data =>
      obtain ⟨result, _, first, run⟩ := bind_ok.mp run
      cases run
      exact hciCommand_effect first
  | count w =>
      apply Effect.aloof
      apply aloof_modifyLink _ _ _ _ _ _ run
      · exact fun _ h => h
      · exact fun _ h => h
      · exact fun _ _ h => h
  | command w code ident payload size =>
      obtain ⟨command, read, ⟨deeds, q, shape, performed, rfl⟩ |
        ⟨_, _, _, _, ret, -, -, closed⟩ | ⟨-, rfl⟩⟩ := handleL2capSignalChannel_ok run
      · exact .command read shape performed
      · exact .aloof (aloof_fakeWiimoteDisconnect w _ _ _ closed)
      · exact .aloof (.refl _)
  | channelData w dcid payload length =>
      obtain ⟨deeds, q, rfl, performed, shape⟩ := channelData_performs run
      exact .output shape performed
  | bufferRequest ep msg => exact .aloof (aloof_handleBufferRequest ep msg _ _ _ run)
  | handDownReply ep retval written =>
      exact .aloof (aloof_oh1ResourceReply ep retval written _ _ _ run)
  | egcEvent event => exact egcEvent_effect run
  | tickSlots => exact .aloof (aloof_inputDevicesTick _ _ _ run)
  | assign w =>
      obtain ⟨_, _, got, run⟩ := bind_ok.mp run
      cases got
      rcases ite_run run with ⟨-, run⟩ | ⟨-, run⟩
      · exact checkAssign_effect run
      · cases run
        exact .aloof (.refl s)
  | tick w =>
      by_cases connected : (s.core.links w).active = true ∧
        (s.core.links w).basebandState = .complete
      · obtain ⟨deeds, q, rfl, performed, shape⟩ :=
          tickActive_performs connected.1 connected.2 run
        exact .tick connected.1 connected.2 performed shape
      · exact .aloof (tickActive_aloof connected run)
  | completedPackets => exact .aloof (aloof_sendEventNumberOfCompletedPackets _ _ _ run)

theorem Effect.platform {s t : World} {c : Call} (effect : Effect s c t) :
    t.periphery.platform = s.periphery.platform := by
  cases effect with
  | aloof aloof => exact aloof.platform
  | plug free => rfl
  | assign inactive found => rfl
  | accept before after => exact after.platform.trans before.platform
  | tick active complete performed shape => exact performed.platform
  | command read shape performed => exact performed.platform
  | output shape performed => exact performed.platform

structure SessionInvariant (egc : Platform) (good : Session → Prop) : Prop where
  zero : good .zero
  initState : ∀ wiimote, good wiimote → good wiimote.initState
  linking : ∀ wiimote, good wiimote → good { wiimote with aclState := .linking }
  deed : ∀ wiimote, good wiimote → ∀ deed : Deed, good (deed.session egc wiimote)

namespace SessionInvariant

variable {egc : Platform} {good : Session → Prop}

theorem act {a : Air} (kept : SessionInvariant egc good) (holds : ∀ w, good (a.sessions w))
    (dev : Device) (deed : Deed) : ∀ w, good ((a.act egc dev deed).sessions w) := by
  intro w
  dsimp only [Air.act]
  by_cases target : w = deed.target dev.self
  · subst target
    rw [Function.update_self]
    exact kept.deed _ (holds _) deed
  · rw [Function.update_of_ne target]
    exact holds w

theorem performs {dev : Device} {p q : Periphery} {deeds : List Deed}
    (kept : SessionInvariant p.platform good) (holds : ∀ w, good (p.sessions w))
    (performed : dev.Performs p deeds q) : ∀ w, good (q.sessions w) :=
  performed.path.invariant (fun a => ∀ w, good (a.sessions w)) holds fun _ deed before _ =>
    kept.act before dev deed

theorem effect {s t : World} {c : Call} (kept : SessionInvariant s.periphery.platform good)
    (holds : ∀ w, good (s.periphery.sessions w)) (effect : Effect s c t) :
    ∀ w, good (t.periphery.sessions w) := by
  cases effect with
  | aloof aloof =>
      intro w
      rw [aloof.sessions]
      exact holds w
  | plug free => exact holds
  | @assign w d inactive found =>
      intro v
      by_cases same : v = w
      · subst same
        rw [s.assigned_session_same]
        exact kept.initState _ (holds v)
      · rw [s.assigned_session_other d same]
        exact holds v
  | @accept data w s1 t before after =>
      intro v
      rw [after.sessions]
      by_cases same : v = w
      · subst same
        rw [s1.accepted_session_same, before.sessions]
        exact kept.linking _ (holds v)
      · rw [s1.accepted_session_other same, before.sessions]
        exact holds v
  | tick _ _ performed _ => exact kept.performs holds performed
  | command _ _ performed => exact kept.performs holds performed
  | output _ performed => exact kept.performs holds performed

end SessionInvariant

theorem CallRun.sessions_good {env : Environment} {condition : World → Call → Prop} {s : World}
    {good : Session → Prop} (reached : CallRun env condition s)
    (kept : ∀ egc, SessionInvariant egc good) : ∀ w, good (s.periphery.sessions w) := by
  apply reached.invariant fun s => ∀ w, good (s.periphery.sessions w)
  · exact fun _ => (kept env.platform).zero
  · intro s t c holds _ run
    exact (kept s.periphery.platform).effect holds (callStep_effect run)

end Fakemote
