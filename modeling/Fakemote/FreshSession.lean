import Fakemote.InjectedPackets

/-! What a session starts from: `fake_wiimote_init_state` on what an earlier session left. -/

namespace Fakemote

open Bytes Program Transition

/-- A channel that is not valid is set up again before its other fields are read. -/
def L2capChannelInfo.live (info : L2capChannelInfo) : L2capChannelInfo :=
  if info.valid then info else .zero

/-- A request of size 0 is not in progress; the next one sets all fields. -/
def ReadRequest.live (request : ReadRequest) : ReadRequest :=
  if request.size = 0 then ⟨0, 0, 0, 0⟩ else request

def Session.live (wiimote : Session) : Session :=
  { wiimote with
    psmSdpChn := wiimote.psmSdpChn.live
    psmHidCntlChn := wiimote.psmHidCntlChn.live
    psmHidIntrChn := wiimote.psmHidIntrChn.live
    readRequest := wiimote.readRequest.live }

/-- The handle is set when the host accepts the connection. -/
def Link.live (link : Link) : Link :=
  if link.basebandState = .complete then link else { link with hciConHandle := 0 }

def identifierOf (ext : WiimoteExt) : List UInt8 :=
  (extensionIdCode ext).getD (List.replicate 6 0)

/-- The identifier registers are those of the extension that is attached. -/
def Session.Identified (wiimote : Session) : Prop :=
  wiimote.extensionRegs.read identifierOffset 6 = identifierOf wiimote.curExtension

theorem identifierOf_injective : Function.Injective identifierOf := by
  intro first second same
  cases first <;> cases second <;> first | rfl | exact absurd same (by decide)

theorem reset_identifies (wiimote : Session) :
    wiimote.fakeWiimoteResetExtensionState.extensionRegs.read identifierOffset 6 =
      identifierOf wiimote.curExtension := by
  unfold Session.fakeWiimoteResetExtensionState
  dsimp only
  cases wiimote.curExtension <;> rfl

theorem reset_registers {first second : Session}
    (same : first.curExtension = second.curExtension) :
    first.fakeWiimoteResetExtensionState.extensionRegs =
      second.fakeWiimoteResetExtensionState.extensionRegs := by
  unfold Session.fakeWiimoteResetExtensionState
  rw [same]

@[simp] theorem initState_curExtension (wiimote : Session) :
    wiimote.initState.curExtension = .none := rfl

theorem initState_identifier (wiimote : Session) :
    wiimote.initState.extensionRegs.read identifierOffset 6 =
      identifierOf wiimote.curExtension :=
  reset_identifies _

theorem initState_identified {wiimote : Session} :
    wiimote.initState.Identified ↔ wiimote.curExtension = .none := by
  unfold Session.Identified
  rw [initState_identifier, initState_curExtension]
  constructor
  · intro same
    exact identifierOf_injective same
  · intro same
    rw [same]

/-- Only the extension of the earlier session is left. -/
theorem initState_live_iff {first second : Session} :
    first.initState.live = second.initState.live ↔ first.curExtension = second.curExtension := by
  constructor
  · intro same
    have registers : first.initState.live.extensionRegs = second.initState.live.extensionRegs := by
      rw [same]
    apply identifierOf_injective
    calc
      _ = first.initState.extensionRegs.read identifierOffset 6 := (initState_identifier _).symm
      _ = second.initState.extensionRegs.read identifierOffset 6 :=
        congrArg (Registers.read · identifierOffset 6) registers
      _ = _ := initState_identifier _
  · intro same
    have registers : first.initState.extensionRegs = second.initState.extensionRegs :=
      reset_registers same
    unfold Session.live
    rw [registers]
    rfl

theorem fakeWiimoteInitState_ok {w : WiimoteId} {d : SlotId} {s t : World} {u : Unit}
    (run : fakeWiimoteInitState w d s = .ok (u, t)) :
    t.core.links w =
        { s.core.links w with
          basebandState := .requestConnection
          numCompletedAclDataPackets := 0
          inputDevice := some d } ∧
      t.periphery.sessions w = (s.periphery.sessions w).initState := by
  obtain ⟨_, s1, linked, run⟩ := bind_ok.mp run
  cases linked
  cases run
  exact ⟨Function.update_self _ _ _, Function.update_self _ _ _⟩

/-- What is left of the earlier session decides whether the host can tell two sessions apart. -/
theorem init_state_fresh_iff (w : WiimoteId) (d : SlotId) (s₁ s₂ t₁ t₂ : World)
    (address : (s₁.core.links w).bdaddr = (s₂.core.links w).bdaddr)
    (active : (s₁.core.links w).active = (s₂.core.links w).active)
    (run₁ : fakeWiimoteInitState w d s₁ = .ok ((), t₁))
    (run₂ : fakeWiimoteInitState w d s₂ = .ok ((), t₂)) :
    ((t₁.core.links w).live = (t₂.core.links w).live ∧
        (t₁.periphery.sessions w).live = (t₂.periphery.sessions w).live ↔
      (s₁.periphery.sessions w).curExtension = (s₂.periphery.sessions w).curExtension) ∧
    ((t₁.periphery.sessions w).Identified ∧ (t₂.periphery.sessions w).Identified ↔
      (s₁.periphery.sessions w).curExtension = .none ∧
        (s₂.periphery.sessions w).curExtension = .none) := by
  obtain ⟨link₁, session₁⟩ := fakeWiimoteInitState_ok run₁
  obtain ⟨link₂, session₂⟩ := fakeWiimoteInitState_ok run₂
  have links : (t₁.core.links w).live = (t₂.core.links w).live := by
    rw [link₁, link₂]
    simp only [Link.live, reduceCtorEq, if_false, address, active]
  rw [session₁, session₂, initState_live_iff, initState_identified, initState_identified]
  exact ⟨⟨And.right, fun same => ⟨links, same⟩⟩, Iff.rfl⟩

def Environment.gamepad : Environment :=
  { Environment.lenient with
    platform := { Platform.zero with
      buttonCount := 16
      axisCount := 4
      north := 0
      east := 1
      south := 2
      west := 3
      dpadUp := 4
      dpadDown := 5
      dpadLeft := 6
      dpadRight := 7
      start := 8
      back := 9
      leftStick := 10
      rightStick := 11
      leftShoulder := 12
      rightShoulder := 13
      leftPaddle1 := 14
      rightPaddle1 := 15
      axisLeftX := 0
      axisLeftY := 1
      axisRightX := 2
      axisRightY := 3
      touchRes := 1000 } }

def fullDevice (id : Nat) : EgcDevice := ⟨id, ⟨0xFFFF, 0, 0⟩⟩

def signalling (commands : List UInt8) : Input :=
  .aclOut (aclPacket 0 (l2capFrame l2capSignalCid commands))

def connectRspCommand (dcid scid : UInt16) : List UInt8 :=
  l2capCommand l2capConnectRsp l2capConnectReq
    (bytes16 (htole16 dcid) ++ bytes16 (htole16 scid) ++ bytes16 (htole16 l2capSuccess) ++
      bytes16 (htole16 l2capNoInfo))

def configReqCommand (dcid mtu : UInt16) : List UInt8 :=
  l2capCommand l2capConfigReq 1 (configReqPayload dcid mtu l2capFlushTimoDefault)

def configRspCommand (scid : UInt16) : List UInt8 :=
  l2capCommand l2capConfigRsp l2capConfigReq (configRspPayload scid [])

def configCommands (cid : UInt16) : List UInt8 := configReqCommand cid 185 ++ configRspCommand cid

/-- The first fake Wiimote gets a controller, is accepted and sets up its channels. -/
def hostOpens : List Input :=
  [writeScanEnable, .timer [.added (fullDevice 1)], acceptCon 0,
    .timer [], signalling (connectRspCommand 0x60 0x40), .timer [],
    signalling (configCommands 0x40),
    .timer [], signalling (connectRspCommand 0x61 0x41), .timer [],
    signalling (configCommands 0x41), .timer []]

/-- L1 and L3 held down: the mapping switches to the Classic Controller. -/
def switchPad : Gamepad := ⟨0x1400, fun _ => 0, 0, 0, 0, 0, 0⟩

def switchesMapping : List Input := [.timer [.input 1 switchPad], .timer []]

/-- Two sessions that end without an extension. -/
theorem init_state_fresh_without_extension :
    ∃ (s t₁ t₂ : World), Run .gamepad anyInput s ∧
      fakeWiimoteInitState 0 0 s = .ok ((), t₁) ∧
      fakeWiimoteInitState 0 0 (World.init .gamepad) = .ok ((), t₂) ∧
      ((t₁.core.links 0).live = (t₂.core.links 0).live ∧
        (t₁.periphery.sessions 0).live = (t₂.periphery.sessions 0).live) ∧
      (t₁.periphery.sessions 0).Identified ∧ (t₂.periphery.sessions 0).Identified := by
  obtain ⟨s, reached, check⟩ : ∃ s, Run .gamepad anyInput s ∧
      decide ((s.core.links 0).bdaddr = fakeWiimoteBdaddr 0 ∧ (s.core.links 0).active = false ∧
        (s.periphery.sessions 0).curExtension = .none) = true :=
    exists_of_execute (hostOpens ++ [.timer [.removed 1]]) (by decide +kernel)
  obtain ⟨address, inactive, none⟩ := of_decide_eq_true check
  obtain ⟨live, identified⟩ := init_state_fresh_iff 0 0 s (World.init .gamepad) _ _ address inactive
    rfl rfl
  exact ⟨s, _, _, reached, rfl, rfl, live.mpr none, identified.mpr ⟨none, rfl⟩⟩

/-- The session before had the Classic Controller attached: its identifier is still there, while
no extension is. -/
theorem init_state_keeps_identifier :
    ∃ (s t₁ t₂ : World), Run .gamepad anyInput s ∧
      fakeWiimoteInitState 0 0 s = .ok ((), t₁) ∧
      fakeWiimoteInitState 0 0 (World.init .gamepad) = .ok ((), t₂) ∧
      (t₁.periphery.sessions 0).curExtension = .none ∧
      (t₁.periphery.sessions 0).extensionRegs.read identifierOffset 6 =
        expIdCodeClassicController ∧
      (t₂.periphery.sessions 0).extensionRegs.read identifierOffset 6 = List.replicate 6 0 := by
  obtain ⟨s, reached, check⟩ : ∃ s, Run .gamepad anyInput s ∧
      decide ((s.periphery.sessions 0).curExtension = .classic) = true :=
    exists_of_execute (hostOpens ++ switchesMapping ++ [.timer [.removed 1]]) (by decide +kernel)
  refine ⟨s, _, _, reached, rfl, rfl, rfl, ?_, rfl⟩
  have identifier := initState_identifier (s.periphery.sessions 0)
  rw [of_decide_eq_true check] at identifier
  exact identifier

end Fakemote
