import Fakemote.UninitialisedTurns
import Fakemote.Main

/-! The module on different uninitialised memory: the handlers. -/

namespace Fakemote

open Bytes Program

structure LikeWorld (leaks : Leaks) (s t : World) : Prop where
  core : t.core = s.core
  intr : LikeEndpoint (LooseEvent leaks) s.intr t.intr
  periphery : LikePeriphery leaks s.periphery t.periphery
  events : List.Forall₂ (LikeBytes (LooseEvent leaks)) s.events t.events
  lostEvents : t.lostEvents = s.lostEvents

abbrev Worlds {α β : Type} (leaks : Leaks) (A : α → β → Prop) (m : M α) (n : M β) : Prop :=
  Relates (LikeWorld leaks) A m n

abbrev WorldsAt {α β : Type} (leaks : Leaks) (A : α → β → Prop) (m : M α) (n : M β) (s : World) :
    Prop :=
  RelatesAt (LikeWorld leaks) A m n s

section Rules

variable {leaks : Leaks} {α : Type}

theorem worlds_core {f g : World → M α}
    (rest : ∀ s t, LikeWorld leaks s t → t.core = s.core → Worlds leaks Eq (f s) (g t)) :
    Worlds leaks Eq (get >>= f) (get >>= g) :=
  Relates.get.bind fun s t like => rest s t like like.core

theorem worldsAt_withPeriphery {body : Core → P α} {s : World}
    (bodies : TwinsAt leaks Eq (body s.core) (body s.core) s.periphery) :
    WorldsAt leaks Eq (withPeriphery body) (withPeriphery body) s := by
  intro t like
  unfold withPeriphery
  rw [like.core]
  refine RelatesAt.zoom (S := LikePeriphery leaks) (fun s t like => like.periphery) ?_ bodies t like
  exact fun s t p q like inner => { like with periphery := inner }

theorem worlds_withPeriphery {body : Core → P α}
    (bodies : ∀ core, Twins leaks Eq (body core) (body core)) :
    Worlds leaks Eq (withPeriphery body) (withPeriphery body) :=
  fun s => worldsAt_withPeriphery ((bodies s.core).at_state s.periphery)

theorem worlds_onDevice {w : WiimoteId} {body : Device → P α}
    (bodies : ∀ dev, Twins leaks Eq (body dev) (body dev)) :
    Worlds leaks Eq (onDevice w body) (onDevice w body) :=
  worlds_withPeriphery fun core => bodies ⟨core, w⟩

theorem worlds_modifyCore (f : Core → Core) :
    Worlds leaks Eq (modifyCore f) (modifyCore f) :=
  .modify fun _ _ like => { like with core := congrArg f like.core }

theorem worlds_modifyHci (f : HciState → HciState) :
    Worlds leaks Eq (modifyHci f) (modifyHci f) :=
  worlds_modifyCore _

theorem worlds_modifyLink (w : WiimoteId) (f : Link → Link) :
    Worlds leaks Eq (modifyLink w f) (modifyLink w f) :=
  worlds_modifyCore _

theorem worlds_modifySlot (d : SlotId) (f : Slot → Slot) :
    Worlds leaks Eq (modifySlot d f) (modifySlot d f) :=
  worlds_modifyCore _

theorem worlds_getLink (w : WiimoteId) : Worlds leaks Eq (getLink w) (getLink w) :=
  Relates.get.bind fun s t like => .pure (by rw [like.core])

theorem worlds_assertInjected (ret : IosResult) :
    Worlds leaks Eq (assertInjected ret) (assertInjected ret) :=
  .ite Iff.rfl (.pure rfl) (.throw _)

theorem worlds_injectHciEvent {event eventSize : UInt8} {fields : List UInt8}
    (packets : LikePacket (LooseEvent leaks) (hciEventMsg event eventSize fields)
      (hciEventMsg event eventSize fields)) :
    Worlds leaks Eq (injectHciEvent event eventSize fields)
      (injectHciEvent event eventSize fields) := by
  intro s t like
  have done := inject_alike like.periphery.heap like.intr packets
  change Alike _
    ((liftM (inject s.periphery.heap s.intr (hciEventMsg event eventSize fields)) :
      M Injection) s >>= _)
    ((liftM (inject t.periphery.heap t.intr (hciEventMsg event eventSize fields)) :
      M Injection) t >>= _)
  generalize inject s.periphery.heap s.intr _ = x at done ⊢
  generalize inject t.periphery.heap t.intr _ = y at done ⊢
  cases done with
  | error e => exact .error e
  | @ok first second done =>
      refine .ok ⟨done.ret.symm, like.core, done.endpoint,
        { like.periphery with heap := done.heap }, ?_, ?_⟩
      · dsimp only
        rw [done.ret]
        split
        · exact forall_snoc like.events done.data
        · exact like.events
      · dsimp only
        rw [done.ret, like.lostEvents]

theorem worlds_filled {event eventSize : UInt8} {fields : List UInt8}
    (filled : eventSize.toNat ≤ fields.length) :
    Worlds leaks Eq (injectHciEvent event eventSize fields)
      (injectHciEvent event eventSize fields) := by
  refine worlds_injectHciEvent (.whole fun data written => ?_)
  cases written
  have least := Nat.mod_le (hciEventHdrSize + eventSize.toNat) (2 ^ 16)
  simp only [hciEventMsg, UInt16.toNat_ofNat', List.length_append, List.length_cons,
    List.length_nil]
  rw [hciEventHdrSize] at least ⊢
  omega

theorem worlds_commandStatus (opcode : UInt16) :
    Worlds leaks Eq (injectHciEventCommandStatus opcode) (injectHciEventCommandStatus opcode) :=
  worlds_filled (Nat.le_refl 4)

theorem worlds_commandCompl (opcode : UInt16) (payload : List UInt8) :
    Worlds leaks Eq (injectHciEventCommandCompl opcode payload)
      (injectHciEventCommandCompl opcode payload) := by
  apply worlds_filled
  simp only [UInt8.toNat_ofNat', List.length_append, bytes16_length, List.length_cons,
    List.length_nil]
  exact Nat.mod_le _ _

theorem worlds_conReq (bdaddr : BdAddr) (uclass0 uclass1 uclass2 linkType : UInt8) :
    Worlds leaks Eq (injectHciEventConReq bdaddr uclass0 uclass1 uclass2 linkType)
      (injectHciEventConReq bdaddr uclass0 uclass1 uclass2 linkType) := by
  apply worlds_filled
  rw [List.length_append, bdaddr.property]
  exact Nat.le_refl 10

theorem worlds_disconCompl (conHandle : UInt16) (status reason : UInt8) :
    Worlds leaks Eq (injectHciEventDisconCompl conHandle status reason)
      (injectHciEventDisconCompl conHandle status reason) :=
  worlds_filled (Nat.le_refl 4)

theorem worlds_conCompl (bdaddr : BdAddr) (conHandle : UInt16) (status : UInt8) :
    Worlds leaks Eq (injectHciEventConCompl bdaddr conHandle status)
      (injectHciEventConCompl bdaddr conHandle status) := by
  apply worlds_filled
  rw [List.length_append, List.length_append, bdaddr.property]
  exact Nat.le_refl 11

theorem worlds_roleChange (bdaddr : BdAddr) (role : UInt8) :
    Worlds leaks Eq (injectHciEventRoleChange bdaddr role)
      (injectHciEventRoleChange bdaddr role) := by
  apply worlds_filled
  rw [List.length_append, List.length_append, bdaddr.property]
  exact Nat.le_refl 8

theorem worlds_numComplPkts (entries : List (UInt16 × UInt16)) :
    Worlds leaks Eq (injectHciEventNumComplPkts entries)
      (injectHciEventNumComplPkts entries) := by
  apply worlds_filled
  have length : (entries.flatMap fun e =>
      bytes16 (htole16 e.1) ++ bytes16 (htole16 e.2)).length = entries.length * 4 := by
    induction entries with
    | nil => rfl
    | cons entry entries ih =>
        rw [List.flatMap_cons, List.length_append, ih, List.length_cons, List.length_append,
          bytes16_length, bytes16_length]
        omega
  rw [List.length_append, length]
  simp only [UInt8.toNat_add, UInt8.toNat_mul, UInt8.toNat_ofNat', List.length_cons,
    List.length_nil, UInt8.toNat_ofNat]
  omega

theorem worlds_modeChange (conHandle : UInt16) (unitMode : UInt8) (interval : UInt16) :
    Worlds leaks Eq (injectHciEventModeChange conHandle unitMode interval)
      (injectHciEventModeChange conHandle unitMode interval) :=
  worlds_filled (Nat.le_refl 6)

theorem worlds_conPktTypeChanged (conHandle pktType : UInt16) :
    Worlds leaks Eq (injectHciEventConPktTypeChanged conHandle pktType)
      (injectHciEventConPktTypeChanged conHandle pktType) :=
  worlds_filled (Nat.le_refl 5)

theorem worlds_authCompl (status : UInt8) (conHandle : UInt16) :
    Worlds leaks Eq (injectHciEventAuthCompl status conHandle)
      (injectHciEventAuthCompl status conHandle) :=
  worlds_filled (Nat.le_refl 3)

theorem worlds_readRemoteFeaturesCompl (conHandle : UInt16) :
    Worlds leaks Eq (injectHciEventReadRemoteFeaturesCompl conHandle wiimoteRemoteFeatures)
      (injectHciEventReadRemoteFeaturesCompl conHandle wiimoteRemoteFeatures) :=
  worlds_filled (Nat.le_refl 11)

theorem worlds_readRemoteVerInfoCompl (conHandle : UInt16) (lmpVersion : UInt8)
    (manufacturer lmpSubversion : UInt16) :
    Worlds leaks Eq
      (injectHciEventReadRemoteVerInfoCompl conHandle lmpVersion manufacturer lmpSubversion)
      (injectHciEventReadRemoteVerInfoCompl conHandle lmpVersion manufacturer lmpSubversion) :=
  worlds_filled (Nat.le_refl 8)

theorem worlds_readClockOffsetCompl (conHandle clockOffset : UInt16) :
    Worlds leaks Eq (injectHciEventReadClockOffsetCompl conHandle clockOffset)
      (injectHciEventReadClockOffsetCompl conHandle clockOffset) :=
  worlds_filled (Nat.le_refl 5)

theorem worlds_returnLinkKeys (first second : BdAddr) (key : List UInt8)
    (whole : key.length = hciKeySize) :
    Worlds leaks Eq (injectHciEventReturnLinkKeys [(first, key), (second, key)])
      (injectHciEventReturnLinkKeys [(first, key), (second, key)]) := by
  apply worlds_filled
  simp only [List.length_append, List.flatMap_cons, List.flatMap_nil, first.property,
    second.property, whole, List.length_cons, List.length_nil]
  decide

theorem LikeBytes.tail {loose : List UInt8 → Nat → Prop} {data rest junk : List UInt8}
    (length : junk.length = rest.length)
    (behind : ∀ index, data.length ≤ index → loose (data ++ rest) index) :
    LikeBytes loose (data ++ rest) (data ++ junk) := by
  refine ⟨by rw [List.length_append, List.length_append, length], fun index out => ?_⟩
  have early : index < data.length := Nat.lt_of_not_le (mt (behind index) out)
  rw [List.getElem?_append_left early, List.getElem?_append_left early]

/-- The event has room for the longest name. -/
theorem worlds_remoteNameReqCompl (names : leaks.names = true) (status : UInt8) (bdaddr : BdAddr)
    (w : WiimoteId) :
    Worlds leaks Eq (injectHciEventRemoteNameReqCompl status bdaddr (fakeWiimoteName w))
      (injectHciEventRemoteNameReqCompl status bdaddr (fakeWiimoteName w)) := by
  refine worlds_injectHciEvent ⟨rfl, .ok ⟨rfl, fun rest junk size same => ?_⟩⟩
  have front : ([hciEventRemoteNameReqCompl, UInt8.ofNat (1 + 6 + hciUnitNameSize)] ++
      ([status] ++ bdaddr.val ++ fakeWiimoteName w)).length = 24 := by
    rw [List.length_append, List.length_append, List.length_append, bdaddr.property]
    rfl
  exact .tail same fun index late => ⟨names, rfl, by omega⟩

theorem worlds_inputDeviceReleaseWiimote (d : SlotId) :
    Worlds leaks Eq (inputDeviceReleaseWiimote d) (inputDeviceReleaseWiimote d) :=
  Relates.bind_eq (worlds_modifySlot _ _) fun _ => worlds_withPeriphery fun _ => twins_callEgc _

theorem worlds_releaseInputDevice (inputDevice : Option SlotId) :
    Worlds leaks Eq (releaseInputDevice inputDevice) (releaseInputDevice inputDevice) := by
  cases inputDevice with
  | none => exact .pure rfl
  | some d => exact worlds_inputDeviceReleaseWiimote d

theorem worlds_initState (w : WiimoteId) :
    Worlds leaks Eq (withPeriphery fun _ => modifySession w Session.initState)
      (withPeriphery fun _ => modifySession w Session.initState) := by
  refine worlds_withPeriphery fun _ => twins_modifySession fun wiimote other like => ?_
  obtain ⟨regs, rfl, -⟩ := like
  exact .refl _ _

theorem worlds_fakeWiimoteInitState (w : WiimoteId) (d : SlotId) :
    Worlds leaks Eq (fakeWiimoteInitState w d) (fakeWiimoteInitState w d) :=
  Relates.bind_eq (worlds_modifyLink _ _) fun _ => worlds_initState w

theorem worlds_fakeWiimoteHandleHciCmdAcceptCon (w : WiimoteId) (role : UInt8) :
    Worlds leaks Eq (fakeWiimoteHandleHciCmdAcceptCon w role)
      (fakeWiimoteHandleHciCmdAcceptCon w role) := by
  refine Relates.bind_eq (worlds_commandStatus _) fun ret => ?_
  refine Relates.bind_eq (worlds_assertInjected ret) fun _ => ?_
  refine worlds_core fun s t _ core => ?_
  rw [core]
  refine Relates.bind_eq (worlds_modifyHci _) fun _ => ?_
  refine Relates.bind_eq (worlds_modifyLink _ _) fun _ => ?_
  refine Relates.bind_eq (worlds_withPeriphery fun _ => twins_change fun _ _ => rfl) fun _ => ?_
  refine Relates.bind_eq (worlds_getLink w) fun link => ?_
  refine Relates.bind_eq (.when Iff.rfl ?_) fun _ => ?_
  · exact Relates.bind_eq (worlds_roleChange _ _) fun ret => worlds_assertInjected ret
  · exact Relates.bind_eq (worlds_conCompl _ _ _) fun ret => worlds_assertInjected ret

theorem worlds_fakeWiimoteDisconnect (w : WiimoteId) :
    Worlds leaks Eq (fakeWiimoteDisconnect w) (fakeWiimoteDisconnect w) := by
  refine Relates.bind_eq (worlds_modifyLink _ _) fun _ => ?_
  refine Relates.bind_eq (worlds_getLink w) fun link => ?_
  refine Relates.bind_eq (worlds_releaseInputDevice _) fun _ => ?_
  exact .ite Iff.rfl (worlds_disconCompl _ _ _) (.pure rfl)

theorem worlds_disconnectRemoved (wiimote : Option WiimoteId) :
    Worlds leaks Eq (disconnectRemoved wiimote) (disconnectRemoved wiimote) := by
  cases wiimote with
  | none => exact .pure rfl
  | some w =>
      refine Relates.bind_eq (worlds_modifyLink _ _) fun _ => ?_
      exact Relates.bind_eq (worlds_fakeWiimoteDisconnect w) fun _ => .pure rfl

theorem worlds_inputDeviceHandleRemoved (device : Nat) :
    Worlds leaks Eq (inputDeviceHandleRemoved device) (inputDeviceHandleRemoved device) := by
  refine worlds_core fun s t _ core => ?_
  rw [core]
  cases inputDeviceFromEgc s.core device with
  | none => exact .pure rfl
  | some d =>
      exact Relates.bind_eq (worlds_disconnectRemoved _) fun _ => worlds_modifySlot _ _

theorem worlds_inputDeviceHandleAdded (device : EgcDevice) :
    Worlds leaks Eq (inputDeviceHandleAdded device) (inputDeviceHandleAdded device) := by
  refine worlds_core fun s t like core => ?_
  have added : Mapping.added t.periphery.platform device =
      Mapping.added s.periphery.platform device := by
    rw [like.periphery.platform]
    rfl
  rw [core, added]
  cases freeSlot s.core with
  | none => exact .pure rfl
  | some d =>
      refine Relates.bind_eq (worlds_modifySlot _ _) fun _ => ?_
      exact worlds_withPeriphery fun _ => twins_modifyMapping _ _

theorem worlds_inputDevicesTick : Worlds leaks Eq inputDevicesTick inputDevicesTick :=
  Relates.bind_eq (worlds_modifySlot _ _) fun _ => worlds_modifySlot _ _

theorem worlds_fakeWiimoteTick {s : World} (w : WiimoteId)
    (padding : tickBranch s.core s.periphery w = .extensionChange → leaks.padding = true)
    (written : leaks.camera = false → leaks.touches = true →
      ¬ FeedsStackDots s.core s.periphery w) :
    WorldsAt leaks Eq (fakeWiimoteTick w) (fakeWiimoteTick w) s := by
  refine .get_bind fun t like => ?_
  rw [like.core]
  cases complete : (s.core.links w).basebandState with
  | inactive => exact (Relates.pure rfl).at_state s
  | requestConnection =>
      refine Relates.at_state (Relates.when Iff.rfl ?_) s
      refine Relates.bind_eq (worlds_conReq _ _ _ _ _) fun ret => ?_
      exact .when Iff.rfl (worlds_modifyLink _ _)
  | complete =>
      exact worldsAt_withPeriphery
        (Device.twins_tickConnected ⟨s.core, w⟩ complete padding written)

theorem worlds_checkAssignInputDevice (w : WiimoteId) :
    Worlds leaks Eq (checkAssignInputDevice w) (checkAssignInputDevice w) := by
  refine worlds_core fun s t _ core => ?_
  rw [core]
  refine .ite Iff.rfl (.pure rfl) ?_
  cases inputDeviceGetUnassigned s.core with
  | none => exact .pure rfl
  | some d =>
      refine Relates.bind_eq (worlds_modifySlot _ _) fun _ => ?_
      exact Relates.bind_eq (worlds_fakeWiimoteInitState w d) fun _ => worlds_modifyLink _ _

theorem worlds_tickActive {s : World} (w : WiimoteId)
    (padding : (s.core.links w).active = true →
      tickBranch s.core s.periphery w = .extensionChange → leaks.padding = true)
    (written : leaks.camera = false → leaks.touches = true → (s.core.links w).active = true →
      ¬ FeedsStackDots s.core s.periphery w) :
    WorldsAt leaks Eq (tickActive w) (tickActive w) s := by
  refine ((worlds_getLink w).at_state s).bind fun link _ u got same => ?_
  subst same
  cases got
  refine .when Iff.rfl fun active => worlds_fakeWiimoteTick w (padding active) ?_
  exact fun hidden touches => written hidden touches active

theorem worlds_sendEventNumberOfCompletedPackets :
    Worlds leaks Eq fakeWiimoteMgrSendEventNumberOfCompletedPackets
      fakeWiimoteMgrSendEventNumberOfCompletedPackets := by
  refine worlds_core fun s t _ core => ?_
  rw [core]
  refine Relates.bind_eq (worlds_modifyLink _ _) fun _ => ?_
  refine Relates.bind_eq (worlds_modifyLink _ _) fun _ => ?_
  exact .when Iff.rfl (Relates.bind_eq (worlds_numComplPkts _) fun _ => .pure rfl)

theorem worlds_answerForHandle (hciConHandle : UInt16) {answer : M Unit}
    (answers : Worlds leaks Eq answer answer) :
    Worlds leaks Eq (answerForHandle hciConHandle answer)
      (answerForHandle hciConHandle answer) := by
  refine worlds_core fun s t _ core => ?_
  rw [core]
  cases getFakeWiimoteForHciConHandle s.core hciConHandle with
  | none => exact .pure rfl
  | some w => exact Relates.bind_eq answers fun _ => .pure rfl

theorem worlds_answerWithStatus (opcode : UInt16) {result : M IosResult}
    (results : Worlds leaks Eq result result) :
    Worlds leaks Eq (answerWithStatus opcode result) (answerWithStatus opcode result) := by
  refine Relates.bind_eq (worlds_commandStatus _) fun ret => ?_
  refine Relates.bind_eq (worlds_assertInjected ret) fun _ => ?_
  exact Relates.bind_eq results fun ret => worlds_assertInjected ret

theorem worlds_answered (payload : List UInt8) (opcode : UInt16) (result : UInt16 → M IosResult)
    (results : ∀ conHandle, Worlds leaks Eq (result conHandle) (result conHandle)) :
    Worlds leaks Eq
      (do
        let conHandle := le16toh (← load16 payload 0)
        answerForHandle conHandle (answerWithStatus opcode (result conHandle)))
      (do
        let conHandle := le16toh (← load16 payload 0)
        answerForHandle conHandle (answerWithStatus opcode (result conHandle))) :=
  Relates.bind_eq (.lift_eq _) fun _ =>
    worlds_answerForHandle _ (worlds_answerWithStatus _ (results _))

theorem worlds_handleAuthReq (payload : List UInt8) :
    Worlds leaks Eq (handleAuthReq payload) (handleAuthReq payload) :=
  worlds_answered payload _ (fun handle => injectHciEventAuthCompl 0 handle)
    fun _ => worlds_authCompl _ _

theorem worlds_handleReadRemoteFeatures (payload : List UInt8) :
    Worlds leaks Eq (handleReadRemoteFeatures payload) (handleReadRemoteFeatures payload) :=
  worlds_answered payload _
    (fun handle => injectHciEventReadRemoteFeaturesCompl handle wiimoteRemoteFeatures)
    worlds_readRemoteFeaturesCompl

theorem worlds_handleReadRemoteVerInfo (payload : List UInt8) :
    Worlds leaks Eq (handleReadRemoteVerInfo payload) (handleReadRemoteVerInfo payload) :=
  worlds_answered payload _
    (fun handle => injectHciEventReadRemoteVerInfoCompl handle wiimoteLmpVersion
      wiimoteManufacturerId wiimoteLmpSubversion)
    fun _ => worlds_readRemoteVerInfoCompl _ _ _ _

theorem worlds_handleReadClockOffset (payload : List UInt8) :
    Worlds leaks Eq (handleReadClockOffset payload) (handleReadClockOffset payload) :=
  worlds_answered payload _ (fun handle => injectHciEventReadClockOffsetCompl handle 0x3818)
    fun _ => worlds_readClockOffsetCompl _ _

theorem worlds_handleChangeConPacketType (payload : List UInt8) :
    Worlds leaks Eq (handleChangeConPacketType payload) (handleChangeConPacketType payload) := by
  refine Relates.bind_eq (.lift_eq _) fun conHandle => worlds_answerForHandle _ ?_
  refine Relates.bind_eq (.lift_eq _) fun pktType => ?_
  exact worlds_answerWithStatus _ (worlds_conPktTypeChanged _ _)

theorem worlds_handleSniffMode (payload : List UInt8) :
    Worlds leaks Eq (handleSniffMode payload) (handleSniffMode payload) := by
  refine Relates.bind_eq (.lift_eq _) fun conHandle => worlds_answerForHandle _ ?_
  refine Relates.bind_eq (.lift_eq _) fun maxInterval => ?_
  exact worlds_answerWithStatus _ (worlds_modeChange _ _ _)

theorem worlds_handleWriteLinkPolicySettings (payload : List UInt8) :
    Worlds leaks Eq (handleWriteLinkPolicySettings payload)
      (handleWriteLinkPolicySettings payload) := by
  refine Relates.bind_eq (.lift_eq _) fun conHandle => worlds_answerForHandle _ ?_
  exact Relates.bind_eq (worlds_commandStatus _) fun ret => worlds_assertInjected ret

theorem worlds_handleWriteLinkSupervisionTimeout (payload : List UInt8) :
    Worlds leaks Eq (handleWriteLinkSupervisionTimeout payload)
      (handleWriteLinkSupervisionTimeout payload) := by
  refine Relates.bind_eq (.lift_eq _) fun wireHandle => worlds_answerForHandle _ ?_
  exact Relates.bind_eq (worlds_commandCompl _ _) fun ret => worlds_assertInjected ret

/-- The command names a fake Wiimote. -/
def NamesFake (core : Core) (payload : List UInt8) : Prop :=
  ∃ bdaddr ∈ (loadBdaddr payload 0).toOption,
    (doesBdaddrBelongToFakeWiimote core bdaddr).isSome

instance (core : Core) (payload : List UInt8) : Decidable (NamesFake core payload) :=
  inferInstanceAs (Decidable (∃ _ ∈ _, _))

theorem worlds_handleRemoteNameReq {s : World} (payload : List UInt8)
    (names : NamesFake s.core payload → leaks.names = true) :
    WorldsAt leaks Eq (handleRemoteNameReq payload) (handleRemoteNameReq payload) s := by
  refine .lift_bind fun bdaddr loaded => .get_bind fun t like => ?_
  rw [like.core]
  rcases found : doesBdaddrBelongToFakeWiimote s.core bdaddr with _ | w
  · exact (Relates.pure rfl).at_state s
  · have named : NamesFake s.core payload := ⟨bdaddr, by rw [loaded]; rfl, by rw [found]; rfl⟩
    refine Relates.at_state (Relates.bind_eq ?_ fun _ => .pure rfl) s
    exact worlds_answerWithStatus _ (worlds_remoteNameReqCompl (names named) _ _ w)

theorem worlds_handleReadStoredLinkKey (payload : List UInt8) :
    Worlds leaks Eq (handleReadStoredLinkKey payload) (handleReadStoredLinkKey payload) := by
  refine Relates.bind_eq (.lift_eq _) fun bdaddr => Relates.bind_eq (.lift_eq _) fun readAll => ?_
  refine worlds_core fun s t _ core => ?_
  rw [core]
  refine .ite Iff.rfl ?_ (.ite Iff.rfl (.throw _) (.pure rfl))
  refine Relates.bind_eq (worlds_returnLinkKeys _ _ _ ?_) fun _ => .pure rfl
  exact List.length_replicate

theorem worlds_handleDisconnect (payload : List UInt8) :
    Worlds leaks Eq (handleDisconnect payload) (handleDisconnect payload) := by
  refine Relates.bind_eq (.lift_eq _) fun conHandle => worlds_core fun s t _ core => ?_
  rw [core]
  cases getFakeWiimoteForHciConHandle s.core (le16toh conHandle) with
  | none => exact .pure rfl
  | some w =>
      refine Relates.bind_eq (worlds_commandStatus _) fun ret => ?_
      refine Relates.bind_eq (worlds_assertInjected ret) fun _ => ?_
      exact Relates.bind_eq (worlds_fakeWiimoteDisconnect w) fun _ => .pure rfl

theorem worlds_handleAcceptCon (payload : List UInt8) :
    Worlds leaks Eq (handleAcceptCon payload) (handleAcceptCon payload) := by
  refine Relates.bind_eq (.lift_eq _) fun bdaddr => Relates.bind_eq (.lift_eq _) fun role => ?_
  refine worlds_core fun s t _ core => ?_
  rw [core]
  cases doesBdaddrBelongToFakeWiimote s.core bdaddr with
  | none => exact .pure rfl
  | some w =>
      exact Relates.bind_eq (worlds_fakeWiimoteHandleHciCmdAcceptCon w role) fun _ => .pure rfl

theorem worlds_handleRejectCon (payload : List UInt8) :
    Worlds leaks Eq (handleRejectCon payload) (handleRejectCon payload) := by
  refine Relates.bind_eq (.lift_eq _) fun bdaddr => worlds_core fun s t _ core => ?_
  rw [core]
  cases doesBdaddrBelongToFakeWiimote s.core bdaddr with
  | none => exact .pure rfl
  | some w => exact Relates.bind_eq (worlds_fakeWiimoteDisconnect w) fun _ => .pure rfl

theorem worlds_resetFakeWiimote (w : WiimoteId) :
    Worlds leaks Eq (resetFakeWiimote w) (resetFakeWiimote w) := by
  refine Relates.bind_eq (worlds_getLink w) fun link => .when Iff.rfl ?_
  exact Relates.bind_eq (worlds_releaseInputDevice _) fun _ => worlds_modifyLink _ _

theorem worlds_handleReset : Worlds leaks Eq handleReset handleReset :=
  Relates.bind_eq (worlds_resetFakeWiimote 0) fun _ =>
    Relates.bind_eq (worlds_resetFakeWiimote 1) fun _ => .pure rfl

theorem worlds_fakeWiimoteMgrHandleHciCmdFromHost {s : World} (opcode : UInt16)
    (payload : List UInt8)
    (names : opcode = hciCmdRemoteNameReq → NamesFake s.core payload → leaks.names = true) :
    WorldsAt leaks Eq (fakeWiimoteMgrHandleHciCmdFromHost opcode payload)
      (fakeWiimoteMgrHandleHciCmdFromHost opcode payload) s := by
  unfold fakeWiimoteMgrHandleHciCmdFromHost
  have skip {condition : Prop} [Decidable condition] {m n : M Bool}
      (yes : Worlds leaks Eq m m) (no : WorldsAt leaks Eq n n s) :
      WorldsAt leaks Eq (if condition then m else n) (if condition then m else n) s :=
    .ite Iff.rfl (fun _ => yes.at_state s) fun _ => no
  refine skip (worlds_handleDisconnect _) ?_
  refine skip (worlds_handleAcceptCon _) ?_
  refine skip (worlds_handleRejectCon _) ?_
  refine skip (worlds_handleChangeConPacketType _) ?_
  refine skip (worlds_handleAuthReq _) ?_
  refine .ite Iff.rfl (fun asked => worlds_handleRemoteNameReq _ (names asked)) fun _ => ?_
  refine Relates.at_state ?_ s
  refine .ite Iff.rfl (worlds_handleReadRemoteFeatures _) ?_
  refine .ite Iff.rfl (worlds_handleReadRemoteVerInfo _) ?_
  refine .ite Iff.rfl (worlds_handleReadClockOffset _) ?_
  refine .ite Iff.rfl (worlds_handleSniffMode _) ?_
  refine .ite Iff.rfl (worlds_handleWriteLinkPolicySettings _) ?_
  refine .ite Iff.rfl worlds_handleReset ?_
  refine .ite Iff.rfl (worlds_handleReadStoredLinkKey _) ?_
  exact .ite Iff.rfl (worlds_handleWriteLinkSupervisionTimeout _) (.pure rfl)

/-- A command that asks for the name of a fake Wiimote. -/
def AsksName (core : Core) (data : List UInt8) : Prop :=
  (Bytes.load16 data 0).map le16toh = some hciCmdRemoteNameReq ∧
    NamesFake core (data.drop hciCmdHdrSize)

instance (core : Core) (data : List UInt8) : Decidable (AsksName core data) :=
  inferInstanceAs (Decidable (_ ∧ _))

theorem worlds_hciStateHandleHciCmdFromHost {s : World} (data : List UInt8)
    (names : AsksName s.core data → leaks.names = true) :
    WorldsAt leaks Eq (hciStateHandleHciCmdFromHost data) (hciStateHandleHciCmdFromHost data)
      s := by
  refine .lift_bind fun opcode loaded => ?_
  refine RelatesAt.bind (worlds_fakeWiimoteMgrHandleHciCmdFromHost _ _ ?_)
    fun handled _ u _ same => ?_
  · intro asked named
    rw [load16_ok] at loaded
    exact names ⟨by rw [loaded, Option.map_some, asked], named⟩
  subst same
  refine Relates.at_state ?_ u
  refine .ite Iff.rfl (.pure rfl) (worlds_core fun s t _ core => ?_)
  rw [core]
  refine Relates.bind_eq (.lift_eq _) fun snooped => ?_
  exact Relates.bind_eq (worlds_modifyHci _) fun _ => .pure rfl

theorem worlds_handleL2capSignalChannel (w : WiimoteId) (code ident : UInt8)
    (payload : List UInt8) (size : UInt16) :
    Worlds leaks Eq (handleL2capSignalChannel w code ident payload size)
      (handleL2capSignalChannel w code ident payload size) := by
  unfold handleL2capSignalChannel
  refine .ite Iff.rfl ?connectRsp (.ite Iff.rfl ?configReq (.ite Iff.rfl ?configRsp
    (.ite Iff.rfl ?disconnectReq (.ite Iff.rfl ?connectReq (.pure rfl)))))
  case connectRsp =>
    refine Relates.bind_eq (.lift_eq _) fun dcid => ?_
    refine Relates.bind_eq (.lift_eq _) fun scid => ?_
    refine Relates.bind_eq (.lift_eq _) fun result => ?_
    refine Relates.bind_eq (.lift_eq _) fun status => .ite Iff.rfl ?_ ?_
    · exact Relates.bind_eq (worlds_fakeWiimoteDisconnect w) fun _ => .pure rfl
    · exact worlds_onDevice fun dev => dev.twins_handleConnectRsp _ _ _
  case configReq =>
    refine Relates.bind_eq (.lift_eq _) fun dcid => ?_
    refine Relates.bind_eq (.lift_eq _) fun flags => ?_
    exact worlds_onDevice fun dev => dev.twins_handleL2capConfigReq _ _ _ _ _
  case configRsp =>
    refine Relates.bind_eq (.lift_eq _) fun scid => ?_
    refine Relates.bind_eq (.lift_eq _) fun result => ?_
    exact worlds_onDevice fun dev => dev.twins_handleConfigRsp _ _
  case disconnectReq =>
    refine Relates.bind_eq (.lift_eq _) fun dcid => ?_
    refine Relates.bind_eq (.lift_eq _) fun scid => ?_
    exact worlds_onDevice fun dev => dev.twins_handleDisconnectReq _ _ _
  case connectReq =>
    refine Relates.bind_eq (.lift_eq _) fun psm => ?_
    exact Relates.bind_eq (.lift_eq _) fun scid => .pure rfl

theorem worlds_handleL2capSignalChannelRequest (w : WiimoteId) (fuel : Nat) :
    ∀ (data : List UInt8) (length : UInt16),
      Worlds leaks Eq (handleL2capSignalChannelRequest w fuel data length)
        (handleL2capSignalChannelRequest w fuel data length) := by
  induction fuel with
  | zero =>
      intro data length
      exact .throw _
  | succ fuel ih =>
      intro data length
      refine .ite Iff.rfl (.pure rfl) ?_
      refine Relates.bind_eq (.lift_eq _) fun code => ?_
      refine Relates.bind_eq (.lift_eq _) fun ident => ?_
      refine Relates.bind_eq (.lift_eq _) fun cmdLen => ?_
      exact Relates.bind_eq (worlds_handleL2capSignalChannel _ _ _ _ _) fun _ => ih _ _

/-- A packet for a fake Wiimote whose output report asks for the status. -/
def Session.PacketAsksStatus (wiimote : Session) (acl : List UInt8) : Prop :=
  ∃ length ∈ Bytes.load16 acl hciAclDataHdrSize,
    ∃ dcid ∈ Bytes.load16 acl (hciAclDataHdrSize + 2), le16toh dcid ≠ l2capSignalCid ∧
      wiimote.AsksStatus (le16toh dcid) (acl.drop (hciAclDataHdrSize + l2capHdrSize))
        (le16toh length)

instance (wiimote : Session) (acl : List UInt8) : Decidable (wiimote.PacketAsksStatus acl) :=
  inferInstanceAs (Decidable (∃ _ ∈ _, _))

theorem worlds_fakeWiimoteHandleAclDataOutRequestFromHost {s : World} (w : WiimoteId)
    (acl : List UInt8)
    (padding : (s.periphery.sessions w).PacketAsksStatus acl → leaks.padding = true) :
    WorldsAt leaks Eq (fakeWiimoteHandleAclDataOutRequestFromHost w acl)
      (fakeWiimoteHandleAclDataOutRequestFromHost w acl) s := by
  refine ((worlds_modifyLink w _).at_state s).bind fun _ _ u counted _ => ?_
  cases counted
  refine .lift_bind fun length first => .lift_bind fun dcid second => ?_
  rw [load16_ok] at first second
  refine .ite Iff.rfl (fun _ => Relates.at_state ?_ _) fun data => worldsAt_withPeriphery ?_
  · exact worlds_handleL2capSignalChannelRequest w _ _ _
  · refine Device.twins_handleChannelData _ _ _ _ fun asks => padding ?_
    exact ⟨length, first, dcid, second, data, asks⟩

def World.AsksStatus (s : World) (acl : List UInt8) : Prop :=
  ∃ word ∈ Bytes.load16 acl 0,
    ∃ w ∈ getFakeWiimoteForHciConHandle s.core (hciConHandle (le16toh word)),
      (s.periphery.sessions w).PacketAsksStatus acl

instance (s : World) (acl : List UInt8) : Decidable (s.AsksStatus acl) :=
  inferInstanceAs (Decidable (∃ _ ∈ _, _))

theorem worlds_hciStateHandleAclDataOutRequestFromHost {s : World} (data : List UInt8)
    (padding : s.AsksStatus data → leaks.padding = true) :
    WorldsAt leaks Eq (hciStateHandleAclDataOutRequestFromHost data)
      (hciStateHandleAclDataOutRequestFromHost data) s := by
  refine .lift_bind fun word first => ?_
  rw [load16_ok] at first
  have manager : WorldsAt leaks Eq
      (fakeWiimoteMgrHandleAclDataOutRequestFromHost (hciConHandle (le16toh word)) data)
      (fakeWiimoteMgrHandleAclDataOutRequestFromHost (hciConHandle (le16toh word)) data) s := by
    refine .get_bind fun t like => ?_
    rw [like.core]
    rcases found : getFakeWiimoteForHciConHandle s.core (hciConHandle (le16toh word)) with _ | w
    · exact (Relates.pure rfl).at_state s
    · refine RelatesAt.bind (worlds_fakeWiimoteHandleAclDataOutRequestFromHost w data fun asks =>
        padding ⟨word, first, w, found, asks⟩) fun _ _ u _ _ => (Relates.pure rfl).at_state u
  refine manager.bind fun handled _ u _ same => ?_
  subst same
  refine Relates.at_state (.ite Iff.rfl (.pure rfl) ?_) u
  refine worlds_core fun s t _ core => ?_
  rw [core]
  exact Relates.bind_eq (.lift_eq _) fun data => .pure rfl

def looseAt (leaks : Leaks) : EndpointId → List UInt8 → Nat → Prop
  | .intr => LooseEvent leaks
  | .bulkIn => LooseAcl leaks

theorem LikeWorld.endpoint {s t : World} (like : LikeWorld leaks s t) (ep : EndpointId) :
    LikeEndpoint (looseAt leaks ep) (s.endpoint ep) (t.endpoint ep) := by
  cases ep with
  | intr => exact like.intr
  | bulkIn => exact like.periphery.bulkIn

theorem worlds_modifyEndpoint (ep : EndpointId) {f g : Endpoint → Endpoint}
    (kept : ∀ e e', LikeEndpoint (looseAt leaks ep) e e' →
      LikeEndpoint (looseAt leaks ep) (f e) (g e')) :
    Worlds leaks Eq (modifyEndpoint ep f) (modifyEndpoint ep g) := by
  cases ep with
  | intr => exact .modify fun s t like => { like with intr := kept _ _ like.intr }
  | bulkIn =>
      exact .modify fun s t like => { like with
        periphery := { like.periphery with bulkIn := kept _ _ like.periphery.bulkIn } }

theorem worlds_handleBufferRequest (ep : EndpointId) (msg : IpcMessage) :
    Worlds leaks Eq (handleBufferRequest ep msg) (handleBufferRequest ep msg) := by
  refine Relates.get.bind fun s t like => ?_
  refine (Relates.lift ((like.endpoint ep).receiveMessage msg)).bind fun first second related => ?_
  exact worlds_modifyEndpoint ep fun _ _ _ => related.1

theorem worlds_trackReply (ep : EndpointId) (retval : Int) (buffer : List UInt8) :
    Worlds leaks Eq (trackReply ep retval buffer) (trackReply ep retval buffer) := by
  refine .ite Iff.rfl (worlds_core fun s t _ core => ?_) (.pure rfl)
  rw [core]
  cases ep with
  | intr =>
      refine Relates.bind_eq (.lift_eq _) fun tracked => ?_
      exact Relates.bind_eq (worlds_modifyHci _) fun _ => .pure rfl
  | bulkIn => exact .lift_eq _

theorem worlds_oh1ResourceReply (ep : EndpointId) (retval : Int) (written : List UInt8) :
    Worlds leaks Eq (oh1ResourceReply ep retval written) (oh1ResourceReply ep retval written) := by
  refine Relates.get.bind fun s t like => ?_
  have filled : (t.endpoint ep).filled written = (s.endpoint ep).filled written := by
    unfold Endpoint.filled
    rw [(like.endpoint ep).handDown]
  rw [filled]
  refine Relates.bind_eq (worlds_trackReply _ _ _) fun buffer => ?_
  exact worlds_modifyEndpoint ep fun _ _ same => same.resourceReply retval buffer

/-- No touch is reported left of the touchpad. -/
def EgcEvent.OnScreen : EgcEvent → Prop
  | .input _ state => 0 ≤ state.touchX.toInt
  | _ => True

theorem worlds_handleEgcEvent {event : EgcEvent}
    (onScreen : leaks.touches = false → event.OnScreen) :
    Worlds leaks Eq (handleEgcEvent event) (handleEgcEvent event) := by
  cases event with
  | added device => exact worlds_inputDeviceHandleAdded device
  | removed device => exact worlds_inputDeviceHandleRemoved device
  | input device state =>
      let store : P Unit := modify fun p =>
        { p with gamepads := Function.update p.gamepads device state }
      have stored : Twins leaks Eq store store := by
        refine .modify fun p q like => { like with
          gamepads := by rw [like.gamepads]
          onScreen := fun screen id => ?_ }
        dsimp only
        by_cases same : id = device
        · rw [same, Function.update_self]
          exact onScreen screen
        · rw [Function.update_of_ne same]
          exact like.onScreen screen id
      exact worlds_withPeriphery fun _ => stored

end Rules

end Fakemote
