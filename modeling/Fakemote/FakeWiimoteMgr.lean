import Fakemote.FakeWiimote

/-! `fake_wiimote_mgr.c`: assignment of controllers, the packet credits and the commands that the
host sends to fake Wiimotes. -/

namespace Fakemote

open Bytes Program

def fakeWiimoteBdaddr (w : WiimoteId) : BdAddr :=
  ⟨[0xFE, 0xED, 0xBA, 0xDF, 0x00, 0xD0 + UInt8.ofNat w.val], rfl⟩

def Link.isConnected (link : Link) : Bool := link.active && link.basebandState = .complete

/-- The counts are `u32` and the entries of the event `u16`. -/
def numComplPktsEntry (link : Link) : UInt16 × UInt16 :=
  (link.hciConHandle, link.numCompletedAclDataPackets.toUInt16)

def connectedLinks (core : Core) : List Link :=
  [core.links 0, core.links 1].filter Link.isConnected

def resetNumCompleted (w : WiimoteId) : M Unit :=
  modifyLink w fun link =>
    if link.isConnected then { link with numCompletedAclDataPackets := 0 } else link

def fakeWiimoteMgrSendEventNumberOfCompletedPackets : M Unit := do
  let s ← get
  let links := connectedLinks s.core
  let total : UInt32 := (links.map (·.numCompletedAclDataPackets)).foldl (· + ·) 0
  resetNumCompleted 0
  resetNumCompleted 1
  when (total > 0) (do
    let _ ← injectHciEventNumComplPkts (links.map numComplPktsEntry))

def checkAssignInputDevice (w : WiimoteId) : M Unit := do
  let s ← get
  if (s.core.links w).active then pure ()
  else
    match inputDeviceGetUnassigned s.core with
    | none => pure ()
    | some d => do
        inputDeviceAssignWiimote d w
        fakeWiimoteInitState w d
        modifyLink w fun link => { link with active := true }

def fakeWiimoteMgrCheckAssignInputDevices : M Unit := do
  checkAssignInputDevice 0
  checkAssignInputDevice 1

def tickActive (w : WiimoteId) : M Unit := do
  let link ← getLink w
  when link.active (fakeWiimoteTick w)

def fakeWiimoteMgrTickDevices : M Unit := do
  let s ← get
  when (hciCanRequestConnection s.core.hci) fakeWiimoteMgrCheckAssignInputDevices
  tickActive 0
  tickActive 1
  fakeWiimoteMgrSendEventNumberOfCompletedPackets

def doesBdaddrBelongToFakeWiimote (core : Core) (bdaddr : BdAddr) : Option WiimoteId :=
  [0, 1].find? fun w => bdaddr = (core.links w).bdaddr

def getFakeWiimoteForHciConHandle (core : Core) (hciConHandle : UInt16) : Option WiimoteId :=
  [0, 1].find? fun w =>
    (core.links w).isConnected && (core.links w).hciConHandle = hciConHandle

-- Commands. The result tells whether a fake Wiimote was meant.

def fakeWiimoteMgrHandleHciCmdAcceptCon (bdaddr : BdAddr) (role : UInt8) : M Bool := do
  let s ← get
  match doesBdaddrBelongToFakeWiimote s.core bdaddr with
  | some w => do
      fakeWiimoteHandleHciCmdAcceptCon w role
      return true
  | none => return false

def fakeWiimoteMgrHandleHciCmdRejectCon (bdaddr : BdAddr) : M Bool := do
  let s ← get
  match doesBdaddrBelongToFakeWiimote s.core bdaddr with
  | some w => do
      let _ ← fakeWiimoteDisconnect w
      return true
  | none => return false

def fakeWiimoteMgrHandleHciCmdDisconnect (hciConHandle : UInt16) : M Bool := do
  let s ← get
  match getFakeWiimoteForHciConHandle s.core hciConHandle with
  | some w => do
      let ret ← injectHciEventCommandStatus hciCmdDisconnect
      assertInjected ret
      let _ ← fakeWiimoteDisconnect w
      return true
  | none => return false

/-- The shape of the commands that are answered when their handle is a fake Wiimote's. -/
def answerForHandle (hciConHandle : UInt16) (answer : M Unit) : M Bool := do
  let s ← get
  match getFakeWiimoteForHciConHandle s.core hciConHandle with
  | some _ => do
      answer
      return true
  | none => return false

def answerWithStatus (opcode : UInt16) (result : M IosResult) : M Unit := do
  let ret ← injectHciEventCommandStatus opcode
  assertInjected ret
  let ret ← result
  assertInjected ret

def handleChangeConPacketType (payload : List UInt8) : M Bool := do
  let conHandle := le16toh (← load16 payload 0)
  answerForHandle conHandle (do
    let pktType := le16toh (← load16 payload 2)
    answerWithStatus hciCmdChangeConPacketType
      (injectHciEventConPktTypeChanged conHandle pktType))

def handleAuthReq (payload : List UInt8) : M Bool := do
  let conHandle := le16toh (← load16 payload 0)
  answerForHandle conHandle (answerWithStatus hciCmdAuthReq
    (injectHciEventAuthCompl 0 conHandle))

def handleReadRemoteFeatures (payload : List UInt8) : M Bool := do
  let conHandle := le16toh (← load16 payload 0)
  answerForHandle conHandle (answerWithStatus hciCmdReadRemoteFeatures
    (injectHciEventReadRemoteFeaturesCompl conHandle wiimoteRemoteFeatures))

def handleReadRemoteVerInfo (payload : List UInt8) : M Bool := do
  let conHandle := le16toh (← load16 payload 0)
  answerForHandle conHandle (answerWithStatus hciCmdReadRemoteVerInfo
    (injectHciEventReadRemoteVerInfoCompl conHandle wiimoteLmpVersion wiimoteManufacturerId
      wiimoteLmpSubversion))

def handleReadClockOffset (payload : List UInt8) : M Bool := do
  let conHandle := le16toh (← load16 payload 0)
  answerForHandle conHandle (answerWithStatus hciCmdReadClockOffset
    (injectHciEventReadClockOffsetCompl conHandle 0x3818))

/-- `max_interval` is passed on as it stands in the packet. -/
def handleSniffMode (payload : List UInt8) : M Bool := do
  let conHandle := le16toh (← load16 payload 0)
  answerForHandle conHandle (do
    let maxInterval ← load16 payload 2
    answerWithStatus hciCmdSniffMode (injectHciEventModeChange conHandle 0x02 maxInterval))

def handleWriteLinkPolicySettings (payload : List UInt8) : M Bool := do
  let conHandle := le16toh (← load16 payload 0)
  answerForHandle conHandle (do
    let ret ← injectHciEventCommandStatus hciCmdWriteLinkPolicySettings
    assertInjected ret)

/-- Answered by a Command Complete event whose parameters repeat the handle as it came. -/
def handleWriteLinkSupervisionTimeout (payload : List UInt8) : M Bool := do
  let wireHandle ← load16 payload 0
  answerForHandle (le16toh wireHandle) (do
    let ret ← injectHciEventCommandCompl hciCmdWriteLinkSupervisionTimeout
      ([0] ++ bytes16 wireHandle)
    assertInjected ret)

/-- "Fake Wiimote 0" or "Fake Wiimote 1", with its NUL. -/
def fakeWiimoteName (w : WiimoteId) : List UInt8 :=
  [0x46, 0x61, 0x6B, 0x65, 0x20, 0x57, 0x69, 0x69, 0x6D, 0x6F, 0x74, 0x65, 0x20,
   0x30 + UInt8.ofNat w.val, 0]

def handleRemoteNameReq (payload : List UInt8) : M Bool := do
  let bdaddr ← loadBdaddr payload 0
  let s ← get
  match doesBdaddrBelongToFakeWiimote s.core bdaddr with
  | some w => do
      answerWithStatus hciCmdRemoteNameReq
        (injectHciEventRemoteNameReqCompl 0 bdaddr (fakeWiimoteName w))
      return true
  | none => return false

/-- Controllers are released, and nothing tells the host. -/
def resetFakeWiimote (w : WiimoteId) : M Unit := do
  let link ← getLink w
  when link.active (do
    releaseInputDevice link.inputDevice
    modifyLink w fun link => { link with active := false })

/-- The keys of the fake Wiimotes are zero; the command goes on to the controller. -/
def handleReadStoredLinkKey (payload : List UInt8) : M Bool := do
  let bdaddr ← loadBdaddr payload 0
  let readAll ← load8 payload 6
  let s ← get
  if readAll ≠ 0 then do
    let key := List.replicate hciKeySize 0
    let _ ← injectHciEventReturnLinkKeys [(fakeWiimoteBdaddr 0, key), (fakeWiimoteBdaddr 1, key)]
    return false
  else if (doesBdaddrBelongToFakeWiimote s.core bdaddr).isSome then
    throw (.assertion .readStoredLinkKey)
  else return false

def handleDisconnect (payload : List UInt8) : M Bool := do
  let conHandle := le16toh (← load16 payload 0)
  fakeWiimoteMgrHandleHciCmdDisconnect conHandle

def handleAcceptCon (payload : List UInt8) : M Bool := do
  let bdaddr ← loadBdaddr payload 0
  let role ← load8 payload 6
  fakeWiimoteMgrHandleHciCmdAcceptCon bdaddr role

def handleRejectCon (payload : List UInt8) : M Bool := do
  let bdaddr ← loadBdaddr payload 0
  fakeWiimoteMgrHandleHciCmdRejectCon bdaddr

def handleReset : M Bool := do
  resetFakeWiimote 0
  resetFakeWiimote 1
  return false

def fakeWiimoteMgrHandleHciCmdFromHost (opcode : UInt16) (payload : List UInt8) : M Bool :=
  if opcode = hciCmdDisconnect then handleDisconnect payload
  else if opcode = hciCmdAcceptCon then handleAcceptCon payload
  else if opcode = hciCmdRejectCon then handleRejectCon payload
  else if opcode = hciCmdChangeConPacketType then handleChangeConPacketType payload
  else if opcode = hciCmdAuthReq then handleAuthReq payload
  else if opcode = hciCmdRemoteNameReq then handleRemoteNameReq payload
  else if opcode = hciCmdReadRemoteFeatures then handleReadRemoteFeatures payload
  else if opcode = hciCmdReadRemoteVerInfo then handleReadRemoteVerInfo payload
  else if opcode = hciCmdReadClockOffset then handleReadClockOffset payload
  else if opcode = hciCmdSniffMode then handleSniffMode payload
  else if opcode = hciCmdWriteLinkPolicySettings then handleWriteLinkPolicySettings payload
  else if opcode = hciCmdReset then handleReset
  else if opcode = hciCmdReadStoredLinkKey then handleReadStoredLinkKey payload
  else if opcode = hciCmdWriteLinkSupervisionTimeout then
    handleWriteLinkSupervisionTimeout payload
  else pure false

def fakeWiimoteMgrHandleAclDataOutRequestFromHost (hciConHandle : UInt16) (acl : List UInt8) :
    M Bool := do
  let s ← get
  match getFakeWiimoteForHciConHandle s.core hciConHandle with
  | some w => do
      fakeWiimoteHandleAclDataOutRequestFromHost w acl
      return true
  | none => return false

end Fakemote
