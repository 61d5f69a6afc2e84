import Fakemote.InjMessage
import Fakemote.InputDevice

/-! The rest of `fake_wiimote.c`: HID reports, the L2CAP session, and the connection of a fake
Wiimote. Packets are the memory that starts at their first byte; reading past it is a fault. -/

namespace Fakemote

open Bytes Program

def assertInjected (ret : IosResult) : M Unit :=
  if ret = .iosOk then pure () else throw (.assertion .injected)

def assertThat (condition : Prop) [Decidable condition] (failed : Assertion) : P Unit :=
  if condition then pure () else throw (.assertion failed)

/-- What the session code knows about its own connection: the core, and its index. -/
structure Device where
  core : Core
  self : WiimoteId

namespace Device

def link (dev : Device) : Link := dev.core.links dev.self

def conHandle (dev : Device) : UInt16 := dev.link.hciConHandle

def sendHidData (dev : Device) (dcid : UInt16) (hidType : UInt8) (data : List UInt8) :
    P IosResult := do
  assertThat (data.length ≤ wiimoteMaxPayload - 1) .hidReportSize
  injectL2capPacket dev.conHandle dcid (hidType :: data)

def sendHidInputReport (dev : Device) (reportId : UInt8) (data : List UInt8) : P IosResult := do
  let wiimote ← getSession dev.self
  assertThat (data.length ≤ wiimoteMaxPayload - 2) .hidReportSize
  dev.sendHidData wiimote.psmHidIntrChn.remoteCid ((hidTypeData <<< (4 : UInt8)) ||| hidParamInput)
    (reportId :: data)

def wiimoteSendAck (dev : Device) (rptId errorCode : UInt8) : P IosResult := do
  let wiimote ← getSession dev.self
  dev.sendHidInputReport inputReportIdAck (bytes16 wiimote.buttons ++ [rptId, errorCode])

/-- The bit fields are allocated from the top; the two padding bytes are not written. -/
def wiimoteSendInputReportStatus (dev : Device) : P IosResult := do
  let wiimote ← getSession dev.self
  let padding ← stackBytes 2
  let flags : UInt8 := (wiimote.leds <<< (4 : UInt8)) ||| (if wiimote.ir then 8 else 0) |||
    (if wiimote.curExtension ≠ .none then 2 else 0)
  dev.sendHidInputReport inputReportIdStatus
    (bytes16 wiimote.buttons ++ [flags] ++ padding ++ [0xFF])

/-- The error code and the bytes read; the session changes when the encryption key is made. -/
def readMemory (memory : Nat → UInt8) (wiimote : Session) (readSize : Nat) :
    UInt8 × Session × List UInt8 :=
  let request := wiimote.readRequest
  let address := request.address.toNat
  let failed (code : UInt8) := (code, wiimote, [])
  if request.space = addressSpaceEeprom then
    if eepromFreeSize < address + request.size.toNat then failed errorCodeInvalidAddress
    else (errorCodeSuccess, wiimote, wiimote.eeprom.read address readSize)
  else if request.space = addressSpaceI2cBus ∨ request.space = addressSpaceI2cBusAlt then
    if request.slaveAddress = eepromI2cAddr then failed errorCodeInvalidAddress
    else if request.slaveAddress = extensionI2cAddr then
      match wiimote.extensionReadData memory address readSize with
      | some (wiimote, data) => (errorCodeSuccess, wiimote, data)
      | none => failed errorCodeNack
    else if request.slaveAddress = cameraI2cAddr then
      match wiimote.irCameraReadData address readSize with
      | some data => (errorCodeSuccess, wiimote, data)
      | none => failed errorCodeNack
    else failed errorCodeSuccess
  else failed errorCodeInvalidSpace

/-- The reply always has 16 bytes of data, those that were not read being zero. -/
def fakeWiimoteProcessReadRequest (dev : Device) : P Bool := do
  let p ← get
  let wiimote := p.sessions dev.self
  let readSize := min 16 wiimote.readRequest.size.toNat
  if readSize = 0 then return false
  else do
    let address := wiimote.readRequest.address
    let (error, wiimote, data) := readMemory p.platform.memory wiimote readSize
    let request := wiimote.readRequest
    let done : ReadRequest :=
      if error ≠ errorCodeSuccess then { request with size := 0 }
      else
        { request with
          address := request.address + UInt16.ofNat readSize
          size := request.size - UInt16.ofNat readSize }
    modifySession dev.self fun _ => { wiimote with readRequest := done }
    let readSize := if error ≠ errorCodeSuccess then 16 else readSize
    let sizeError : UInt8 := (UInt8.ofNat (readSize - 1) <<< (4 : UInt8)) ||| error
    let _ ← dev.sendHidInputReport inputReportIdReadDataReply
      (bytes16 wiimote.buttons ++ [sizeError] ++ bytes16 address ++ data ++
        List.replicate (16 - data.length) 0)
    return true

structure WriteRequest where
  space : UInt8
  slaveAddress : UInt8
  address : UInt16
  data : List UInt8

def writeMemory (wiimote : Session) (write : WriteRequest) : UInt8 × Session :=
  let address := write.address.toNat
  let orNack : Option Session → UInt8 × Session
    | some wiimote => (errorCodeSuccess, wiimote)
    | none => (errorCodeNack, wiimote)
  if write.space = addressSpaceEeprom then
    if eepromFreeSize < address + write.data.length then (errorCodeInvalidAddress, wiimote)
    else (errorCodeSuccess, { wiimote with eeprom := wiimote.eeprom.write address write.data })
  else if write.space = addressSpaceI2cBus ∨ write.space = addressSpaceI2cBusAlt then
    if write.slaveAddress = eepromI2cAddr then (errorCodeInvalidAddress, wiimote)
    else if write.slaveAddress = extensionI2cAddr then
      orNack (wiimote.extensionWriteData write.data address)
    else if write.slaveAddress = cameraI2cAddr then
      orNack (wiimote.irCameraWriteData write.data address)
    else (errorCodeSuccess, wiimote)
  else (errorCodeInvalidSpace, wiimote)

def storesWrite (space slaveAddress : UInt8) (address size : Nat) : Bool :=
  if space = addressSpaceEeprom then address + size ≤ eepromFreeSize
  else if space = addressSpaceI2cBus ∨ space = addressSpaceI2cBusAlt then
    if slaveAddress = extensionI2cAddr then address + size ≤ extensionRegsSize
    else slaveAddress = cameraI2cAddr ∧ address + size ≤ irRegsSize
  else false

/-- The data is read only when it is stored. -/
def writeData (report : List UInt8) (stored : Bool) (size : Nat) : Except Fault (List UInt8) :=
  if stored then loadBytes report 5 size else .ok (List.replicate size 0)

/-- `report` is the output report after its id. -/
def fakeWiimoteProcessWriteRequest (dev : Device) (report : List UInt8) : P Unit := do
  let size := (← load8 report 4).toNat
  if size = 0 ∨ 16 < size then pure ()
  else do
    let space := ((← load8 report 0) >>> (2 : UInt8)) &&& (3 : UInt8)
    let slave := (← load8 report 1) >>> (1 : UInt8)
    let address ← load16 report 2
    let data ← writeData report (storesWrite space slave address.toNat size) size
    let wiimote ← getSession dev.self
    let (error, wiimote) := writeMemory wiimote ⟨space, slave, address, data⟩
    modifySession dev.self fun _ => wiimote
    let _ ← dev.wiimoteSendAck outputReportIdWriteData error

/-- An extension is detached first; the next tick attaches the new one. -/
def fakeWiimoteProcessExtensionChange (dev : Device) : P Bool := do
  let wiimote ← getSession dev.self
  if wiimote.newExtension = wiimote.curExtension then return false
  else do
    let extension := if wiimote.curExtension = .none then wiimote.newExtension else .none
    let changed : Session :=
      { wiimote with reportingMode := inputReportIdReportDisabled, curExtension := extension }
    modifySession dev.self fun _ => changed.fakeWiimoteResetExtensionState
    let _ ← dev.wiimoteSendInputReportStatus
    return true

/-- The accelerometer bytes, and the bits of it that go with the buttons. -/
def accelerometerBytes (wiimote : Session) : List UInt8 :=
  [(wiimote.accX >>> (2 : UInt16)).toUInt8, (wiimote.accY >>> (2 : UInt16)).toUInt8,
   (wiimote.accZ >>> (2 : UInt16)).toUInt8]

def accelerometerBits (wiimote : Session) : UInt16 :=
  ((wiimote.accX &&& (3 : UInt16)) <<< (13 : UInt16)) |||
    ((wiimote.accY &&& (2 : UInt16)) <<< (4 : UInt16)) |||
    ((wiimote.accZ &&& (2 : UInt16)) <<< (5 : UInt16))

/-- The extension bytes of a report; nothing is written when the read fails. -/
def extensionBytes (dev : Device) (size : Nat) : P (List UInt8) := do
  let p ← get
  if size = 0 then return []
  else
    match (p.sessions dev.self).extensionReadData p.platform.memory 0 size with
    | some (wiimote, data) => do
        modifySession dev.self fun _ => wiimote
        return data
    | none => return []

def fakeWiimoteSendDataReport (dev : Device) : P Unit := do
  let wiimote ← getSession dev.self
  let mode := wiimote.reportingMode
  if mode = inputReportIdReportDisabled then pure ()
  else if wiimote.reportingContinuous ∨ wiimote.inputDirty then do
    let accSize := inputReportAccSize mode
    let irSize := inputReportIrSize mode
    let extSize := inputReportExtSize mode
    let reportSize := (if inputReportHasBtn mode then 2 else 0) + accSize + extSize + irSize
    let report ← stackBytes controllerDataBytes
    let report ← storeBytes report (inputReportAccOffset mode)
      (if accSize ≠ 0 then accelerometerBytes wiimote else [])
    let buttons := wiimote.buttons ||| (if accSize ≠ 0 then accelerometerBits wiimote else 0)
    let report ← storeBytes report (inputReportIrOffset mode)
      (wiimote.irRegs.read irRegsCameraData irSize)
    let extension ← dev.extensionBytes extSize
    let report ← storeBytes report (inputReportExtOffset mode) extension
    let report ← storeBytes report 0 (if inputReportHasBtn mode then bytes16 buttons else [])
    let _ ← dev.sendHidInputReport mode (report.take reportSize)
    modifySession dev.self fun wiimote => { wiimote with inputDirty := false }
  else pure ()

def generateL2capChannelId : P UInt16 := do
  let p ← get
  modify fun p => { p with startingId := p.startingId + 1 }
  return p.startingId

def checkSendConfigForNewChannel (dev : Device) (chn : Channel) : P Unit := do
  let wiimote ← getSession dev.self
  let info := wiimote.channel chn
  when (info.isAccepted ∧ info.state = .inactive) (do
    let ret ← injectL2capConfigReq dev.conHandle info.remoteCid wiiRequestMtu l2capFlushTimoDefault
    when (ret = .iosOk) (modifySession dev.self fun wiimote =>
      wiimote.setChannel chn { wiimote.channel chn with state := .configPend }))

def requestChannel (dev : Device) (chn : Channel) (psm : UInt16) : P Unit := do
  let localCid ← generateL2capChannelId
  let ret ← injectL2capConnectReq dev.conHandle psm localCid
  assertThat (ret = .iosOk) .injected
  modifySession dev.self fun wiimote => wiimote.setChannel chn (.setup psm localCid)

def checkSendConfigs (dev : Device) : P Unit := do
  dev.checkSendConfigForNewChannel .hidCntl
  dev.checkSendConfigForNewChannel .hidIntr

/-- One action a tick, so as not to send too many packets at once. -/
def tickLinking (dev : Device) : P Unit := do
  let wiimote ← getSession dev.self
  let hidCntlChnComplete := wiimote.psmHidCntlChn.isComplete
  if wiimote.psmHidCntlChn.valid = false then do
    dev.requestChannel .hidCntl l2capPsmHidCntl
    dev.checkSendConfigs
  else if hidCntlChnComplete ∧ wiimote.psmHidIntrChn.valid = false then do
    dev.requestChannel .hidIntr l2capPsmHidIntr
    dev.checkSendConfigs
  else if hidCntlChnComplete ∧ wiimote.psmHidIntrChn.isComplete then do
    modifySession dev.self fun wiimote => { wiimote with aclState := .inactive }
    inputDeviceResume dev.core dev.link.inputDevice
  else dev.checkSendConfigs

/-- Read replies and extension changes suppress the other reports of the tick. -/
def tickReports (dev : Device) : P Unit := do
  let read ← dev.fakeWiimoteProcessReadRequest
  if read then pure ()
  else do
    let changed ← dev.fakeWiimoteProcessExtensionChange
    if changed then pure ()
    else do
      let report ← inputDeviceReportInput dev.core dev.link.inputDevice
      when report dev.fakeWiimoteSendDataReport

def tickConnected (dev : Device) : P Unit := do
  let wiimote ← getSession dev.self
  if wiimote.aclState = .linking then dev.tickLinking else dev.tickReports

/-- The last MTU option wins. The fuel is the size of the options: every option takes two bytes
or more. -/
def configOptions : (fuel : Nat) → (options : List UInt8) → (offset size : Nat) →
    (remoteMtu : UInt16) → Except Fault UInt16
  | 0, _, _, _, remoteMtu => .ok remoteMtu
  | fuel + 1, options, offset, size, remoteMtu =>
      if offset < size then do
        let type ← load8 options offset
        let length ← load8 options (offset + 1)
        let next := offset + l2capCfgOptSize + length.toNat
        if type = l2capOptMtu then
          if length = l2capOptMtuSize then do
            let mtu ← load16 options (offset + l2capCfgOptSize)
            configOptions fuel options next size (le16toh mtu)
          else .error (.assertion .configOptionLength)
        else if type = l2capOptFlushTimo then
          if length = l2capOptFlushTimoSize then configOptions fuel options next size remoteMtu
          else .error (.assertion .configOptionLength)
        else configOptions fuel options next size remoteMtu
      else .ok remoteMtu

def channelOrFault (dev : Device) (localCid : UInt16) : P Channel := do
  let wiimote ← getSession dev.self
  orFault (.assertion .channelInfo) (wiimote.getChannelInfo localCid)

/-- The options are answered as they came. -/
def handleL2capConfigReq (dev : Device) (ident : UInt8) (dcid flags : UInt16)
    (options : List UInt8) (optionsSize : UInt16) : P Unit := do
  assertThat (flags = 0) .configReqFlags
  let chn ← dev.channelOrFault dcid
  let remoteMtu ←
    configOptions optionsSize.toNat options 0 optionsSize.toNat l2capMtuDefault
  let wiimote ← getSession dev.self
  let info := wiimote.channel chn
  modifySession dev.self fun wiimote =>
    wiimote.setChannel chn { info with remoteMtu := remoteMtu }
  let _ ← injectL2capConfigRsp dev.conHandle info.remoteCid ident options optionsSize

def handleConnectRsp (dev : Device) (dcid scid status : UInt16) : P Unit := do
  assertThat (status = l2capNoInfo) .connectRspStatus
  let chn ← dev.channelOrFault scid
  modifySession dev.self fun wiimote =>
    wiimote.setChannel chn { wiimote.channel chn with remoteCid := dcid }

def handleConfigRsp (dev : Device) (scid result : UInt16) : P Unit := do
  assertThat (result = l2capSuccess) .configRspResult
  let chn ← dev.channelOrFault scid
  modifySession dev.self fun wiimote =>
    wiimote.setChannel chn { wiimote.channel chn with state := .complete }

def handleDisconnectReq (dev : Device) (ident : UInt8) (dcid scid : UInt16) : P Unit := do
  let chn ← dev.channelOrFault dcid
  modifySession dev.self fun wiimote =>
    wiimote.setChannel chn { wiimote.channel chn with valid := false }
  let _ ← injectL2capDisconnectRsp dev.conHandle ident dcid scid

def fakeWiimoteUpdateRumble (dev : Device) (rumbleOn : Bool) : P Unit := do
  let wiimote ← getSession dev.self
  when (rumbleOn ≠ wiimote.rumbleOn) (do
    modifySession dev.self fun wiimote => { wiimote with rumbleOn := rumbleOn }
    inputDeviceSetRumble dev.core dev.link.inputDevice rumbleOn)

def reportBit (byte : UInt8) (n : Nat) : Bool := byte.toNat.testBit n

def ackReport (dev : Device) (flags rptId : UInt8) : P Unit :=
  when (reportBit flags 1) (do
    let _ ← dev.wiimoteSendAck rptId errorCodeSuccess)

/-- A read request is refused while another one is in progress; its first reply is sent at once.
The source then falls through to the speaker case, which does nothing. -/
def handleReadData (dev : Device) (report : List UInt8) : P Unit := do
  let wiimote ← getSession dev.self
  if wiimote.readRequest.size ≠ 0 then do
    let _ ← dev.wiimoteSendAck outputReportIdReadData errorCodeBusy
  else do
    let flags ← load8 report 0
    let slave ← load8 report 1
    let address ← load16 report 2
    let size ← load16 report 4
    modifySession dev.self fun wiimote =>
      { wiimote with
        readRequest :=
          ⟨(flags >>> (2 : UInt8)) &&& (3 : UInt8), slave >>> (1 : UInt8), address, size⟩ }
    let _ ← dev.fakeWiimoteProcessReadRequest

def handleOutputReport (dev : Device) (id flags : UInt8) (report : List UInt8) : P Unit :=
  if id = outputReportIdRumble then pure ()
  else if id = outputReportIdLed then do
    let leds := flags >>> (4 : UInt8)
    modifySession dev.self fun wiimote => { wiimote with leds := leds }
    inputDeviceSetLeds dev.core dev.link.inputDevice leds
    dev.ackReport flags outputReportIdLed
  else if id = outputReportIdReportMode then do
    let mode ← load8 report 1
    modifySession dev.self fun wiimote =>
      { wiimote with reportingMode := mode, reportingContinuous := reportBit flags 2 }
    dev.ackReport flags outputReportIdReportMode
  else if id = outputReportIdIrEnable then do
    modifySession dev.self fun wiimote => { wiimote with ir := reportBit flags 2 }
    dev.ackReport flags outputReportIdIrEnable
  else if id = outputReportIdSpeakerEnable then dev.ackReport flags outputReportIdSpeakerEnable
  else if id = outputReportIdStatus then do
    let _ ← dev.wiimoteSendInputReportStatus
  else if id = outputReportIdWriteData then dev.fakeWiimoteProcessWriteRequest report
  else if id = outputReportIdReadData then dev.handleReadData report
  else if id = outputReportIdSpeakerData then pure ()
  else if id = outputReportIdSpeakerMute then dev.ackReport flags outputReportIdSpeakerMute
  else if id = outputReportIdIrEnable2 then dev.ackReport flags outputReportIdIrEnable2
  else throw (.assertion .outputReport)

def handleHidIntrDataOutput (dev : Device) (data : List UInt8) (size : UInt16) : P Unit := do
  if size = 0 then pure ()
  else do
    let flags ← load8 data 1
    dev.fakeWiimoteUpdateRumble (reportBit flags 0)
    let id ← load8 data 0
    dev.handleOutputReport id flags (data.drop 1)

def handleChannelData (dev : Device) (dcid : UInt16) (payload : List UInt8) (length : UInt16) :
    P Unit := do
  let wiimote ← getSession dev.self
  match wiimote.getChannelInfo dcid with
  | none => pure ()
  | some chn =>
      if (wiimote.channel chn).psm = l2capPsmHidIntr then do
        let header ← load8 payload 0
        when (header = ((hidTypeData <<< (4 : UInt8)) ||| hidParamOutput))
          (dev.handleHidIntrDataOutput (payload.drop 1) (length - 1))
      else pure ()

end Device

def onDevice {α : Type} (w : WiimoteId) (body : Device → P α) : M α :=
  withPeriphery fun core => body ⟨core, w⟩

def fakeWiimoteInit (bdaddr : BdAddr) (link : Link) : Link :=
  { link with active := false, bdaddr := bdaddr }

def fakeWiimoteInitState (w : WiimoteId) (inputDevice : SlotId) : M Unit := do
  modifyLink w fun link =>
    { link with
      basebandState := .requestConnection
      numCompletedAclDataPackets := 0
      inputDevice := some inputDevice }
  withPeriphery fun _ => modifySession w Session.initState

def fakeWiimoteHandleHciCmdAcceptCon (w : WiimoteId) (role : UInt8) : M Unit := do
  let ret ← injectHciEventCommandStatus hciCmdAcceptCon
  assertInjected ret
  let s ← get
  let (handle, hci) := hciConHandleVirtAlloc s.core.hci
  modifyHci fun _ => hci
  modifyLink w fun link => { link with basebandState := .complete, hciConHandle := handle }
  withPeriphery fun _ => modifySession w fun wiimote => { wiimote with aclState := .linking }
  let link ← getLink w
  when (role = hciRoleMaster) (do
    let ret ← injectHciEventRoleChange link.bdaddr hciRoleMaster
    assertInjected ret)
  let ret ← injectHciEventConCompl link.bdaddr link.hciConHandle 0
  assertInjected ret

def fakeWiimoteReleaseInputDevice (w : WiimoteId) : M Unit :=
  modifyLink w fun link => { link with inputDevice := none }

def releaseInputDevice : Option SlotId → M Unit
  | some d => inputDeviceReleaseWiimote d
  | none => pure ()

/-- The result of the injection is returned and no caller looks at it. -/
def fakeWiimoteDisconnect (w : WiimoteId) : M IosResult := do
  modifyLink w fun link => { link with active := false }
  let link ← getLink w
  releaseInputDevice link.inputDevice
  if link.basebandState = .complete then
    injectHciEventDisconCompl link.hciConHandle 0 0x13
  else return .iosOk

/-- The Wiimote loses its controller first, so that disconnecting does not suspend it. -/
def disconnectRemoved : Option WiimoteId → M Unit
  | some w => do
      fakeWiimoteReleaseInputDevice w
      let _ ← fakeWiimoteDisconnect w
  | none => pure ()

def inputDeviceHandleRemoved (device : Nat) : M Unit := do
  let s ← get
  match inputDeviceFromEgc s.core device with
  | none => pure ()
  | some d => do
      disconnectRemoved (s.core.slots d).assignedWiimote
      modifySlot d fun slot => { slot with device := none }

def fakeWiimoteTick (w : WiimoteId) : M Unit := do
  let s ← get
  match (s.core.links w).basebandState with
  | .requestConnection =>
      when (hciCanRequestConnection s.core.hci) (do
        let ret ← injectHciEventConReq (s.core.links w).bdaddr wiimoteHciClass0 wiimoteHciClass1
          wiimoteHciClass2 hciLinkAcl
        when (ret = .iosOk) (modifyLink w fun link => { link with basebandState := .inactive }))
  | .complete => onDevice w Device.tickConnected
  | .inactive => pure ()

/-- Some stacks put the result in `dcid`, with `scid` 0. -/
def connectRspFails (dcid scid result : UInt16) : Bool :=
  result ≠ l2capSuccess || (dcid = l2capPsmNotSupported && scid = 0)

/-- A failed connect response disconnects; every other command stays within the session. -/
def handleL2capSignalChannel (w : WiimoteId) (code ident : UInt8) (payload : List UInt8)
    (size : UInt16) : M Unit :=
  if code = l2capConnectRsp then do
    let dcid := le16toh (← load16 payload 0)
    let scid := le16toh (← load16 payload 2)
    let result := le16toh (← load16 payload 4)
    let status := le16toh (← load16 payload 6)
    if connectRspFails dcid scid result then do
      let _ ← fakeWiimoteDisconnect w
    else onDevice w fun dev => dev.handleConnectRsp dcid scid status
  else if code = l2capConfigReq then do
    let dcid := le16toh (← load16 payload 0)
    let flags := le16toh (← load16 payload 2)
    onDevice w fun dev =>
      dev.handleL2capConfigReq ident dcid flags (payload.drop l2capCfgReqCpSize)
        (size - UInt16.ofNat l2capCfgReqCpSize)
  else if code = l2capConfigRsp then do
    let scid := le16toh (← load16 payload 0)
    let result := le16toh (← load16 payload 4)
    onDevice w fun dev => dev.handleConfigRsp scid result
  else if code = l2capDisconnectReq then do
    let dcid := le16toh (← load16 payload 0)
    let scid := le16toh (← load16 payload 2)
    onDevice w fun dev => dev.handleDisconnectReq ident dcid scid
  else if code = l2capConnectReq then do
    -- the request is read and left unanswered
    let _ ← load16 payload 0
    let _ ← load16 payload 2
  else pure ()

/-- The commands of a signalling packet; the remaining length is a `u16` and may wrap. Every
command takes four bytes or more, so memory ends before the fuel when it is the memory's size. -/
def handleL2capSignalChannelRequest (w : WiimoteId) :
    (fuel : Nat) → (data : List UInt8) → (length : UInt16) → M Unit
  | 0, _, _ => throw .outOfBounds
  | fuel + 1, data, length =>
      if length.toNat < l2capCmdHdrSize then pure ()
      else do
        let code ← load8 data 0
        let ident ← load8 data 1
        let cmdLen := le16toh (← load16 data 2)
        handleL2capSignalChannel w code ident (data.drop l2capCmdHdrSize) cmdLen
        handleL2capSignalChannelRequest w fuel (data.drop (l2capCmdHdrSize + cmdLen.toNat))
          (length - (UInt16.ofNat l2capCmdHdrSize + cmdLen))

def fakeWiimoteHandleAclDataOutRequestFromHost (w : WiimoteId) (acl : List UInt8) :
    M Unit := do
  modifyLink w fun link =>
    { link with numCompletedAclDataPackets := link.numCompletedAclDataPackets + 1 }
  let length := le16toh (← load16 acl hciAclDataHdrSize)
  let dcid := le16toh (← load16 acl (hciAclDataHdrSize + 2))
  let payload := acl.drop (hciAclDataHdrSize + l2capHdrSize)
  if dcid = l2capSignalCid then
    handleL2capSignalChannelRequest w (payload.length + 1) payload length
  else onDevice w fun dev => dev.handleChannelData dcid payload length

end Fakemote
