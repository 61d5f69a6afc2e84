import Fakemote.Library.Labelled
import Fakemote.InjectedPackets

/-! The session code as an abstract machine: what one deed changes in a session and which packet it
sends, without memory and queues. -/

namespace Fakemote

open Bytes Program

/-- What the sessions and their packets depend on. `produced` and `egcCalls` are history. -/
structure Air where
  sessions : WiimoteId → Session
  extensions : SlotId → WiimoteExt
  startingId : UInt16
  allocations : Nat
  produced : List Reply
  egcCalls : List EgcCall

def Periphery.air (p : Periphery) : Air where
  sessions := p.sessions
  extensions d := (p.mappings d).extension
  startingId := p.startingId
  allocations := p.heap.calls
  produced := p.bulkIn.produced
  egcCalls := p.egcCalls

/-- `placed` tells whether the packet of the deed reached the queue. -/
inductive Deed
  | request (chn : Channel) (psm localCid : UInt16)
  | configure (chn : Channel) (placed : Bool)
  | finish
  | recordCid (chn : Channel) (remoteCid : UInt16)
  | recordMtu (chn : Channel) (mtu : UInt16) (ident : UInt8) (options : List UInt8) (placed : Bool)
  | complete (chn : Channel)
  | close (chn : Channel) (ident : UInt8) (dcid scid : UInt16) (placed : Bool)
  | rumble (on : Bool)
  | leds (value : UInt8)
  | mode (id : UInt8) (continuous : Bool)
  | ir (on : Bool)
  | startRead (started : ReadRequest)
  | chunk (placed : Bool)
  | write (data : Device.WriteRequest) (placed : Bool)
  | ack (rptId errorCode : UInt8) (placed : Bool)
  | status (padding : List UInt8) (placed : Bool)
  | change (padding : List UInt8) (placed : Bool)
  | switch (d : SlotId) (v : WiimoteId) (ext : WiimoteExt)
  | feed (d : SlotId) (v : WiimoteId) (ext : WiimoteExt) (input : Gamepad) (accelerometer : Bool)
      (irDots : List IrDot)
  | report (placed : Bool)

def inputReportPacket (handle : UInt16) (wiimote : Session) (reportId : UInt8)
    (data : List UInt8) : List UInt8 :=
  aclPacket handle (l2capFrame wiimote.psmHidIntrChn.remoteCid
    (((hidTypeData <<< (4 : UInt8)) ||| hidParamInput) :: reportId :: data))

def statusFlags (wiimote : Session) : UInt8 :=
  (wiimote.leds <<< (4 : UInt8)) ||| (if wiimote.ir then 8 else 0) |||
    (if wiimote.curExtension ≠ .none then 2 else 0)

def statusPacket (handle : UInt16) (wiimote : Session) (padding : List UInt8) : List UInt8 :=
  inputReportPacket handle wiimote inputReportIdStatus
    (bytes16 wiimote.buttons ++ [statusFlags wiimote] ++ padding ++ [0xFF])

def ackPacket (handle : UInt16) (wiimote : Session) (rptId errorCode : UInt8) : List UInt8 :=
  inputReportPacket handle wiimote inputReportIdAck (bytes16 wiimote.buttons ++ [rptId, errorCode])

namespace Session

def readSize (wiimote : Session) : Nat := min 16 wiimote.readRequest.size.toNat

def afterChunk (memory : Nat → UInt8) (wiimote : Session) : Session :=
  let (error, after, _) := Device.readMemory memory wiimote wiimote.readSize
  { after with
    readRequest :=
      if error ≠ errorCodeSuccess then { after.readRequest with size := 0 }
      else
        { after.readRequest with
          address := after.readRequest.address + UInt16.ofNat wiimote.readSize
          size := after.readRequest.size - UInt16.ofNat wiimote.readSize } }

/-- A read reply: the size less one and the error, the address, and 16 bytes. -/
def chunkBody (memory : Nat → UInt8) (wiimote : Session) : List UInt8 :=
  let (error, _, data) := Device.readMemory memory wiimote wiimote.readSize
  let size := if error ≠ errorCodeSuccess then 16 else wiimote.readSize
  bytes16 wiimote.buttons ++ [(UInt8.ofNat (size - 1) <<< (4 : UInt8)) ||| error] ++
    bytes16 wiimote.readRequest.address ++ data ++ List.replicate (16 - data.length) 0

def afterChange (wiimote : Session) : Session :=
  { wiimote with
    reportingMode := inputReportIdReportDisabled
    curExtension :=
      if wiimote.curExtension = .none then wiimote.newExtension else .none
    : Session }.fakeWiimoteResetExtensionState

/-- The extension bytes of a data report, and the session with the key that they needed. -/
def extensionReport (memory : Nat → UInt8) (wiimote : Session) : Session × List UInt8 :=
  let size := inputReportExtSize wiimote.reportingMode
  if size = 0 then (wiimote, [])
  else (wiimote.extensionReadData memory 0 size).getD (wiimote, [])

/-- The body of a data report: buttons, accelerometer, IR camera and extension. -/
def reportBody (memory : Nat → UInt8) (wiimote : Session) : List UInt8 :=
  let mode := wiimote.reportingMode
  let acc := inputReportAccSize mode ≠ 0
  (if inputReportHasBtn mode then
      bytes16 (wiimote.buttons ||| (if acc then Device.accelerometerBits wiimote else 0))
    else []) ++
    (if acc then Device.accelerometerBytes wiimote else []) ++
    wiimote.irRegs.read irRegsCameraData (inputReportIrSize mode) ++
    (wiimote.extensionReport memory).2

end Session

namespace Deed

def target (self : WiimoteId) : Deed → WiimoteId
  | switch _ v _ | feed _ v _ _ _ _ => v
  | _ => self

def session (egc : Platform) (wiimote : Session) : Deed → Session
  | request chn psm localCid => wiimote.setChannel chn (.setup psm localCid)
  | configure chn placed =>
      if placed then wiimote.setChannel chn { wiimote.channel chn with state := .configPend }
      else wiimote
  | finish => { wiimote with aclState := .inactive }
  | recordCid chn remoteCid =>
      wiimote.setChannel chn { wiimote.channel chn with remoteCid := remoteCid }
  | recordMtu chn mtu _ _ _ =>
      wiimote.setChannel chn { wiimote.channel chn with remoteMtu := mtu }
  | complete chn => wiimote.setChannel chn { wiimote.channel chn with state := .complete }
  | close chn _ _ _ _ => wiimote.setChannel chn { wiimote.channel chn with valid := false }
  | rumble on => { wiimote with rumbleOn := on }
  | leds value => { wiimote with leds := value }
  | mode id continuous =>
      { wiimote with reportingMode := id, reportingContinuous := continuous }
  | ir on => { wiimote with ir := on }
  | startRead started => { wiimote with readRequest := started }
  | chunk _ => wiimote.afterChunk egc.memory
  | write data _ => (Device.writeMemory wiimote data).2
  | ack _ _ _ | status _ _ => wiimote
  | change _ _ => wiimote.afterChange
  | switch _ _ ext => wiimote.fakeWiimoteSetExtension ext
  | feed _ _ ext input accelerometer irDots =>
      let wiimote :=
        if accelerometer then
          wiimote.fakeWiimoteReportAccelerometer input.accelX input.accelY input.accelZ
        else wiimote
      reportMapped egc input ext (wiimote.fakeWiimoteReportIrDots irDots)
  | report _ => { (wiimote.extensionReport egc.memory).1 with inputDirty := false }

def packet (egc : Platform) (handle : UInt16) (wiimote : Session) : Deed → Option (List UInt8)
  | request _ psm localCid =>
      some (signalPacket handle l2capConnectReq l2capConnectReq (connectReqPayload psm localCid))
  | configure chn _ =>
      some (signalPacket handle l2capConfigReq l2capConfigReq
        (configReqPayload (wiimote.channel chn).remoteCid wiiRequestMtu l2capFlushTimoDefault))
  | recordMtu chn _ ident options _ =>
      some (signalPacket handle l2capConfigRsp ident
        (configRspPayload (wiimote.channel chn).remoteCid options))
  | close _ ident dcid scid _ =>
      some (signalPacket handle l2capDisconnectRsp ident (disconnectPayload dcid scid))
  | chunk _ =>
      some (inputReportPacket handle wiimote inputReportIdReadDataReply
        (wiimote.chunkBody egc.memory))
  | write data _ =>
      some (ackPacket handle wiimote outputReportIdWriteData (Device.writeMemory wiimote data).1)
  | ack rptId errorCode _ => some (ackPacket handle wiimote rptId errorCode)
  | status padding _ => some (statusPacket handle wiimote padding)
  | change padding _ => some (statusPacket handle wiimote.afterChange padding)
  | report _ =>
      some (inputReportPacket handle wiimote wiimote.reportingMode (wiimote.reportBody egc.memory))
  | finish | recordCid _ _ | complete _ | rumble _ | leds _ | mode _ _ | ir _ | startRead _
  | switch _ _ _ | feed _ _ _ _ _ _ => none

/-- A Connect Request that is not placed stops the module. -/
def placed : Deed → Bool
  | request _ _ _ => true
  | configure _ placed | recordMtu _ _ _ _ placed | close _ _ _ _ placed | chunk placed
  | write _ placed | ack _ _ placed | status _ placed | change _ placed | report placed => placed
  | finish | recordCid _ _ | complete _ | rumble _ | leds _ | mode _ _ | ir _ | startRead _
  | switch _ _ _ | feed _ _ _ _ _ _ => false

def extensions (extensions : SlotId → WiimoteExt) : Deed → SlotId → WiimoteExt
  | switch d _ ext => Function.update extensions d ext
  | _ => extensions

def startingId (startingId : UInt16) : Deed → UInt16
  | request _ _ _ => startingId + 1
  | _ => startingId

def controller (dev : Device) : Option EgcDevice :=
  dev.link.inputDevice.bind fun d => (dev.core.slots d).device

def egcCalls (dev : Device) : Deed → List EgcCall
  | finish => [.resume (controller dev)]
  | rumble on => [.setRumble (controller dev) on]
  | leds value => [.setLeds (controller dev) value]
  | _ => []

end Deed

/-- The slot from which a fake Wiimote gets inputs, and the fake Wiimote that they go to. -/
def Device.Drives (dev : Device) (d : SlotId) (v : WiimoteId) : Prop :=
  dev.link.inputDevice = some d ∧ (dev.core.slots d).device.isSome ∧
    (dev.core.slots d).assignedWiimote = some v

namespace Air

def act (egc : Platform) (dev : Device) (a : Air) (deed : Deed) : Air :=
  let wiimote := a.sessions (deed.target dev.self)
  let packet := deed.packet egc dev.conHandle wiimote
  { sessions := Function.update a.sessions (deed.target dev.self) (deed.session egc wiimote)
    extensions := deed.extensions a.extensions
    startingId := deed.startingId a.startingId
    allocations := a.allocations + packet.toList.length
    produced :=
      a.produced ++ if deed.placed then packet.toList.map fun data => ⟨data.length, data⟩ else []
    egcCalls := a.egcCalls ++ deed.egcCalls dev }

def emits (egc : Platform) (dev : Device) (a : Air) (deed : Deed) : List Reply :=
  if deed.placed then
    (deed.packet egc dev.conHandle (a.sessions (deed.target dev.self))).toList.map fun data =>
      ⟨data.length, data⟩
  else []

/-- The guards under which the code does the deeds. -/
def Enabled (dev : Device) (a : Air) : Deed → Prop
  | .request _ _ localCid => localCid = a.startingId
  | .configure chn _ =>
      ((a.sessions dev.self).channel chn).isAccepted ∧
        ((a.sessions dev.self).channel chn).state = .inactive
  | .finish =>
      (a.sessions dev.self).psmHidCntlChn.isComplete ∧ (a.sessions dev.self).psmHidIntrChn.isComplete
  | .recordCid chn _ | .recordMtu chn _ _ _ _ | .complete chn | .close chn _ _ _ _ =>
      ((a.sessions dev.self).channel chn).valid
  | .startRead _ => (a.sessions dev.self).readRequest.size = 0
  | .chunk _ => (a.sessions dev.self).readRequest.size ≠ 0
  | .write request _ => request.data.length ≤ 16
  | .change _ _ => (a.sessions dev.self).newExtension ≠ (a.sessions dev.self).curExtension
  | .switch d v ext =>
      dev.Drives d v ∧ ext = if a.extensions d = .nunchuk then .classic else .nunchuk
  | .feed d v ext _ _ _ => dev.Drives d v ∧ ext = a.extensions d
  | .report _ =>
      (a.sessions dev.self).reportingMode ≠ inputReportIdReportDisabled ∧
        ((a.sessions dev.self).reportingContinuous = true ∨ (a.sessions dev.self).inputDirty = true)
  | .rumble _ | .leds _ | .mode _ _ | .ir _ | .ack _ _ _ | .status _ _ => True

end Air

/-- Session code that does these deeds, one after the other. -/
structure Device.Performs (dev : Device) (p : Periphery) (deeds : List Deed) (q : Periphery) :
    Prop where
  platform : q.platform = p.platform
  path : Labelled.Path (Air.Enabled dev) (Air.act p.platform dev) p.air deeds q.air

end Fakemote
