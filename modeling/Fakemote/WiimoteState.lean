import Fakemote.World

/-! The parts of `fake_wiimote.c` that only change the session of one fake Wiimote: channel
bookkeeping, initial state, input reporting and the register files. -/

namespace Fakemote

open Bytes

namespace L2capChannelInfo

def zero : L2capChannelInfo := ⟨false, .inactive, 0, 0, 0, 0⟩

def isAccepted (info : L2capChannelInfo) : Bool :=
  info.valid && info.remoteCid ≠ l2capNullCid

def isRemoteConfigured (info : L2capChannelInfo) : Bool :=
  info.valid && info.remoteMtu ≠ 0

def isComplete (info : L2capChannelInfo) : Bool :=
  info.valid && info.isAccepted && info.isRemoteConfigured && info.state = .complete

def setup (psm localCid : UInt16) : L2capChannelInfo where
  psm := psm
  state := .inactive
  localCid := localCid
  remoteCid := l2capNullCid
  remoteMtu := 0
  valid := true

end L2capChannelInfo

/-- What `get_channel_info` points to. -/
inductive Channel
  | sdp
  | hidCntl
  | hidIntr
  deriving DecidableEq, Repr

namespace Session

def channel (dev : Session) : Channel → L2capChannelInfo
  | .sdp => dev.psmSdpChn
  | .hidCntl => dev.psmHidCntlChn
  | .hidIntr => dev.psmHidIntrChn

def setChannel (dev : Session) (chn : Channel) (info : L2capChannelInfo) : Session :=
  match chn with
  | .sdp => { dev with psmSdpChn := info }
  | .hidCntl => { dev with psmHidCntlChn := info }
  | .hidIntr => { dev with psmHidIntrChn := info }

def getChannelInfo (dev : Session) (localCid : UInt16) : Option Channel :=
  if dev.psmSdpChn.valid ∧ localCid = dev.psmSdpChn.localCid then some .sdp
  else if dev.psmHidCntlChn.valid ∧ localCid = dev.psmHidCntlChn.localCid then some .hidCntl
  else if dev.psmHidIntrChn.valid ∧ localCid = dev.psmHidIntrChn.localCid then some .hidIntr
  else none

end Session

def calculateCalibrationDataChecksum (data : List UInt8) : UInt8 := data.foldl (· + ·) 0x55

def irHighBits (coordinate : Int) (shift : Nat) : Nat :=
  (coordinate.toNat &&& 0x300) >>> shift

def irCalibration : List UInt8 :=
  [intToU8 irLowX, intToU8 irLowY,
   UInt8.ofNat (irHighBits irLowY 2 ||| irHighBits irLowX 4 ||| irHighBits irLowY 6 |||
     irHighBits irHighX 8),
   intToU8 irHighX, intToU8 irLowY, intToU8 irHighX, intToU8 irHighY,
   UInt8.ofNat (irHighBits irHighY 2 ||| irHighBits irHighX 4 ||| irHighBits irHighY 6 |||
     irHighBits irLowX 8),
   intToU8 irLowX, intToU8 irHighY]

def accelCalibration : List UInt8 :=
  let high (g : UInt16) : UInt8 := (g >>> (2 : UInt16)).toUInt8
  let low (g : UInt16) : UInt8 :=
    (((g &&& (3 : UInt16)) <<< (4 : UInt16)) ||| ((g &&& (3 : UInt16)) <<< (2 : UInt16)) |||
      (g &&& (3 : UInt16))).toUInt8
  [high accelZeroG, high accelZeroG, high accelZeroG, low accelZeroG,
   high accelOneG, high accelOneG, high accelOneG, low accelOneG, 0]

/-- Both calibration blocks are stored twice, each with its checksum. -/
def eepromInit : Registers :=
  let ir := irCalibration ++ [calculateCalibrationDataChecksum irCalibration]
  let accel := accelCalibration ++ [calculateCalibrationDataChecksum accelCalibration]
  Registers.write (fun _ => 0) 0 (ir ++ ir ++ accel ++ accel)

def extensionIdCode : WiimoteExt → Option (List UInt8)
  | .nunchuk => some extIdCodeNunchuk
  | .classic => some expIdCodeClassicController
  | .classicWiiuPro => some expIdCodeClassicWiiuPro
  | .guitar => some expIdCodeGuitar
  | .motionPlus => some expIdCodeMotionPlus
  | .none => none

namespace Session

def fakeWiimoteResetExtensionState (wiimote : Session) : Session :=
  let identified : Registers :=
    match extensionIdCode wiimote.curExtension with
    | some idCode => Registers.write (fun _ => 0) identifierOffset idCode
    | none => fun _ => 0
  let regs :=
    match wiimote.curExtension with
    | .nunchuk => identified.write controllerDataOffset (bmNunchukFormat 0 (fun _ => 0x80) 0 0 0)
    | .classic => identified.write controllerDataOffset (bmClassicFormat 0 fun _ => 0x80)
    | _ => identified
  { wiimote with
    extensionRegs := regs
    extensionKey := .zero
    extensionKeyDirty := true }

/-- The extension registers are reset for the extension of the previous session. -/
def initState (wiimote : Session) : Session :=
  let wiimote := { wiimote with
    aclState := .inactive
    psmSdpChn := { wiimote.psmSdpChn with valid := false }
    psmHidCntlChn := { wiimote.psmHidCntlChn with valid := false }
    psmHidIntrChn := { wiimote.psmHidIntrChn with valid := false }
    leds := 0
    ir := false
    buttons := 0
    inputDirty := false
    accX := accelZeroG
    accY := accelZeroG
    accZ := accelOneG
    rumbleOn := false
    irRegs := fun _ => 0 }
  { wiimote.fakeWiimoteResetExtensionState with
    curExtension := .none
    newExtension := .none
    eeprom := eepromInit
    readRequest := { wiimote.readRequest with size := 0 }
    reportingMode := inputReportIdBtn
    reportingContinuous := false }

def zero : Session where
  aclState := .inactive
  psmSdpChn := .zero
  psmHidCntlChn := .zero
  psmHidIntrChn := .zero
  reportingMode := 0
  reportingContinuous := false
  leds := 0
  ir := false
  buttons := 0
  inputDirty := false
  accX := 0
  accY := 0
  accZ := 0
  rumbleOn := false
  irRegs := fun _ => 0
  extensionRegs := fun _ => 0
  extensionKey := .zero
  extensionKeyDirty := false
  curExtension := .none
  newExtension := .none
  eeprom := fun _ => 0
  readRequest := ⟨0, 0, 0, 0⟩

def fakeWiimoteSetExtension (wiimote : Session) (ext : WiimoteExt) : Session :=
  { wiimote with newExtension := ext }

def fakeWiimoteReportInput (wiimote : Session) (buttons : UInt16) : Session :=
  if wiimote.buttons ≠ buttons then { wiimote with buttons := buttons, inputDirty := true }
  else wiimote

def fakeWiimoteReportAccelerometer (wiimote : Session) (accX accY accZ : UInt16) : Session :=
  { wiimote with
    accX := accX &&& (0x3FF : UInt16)
    accY := accY &&& (0x3FF : UInt16)
    accZ := accZ &&& (0x3FF : UInt16) }

def irDotBytes (dot : IrDot) : List UInt8 :=
  [dot.x.toUInt8, dot.y.toUInt8,
   (((dot.y &&& (0x300 : UInt16)) >>> (2 : UInt16)) |||
     ((dot.x &&& (0x300 : UInt16)) >>> (4 : UInt16))).toUInt8 ||| irDotSize]

def irCameraData (mode : UInt8) (first second : IrDot) : List UInt8 :=
  if mode = irModeBasic then
    let high (coordinate : UInt16) : UInt8 :=
      ((coordinate >>> (8 : UInt16)) &&& (3 : UInt16)).toUInt8
    [first.x.toUInt8, first.y.toUInt8,
     (high first.y <<< (6 : UInt8)) ||| (high first.x <<< (4 : UInt8)) |||
       (high second.y <<< (2 : UInt8)) ||| high second.x,
     second.x.toUInt8, second.y.toUInt8, 0xFF, 0xFF, 0xFF, 0xFF, 0xFF]
  else if mode = irModeExtended then
    irDotBytes first ++ irDotBytes second ++ [0xFF, 0xFF, 0xF0, 0xFF, 0xFF, 0xF0]
  else if mode = irModeFull then
    irDotBytes first ++ [0, 0x7F, 0, 0x7F, 0, 0xFF] ++
      irDotBytes second ++ [0, 0x7F, 0, 0x7F, 0, 0xFF] ++ List.replicate 18 0xFF
  else List.replicate cameraDataBytes 0xFF

def fakeWiimoteReportIrDots (wiimote : Session) (irDots : List IrDot) : Session :=
  let dot (n : Nat) : IrDot := irDots.getD n ⟨0, 0⟩
  { wiimote with
    irRegs := wiimote.irRegs.write irRegsCameraData
      (irCameraData (wiimote.irRegs irRegsMode) (dot 0) (dot 1)) }

def fakeWiimoteReportInputExt (wiimote : Session) (egc : Platform) (buttons : UInt16)
    (extData : List UInt8) : Session :=
  let btnChanged := wiimote.buttons ≠ buttons
  let extCmp :=
    egc.memmismatch (wiimote.extensionRegs.read controllerDataOffset extData.length) extData
  if btnChanged ∨ extCmp ≠ extData.length then
    { wiimote with
      buttons := buttons
      inputDirty := true
      extensionRegs :=
        if extCmp ≠ extData.length then
          wiimote.extensionRegs.write (controllerDataOffset + extCmp) (extData.drop extCmp)
        else wiimote.extensionRegs }
  else wiimote

-- Register files. A failed access gives `none`.

def irCameraReadData (wiimote : Session) (address size : Nat) : Option (List UInt8) :=
  if irRegsSize < address + size then none
  else some (wiimote.irRegs.read address size)

def irCameraWriteData (wiimote : Session) (src : List UInt8) (address : Nat) :
    Option Session :=
  if irRegsSize < address + src.length then none
  else some { wiimote with irRegs := wiimote.irRegs.write address src }

/-- The key is generated lazily, on the first encrypted read after it changed. -/
def extensionReadData (memory : Nat → UInt8) (wiimote : Session) (address size : Nat) :
    Option (Session × List UInt8) :=
  if extensionRegsSize < address + size then none
  else
    let data := wiimote.extensionRegs.read address size
    if wiimote.extensionRegs encryptionOffset = encryptionEnabled then
      let wiimote :=
        if wiimote.extensionKeyDirty then
          { wiimote with
            extensionKey := wiimoteCryptoGenerateKeyFromExtensionKeyData memory
              (wiimote.extensionRegs.read encryptionKeyDataBegin
                (encryptionKeyDataEnd - encryptionKeyDataBegin))
            extensionKeyDirty := false }
        else wiimote
      some (wiimote, wiimoteCryptoEncrypt wiimote.extensionKey address data)
    else some (wiimote, data)

def extensionWriteData (wiimote : Session) (src : List UInt8) (address : Nat) :
    Option Session :=
  if extensionRegsSize < address + src.length then none
  else
    let keyArea := encryptionKeyDataBegin < address + src.length ∧ address < encryptionKeyDataEnd
    some { wiimote with
      extensionKeyDirty := if keyArea then true else wiimote.extensionKeyDirty
      extensionRegs := wiimote.extensionRegs.write address src }

end Session

end Fakemote
