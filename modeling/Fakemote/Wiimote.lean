import Fakemote.Base

/-! `wiimote.h`: report ids, address spaces, layouts of the Wiimote's memories and reports. -/

namespace Fakemote

def hidTypeData : UInt8 := 0xA
def hidParamInput : UInt8 := 1
def hidParamOutput : UInt8 := 2

def wiimoteHciClass0 : UInt8 := 0x00
def wiimoteHciClass1 : UInt8 := 0x04
def wiimoteHciClass2 : UInt8 := 0x48

def wiimoteRemoteFeatures : List UInt8 := [0xBC, 0x02, 0x04, 0x38, 0x08, 0x00, 0x00, 0x00]
def wiimoteLmpVersion : UInt8 := 0x2
def wiimoteLmpSubversion : UInt16 := 0x229
def wiimoteManufacturerId : UInt16 := 0x000F

def wiiRequestMtu : UInt16 := 185
def wiimoteMaxPayload : Nat := 23

def inputReportIdStatus : UInt8 := 0x20
def inputReportIdReadDataReply : UInt8 := 0x21
def inputReportIdAck : UInt8 := 0x22
def inputReportIdReportDisabled : UInt8 := 0x00
def inputReportIdBtn : UInt8 := 0x30
def inputReportIdBtnAcc : UInt8 := 0x31
def inputReportIdBtnExp8 : UInt8 := 0x32
def inputReportIdBtnAccIr : UInt8 := 0x33
def inputReportIdBtnExp19 : UInt8 := 0x34
def inputReportIdBtnAccExp : UInt8 := 0x35
def inputReportIdBtnIrExp : UInt8 := 0x36
def inputReportIdBtnAccIrExp : UInt8 := 0x37
def inputReportIdExp21 : UInt8 := 0x3d

def outputReportIdRumble : UInt8 := 0x10
def outputReportIdLed : UInt8 := 0x11
def outputReportIdReportMode : UInt8 := 0x12
def outputReportIdIrEnable : UInt8 := 0x13
def outputReportIdSpeakerEnable : UInt8 := 0x14
def outputReportIdStatus : UInt8 := 0x15
def outputReportIdWriteData : UInt8 := 0x16
def outputReportIdReadData : UInt8 := 0x17
def outputReportIdSpeakerData : UInt8 := 0x18
def outputReportIdSpeakerMute : UInt8 := 0x19
def outputReportIdIrEnable2 : UInt8 := 0x1a

def errorCodeSuccess : UInt8 := 0
def errorCodeBusy : UInt8 := 4
def errorCodeInvalidSpace : UInt8 := 6
def errorCodeNack : UInt8 := 7
def errorCodeInvalidAddress : UInt8 := 8

def addressSpaceEeprom : UInt8 := 0x00
def addressSpaceI2cBus : UInt8 := 0x01
def addressSpaceI2cBusAlt : UInt8 := 0x02

def eepromI2cAddr : UInt8 := 0x50
def extensionI2cAddr : UInt8 := 0x52
def cameraI2cAddr : UInt8 := 0x58

def eepromFreeSize : Nat := 0x1700

def wiimoteButtonTwo : UInt16 := 0x0001
def wiimoteButtonOne : UInt16 := 0x0002
def wiimoteButtonB : UInt16 := 0x0004
def wiimoteButtonA : UInt16 := 0x0008
def wiimoteButtonMinus : UInt16 := 0x0010
def wiimoteButtonHome : UInt16 := 0x0080
def wiimoteButtonLeft : UInt16 := 0x0100
def wiimoteButtonRight : UInt16 := 0x0200
def wiimoteButtonDown : UInt16 := 0x0400
def wiimoteButtonUp : UInt16 := 0x0800
def wiimoteButtonPlus : UInt16 := 0x1000

def nunchukButtonZ : UInt8 := 0x01
def nunchukButtonC : UInt8 := 0x02

def classicCtrlButtonUp : UInt16 := 0x0001
def classicCtrlButtonLeft : UInt16 := 0x0002
def classicCtrlButtonZr : UInt16 := 0x0004
def classicCtrlButtonX : UInt16 := 0x0008
def classicCtrlButtonA : UInt16 := 0x0010
def classicCtrlButtonY : UInt16 := 0x0020
def classicCtrlButtonB : UInt16 := 0x0040
def classicCtrlButtonZl : UInt16 := 0x0080
def classicCtrlButtonFullR : UInt16 := 0x0200
def classicCtrlButtonPlus : UInt16 := 0x0400
def classicCtrlButtonHome : UInt16 := 0x0800
def classicCtrlButtonMinus : UInt16 := 0x1000
def classicCtrlButtonFullL : UInt16 := 0x2000
def classicCtrlButtonDown : UInt16 := 0x4000
def classicCtrlButtonRight : UInt16 := 0x8000
def classicCtrlButtonAll : UInt16 := 0xFEFF

def accelZeroG : UInt16 := (0x80 : UInt16) <<< (2 : UInt16)
def accelOneG : UInt16 := (0x9A : UInt16) <<< (2 : UInt16)

def irModeBasic : UInt8 := 1
def irModeExtended : UInt8 := 3
def irModeFull : UInt8 := 5

def irMaxDots : Nat := 4
def irLowX : Int := 0x7F
def irLowY : Int := 0x5D
def irHighX : Int := 0x380
def irHighY : Int := 0x2A2
def irCenterX : Int := (irHighX + irLowX) / 2
def irCenterY : Int := (irHighY + irLowY) / 2
def irHorizontalOffset : Int := 64
def irVerticalOffset : Int := 110
def irDotSize : UInt8 := 4
def irDotCenterMinX : Int := irLowX + irHorizontalOffset
def irDotCenterMaxX : Int := irHighX - irHorizontalOffset
def irDotCenterMinY : Int := irLowY + irVerticalOffset
def irDotCenterMaxY : Int := irHighY - irVerticalOffset

inductive WiimoteExt
  | none
  | nunchuk
  | classic
  | classicWiiuPro
  | guitar
  | motionPlus
  deriving DecidableEq, Repr

structure IrDot where
  x : UInt16
  y : UInt16
  deriving DecidableEq, Repr

def cameraDataBytes : Nat := 36
def controllerDataBytes : Nat := 21
def encryptionEnabled : UInt8 := 0xaa

def irRegsSize : Nat := 0x100
def irRegsMode : Nat := 0x33
def irRegsCameraData : Nat := 0x37

def extensionRegsSize : Nat := 0x100
def controllerDataOffset : Nat := 0x00
def encryptionKeyDataBegin : Nat := 0x40
def encryptionKeyDataEnd : Nat := 0x50
def encryptionOffset : Nat := 0xF0
def identifierOffset : Nat := 0xFA

def extIdCodeNunchuk : List UInt8 := [0x00, 0x00, 0xa4, 0x20, 0x00, 0x00]
def expIdCodeClassicController : List UInt8 := [0x00, 0x00, 0xa4, 0x20, 0x01, 0x01]
def expIdCodeClassicWiiuPro : List UInt8 := [0x00, 0x00, 0xa4, 0x20, 0x01, 0x20]
def expIdCodeGuitar : List UInt8 := [0x00, 0x00, 0xa4, 0x20, 0x01, 0x03]
def expIdCodeMotionPlus : List UInt8 := [0x00, 0x00, 0xA6, 0x20, 0x00, 0x05]

def inputReportHasBtn (rptId : UInt8) : Bool := rptId ≠ inputReportIdExp21

def inputReportAccSize (rptId : UInt8) : Nat :=
  if rptId = inputReportIdBtnAcc ∨ rptId = inputReportIdBtnAccIr ∨
      rptId = inputReportIdBtnAccExp ∨ rptId = inputReportIdBtnAccIrExp then 3
  else 0

def inputReportAccOffset (rptId : UInt8) : Nat :=
  if rptId = inputReportIdBtnAcc ∨ rptId = inputReportIdBtnAccIr ∨
      rptId = inputReportIdBtnAccExp ∨ rptId = inputReportIdBtnAccIrExp then 2
  else 0

def inputReportExtSize (rptId : UInt8) : Nat :=
  if rptId = inputReportIdBtnExp8 then 8
  else if rptId = inputReportIdBtnExp19 then 19
  else if rptId = inputReportIdBtnAccExp then 16
  else if rptId = inputReportIdBtnIrExp then 9
  else if rptId = inputReportIdBtnAccIrExp then 6
  else if rptId = inputReportIdExp21 then 21
  else 0

def inputReportExtOffset (rptId : UInt8) : Nat :=
  if rptId = inputReportIdBtnExp8 ∨ rptId = inputReportIdBtnExp19 then 2
  else if rptId = inputReportIdBtnAccExp then 5
  else if rptId = inputReportIdBtnIrExp then 12
  else if rptId = inputReportIdBtnAccIrExp then 15
  else 0

def inputReportIrSize (rptId : UInt8) : Nat :=
  if rptId = inputReportIdBtnAccIr then 12
  else if rptId = inputReportIdBtnIrExp ∨ rptId = inputReportIdBtnAccIrExp then 10
  else 0

def inputReportIrOffset (rptId : UInt8) : Nat :=
  if rptId = inputReportIdBtnAccIr ∨ rptId = inputReportIdBtnAccIrExp then 5
  else if rptId = inputReportIdBtnIrExp then 2
  else 0

end Fakemote
