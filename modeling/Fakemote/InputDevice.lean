import Fakemote.WiimoteState
import Mathlib.Algebra.Group.Nat.Defs

/-! `input_device.c`: the slots of the game controllers and the mapping of their inputs. The
handler of a removed controller needs `fake_wiimote_disconnect` and stands with it. -/

namespace Fakemote

open Program

def reconnectDelayTicks : UInt32 := 200

def bit (n : Nat) : UInt32 := UInt32.ofNat (2 ^ n)

-- The static mapping tables; entries that are not named are zero.

def tableEntry {α : Type} (zero : α) (table : List (Nat × α)) (index : Nat) : α :=
  (table.lookup index).getD zero

namespace Platform

variable (egc : Platform)

def wiimoteButtonMap : Nat → UInt16 :=
  tableEntry 0 [(egc.north, wiimoteButtonOne), (egc.east, wiimoteButtonB),
    (egc.south, wiimoteButtonA), (egc.west, wiimoteButtonTwo), (egc.dpadUp, wiimoteButtonUp),
    (egc.dpadDown, wiimoteButtonDown), (egc.dpadLeft, wiimoteButtonLeft),
    (egc.dpadRight, wiimoteButtonRight), (egc.start, wiimoteButtonPlus),
    (egc.back, wiimoteButtonMinus), (egc.leftStick, wiimoteButtonHome)]

def nunchukButtonMap : Nat → UInt8 :=
  tableEntry 0 [(egc.leftShoulder, nunchukButtonC), (egc.rightShoulder, nunchukButtonZ)]

def nunchukAnalogAxisMap : Nat → UInt8 :=
  tableEntry 0 [(egc.axisLeftX, bmNunchukAnalogAxisX), (egc.axisLeftY, bmNunchukAnalogAxisY)]

def classicButtonMap : Nat → UInt16 :=
  tableEntry 0 [(egc.north, classicCtrlButtonX), (egc.east, classicCtrlButtonA),
    (egc.south, classicCtrlButtonB), (egc.west, classicCtrlButtonY),
    (egc.dpadUp, classicCtrlButtonUp), (egc.dpadDown, classicCtrlButtonDown),
    (egc.dpadLeft, classicCtrlButtonLeft), (egc.dpadRight, classicCtrlButtonRight),
    (egc.start, classicCtrlButtonPlus), (egc.back, classicCtrlButtonMinus),
    (egc.rightPaddle1, classicCtrlButtonZr), (egc.leftPaddle1, classicCtrlButtonZl),
    (egc.rightShoulder, classicCtrlButtonFullR), (egc.leftShoulder, classicCtrlButtonFullL),
    (egc.leftStick, classicCtrlButtonHome)]

def classicAnalogAxisMap : Nat → UInt8 :=
  tableEntry 0 [(egc.axisLeftX, bmClassicAnalogAxisLeftX),
    (egc.axisLeftY, bmClassicAnalogAxisLeftY), (egc.axisRightX, bmClassicAnalogAxisRightX),
    (egc.axisRightY, bmClassicAnalogAxisRightY)]

def irAnalogAxisMap : Nat → UInt8 :=
  tableEntry 0 [(egc.axisRightX, bmIrAxisX), (egc.axisRightY, bmIrAxisY)]

end Platform

def irEmuModes : List BmIrEmulationMode := [.direct, .relativeAnalogAxis, .absoluteAnalogAxis]

/-- `BM_IR_EMULATION_MODE_DIRECT` as an integer; it is compared with an index of `ir_emu_modes`. -/
def bmIrEmulationModeDirect : Nat := 1

def Mapping.zero : Mapping where
  switchMappingCombo := 0
  switchIrEmuModeCombo := 0
  irEmuState := ⟨0, 0⟩
  switchMapping := false
  switchIrEmuMode := false
  extension := .none
  irEmuModeIdx := 0

def hasButton (device : EgcDevice) (button : Nat) : Bool :=
  device.desc.availableButtons &&& bit button ≠ 0

/-- The combination of two buttons, or none when the controller lacks one of them. -/
def switchCombo (device : EgcDevice) (first second : Nat) : UInt32 :=
  if hasButton device first ∧ hasButton device second then bit first ||| bit second else 0

def inputDevicesInit (slots : SlotId → Slot) : SlotId → Slot := fun d =>
  { slots d with device := none }

def inputDeviceFromEgc (core : Core) (device : Nat) : Option SlotId :=
  [0, 1].find? fun d => (core.slots d).device.any fun egc => egc.id = device

def freeSlot (core : Core) : Option SlotId :=
  [0, 1].find? fun d => (core.slots d).device.isNone

/-- The mapping of a slot that gets a controller; the switch flags keep their values. -/
def Mapping.added (egc : Platform) (device : EgcDevice) (mapping : Mapping) : Mapping :=
  { mapping with
    extension := .nunchuk
    irEmuModeIdx := bmIrEmulationModeDirect
    switchMappingCombo := switchCombo device egc.leftStick egc.leftShoulder
    switchIrEmuModeCombo := switchCombo device egc.rightStick egc.rightShoulder }

def inputDeviceHandleAdded (device : EgcDevice) : M Unit := do
  let s ← get
  match freeSlot s.core with
  | none => pure ()
  | some d => do
      modifySlot d fun _ => ⟨some device, none, 0⟩
      withPeriphery fun _ => modifyMapping d (Mapping.added s.periphery.platform device)

def Slot.tick (slot : Slot) : Slot :=
  if slot.device.isSome ∧ slot.assignedWiimote = none ∧ slot.reconnectDelay > 0 then
    { slot with reconnectDelay := slot.reconnectDelay - 1 }
  else slot

def inputDevicesTick : M Unit := do
  modifySlot 0 Slot.tick
  modifySlot 1 Slot.tick

def inputDeviceGetUnassigned (core : Core) : Option SlotId :=
  [0, 1].find? fun d =>
    (core.slots d).device.isSome && (core.slots d).assignedWiimote = none &&
      (core.slots d).reconnectDelay = 0

def inputDeviceAssignWiimote (d : SlotId) (w : WiimoteId) : M Unit :=
  modifySlot d fun slot => { slot with assignedWiimote := some w }

def inputDeviceReleaseWiimote (d : SlotId) : M Unit := do
  modifySlot d fun slot =>
    { slot with assignedWiimote := none, reconnectDelay := reconnectDelayTicks }
  withPeriphery fun core => callEgc (.suspend (core.slots d).device)

def inputDeviceResume (core : Core) (inputDevice : Option SlotId) : P Unit := do
  let d ← deref inputDevice
  callEgc (.resume (core.slots d).device)

def inputDeviceSetLeds (core : Core) (inputDevice : Option SlotId) (leds : UInt8) : P Unit := do
  let d ← deref inputDevice
  callEgc (.setLeds (core.slots d).device leds)

def inputDeviceSetRumble (core : Core) (inputDevice : Option SlotId) (rumbleOn : Bool) :
    P Unit := do
  let d ← deref inputDevice
  callEgc (.setRumble (core.slots d).device rumbleOn)

/-- The next mode; direct mode is skipped without a touchpad. The index is compared with the
number of the mode, which is that of the relative mode's entry. -/
def nextIrEmuModeIdx (device : EgcDevice) (idx : Nat) : Nat :=
  let next := (idx + 1) % irEmuModes.length
  if next = bmIrEmulationModeDirect ∧ device.desc.numTouchPoints = 0 then
    (next + 1) % irEmuModes.length
  else next

def stackIrDots : P (List IrDot) := do
  let bytes ← stackBytes (4 * irMaxDots)
  let word (n : Nat) : UInt16 := Bytes.word16 (bytes.getD (2 * n) 0) (bytes.getD (2 * n + 1) 0)
  return (List.range irMaxDots).map fun n => ⟨word (2 * n), word (2 * n + 1)⟩

def irDotsFor (p : Periphery) (input : Gamepad) (mapping : Mapping) (irDots : List IrDot) :
    BmIrEmulationState × List IrDot :=
  match irEmuModes.getD mapping.irEmuModeIdx .direct with
  | .none => (mapping.irEmuState, bmIrDotsSetOutOfScreen irDots)
  | .direct =>
      (mapping.irEmuState,
        bmMapIrDirect p.sensorBarPositionTop p.platform.touchRes input.touchX input.touchY irDots)
  | mode =>
      bmMapIrAnalogAxis p.sensorBarPositionTop mode mapping.irEmuState p.platform.axisCount
        input.axes p.platform.irAnalogAxisMap irDots

def reportMapped (egc : Platform) (input : Gamepad) (extension : WiimoteExt)
    (wiimote : Session) : Session :=
  let wiimoteButtons :=
    if extension = .nunchuk then
      bmMapWiimote egc.buttonCount input.buttons egc.wiimoteButtonMap 0
    else 0
  match extension with
  | .none => wiimote.fakeWiimoteReportInput wiimoteButtons
  | .nunchuk =>
      wiimote.fakeWiimoteReportInputExt egc wiimoteButtons
        (bmMapNunchuk egc.buttonCount input.buttons egc.axisCount input.axes 0 0 0
          egc.nunchukButtonMap egc.nunchukAnalogAxisMap)
  | .classic =>
      wiimote.fakeWiimoteReportInputExt egc wiimoteButtons
        (bmMapClassic egc.buttonCount input.buttons egc.axisCount input.axes egc.classicButtonMap
          egc.classicAnalogAxisMap)
  | _ => wiimote

/-- The last part of the function, once the mapping switches have been looked at. -/
def reportInputs (d : SlotId) (device : EgcDevice) (wiimote : Option WiimoteId) :
    P Unit := do
  let p ← get
  let input := p.gamepads device.id
  let w ← deref wiimote
  let irDots ← stackIrDots
  let (irEmuState, irDots) := irDotsFor p input (p.mappings d) irDots
  modifyMapping d fun mapping => { mapping with irEmuState := irEmuState }
  modifySession w fun dev =>
    let dev :=
      if device.desc.numAccelerometers > 0 then
        dev.fakeWiimoteReportAccelerometer input.accelX input.accelY input.accelZ
      else dev
    reportMapped p.platform input (p.mappings d).extension (dev.fakeWiimoteReportIrDots irDots)

/-- The other controls of the mapping: the second combination changes the IR emulation mode. -/
def checkSwitchIrEmuMode (d : SlotId) (device : EgcDevice) : P Unit := do
  let p ← get
  let mapping := p.mappings d
  let (pressed, held) := bmCheckSwitchMapping (p.gamepads device.id).buttons
    mapping.switchIrEmuMode mapping.switchIrEmuModeCombo
  modifyMapping d fun mapping => { mapping with switchIrEmuMode := held }
  when pressed (modifyMapping d fun mapping =>
    { mapping with
      irEmuModeIdx := nextIrEmuModeIdx device mapping.irEmuModeIdx
      irEmuState := bmIrEmulationStateReset })

/-- Returns false when the extension has just been switched. The reports go to the Wiimote that
the slot is assigned to. -/
def inputDeviceReportInput (core : Core) (inputDevice : Option SlotId) : P Bool := do
  let d ← deref inputDevice
  let slot := core.slots d
  let device ← deref slot.device
  let p ← get
  let mapping := p.mappings d
  let (pressed, held) := bmCheckSwitchMapping (p.gamepads device.id).buttons
    mapping.switchMapping mapping.switchMappingCombo
  modifyMapping d fun mapping => { mapping with switchMapping := held }
  if pressed then do
    let extension : WiimoteExt := if mapping.extension = .nunchuk then .classic else .nunchuk
    modifyMapping d fun mapping => { mapping with extension := extension }
    let w ← deref slot.assignedWiimote
    modifySession w fun dev => dev.fakeWiimoteSetExtension extension
    return false
  else do
    checkSwitchIrEmuMode d device
    reportInputs d device slot.assignedWiimote
    return true

end Fakemote
