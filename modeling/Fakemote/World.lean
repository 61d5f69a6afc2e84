import Fakemote.HciState
import Fakemote.Endpoint
import Fakemote.ButtonMap
import Fakemote.WiimoteCrypto
import Fakemote.Library.DiffCopy

/-! The static state of the module. `fake_wiimote_t` and `input_device_t` are split in two: the
fields that say who owns which connection and which controller (`Link` and `Slot`, together with
the HCI state the `Core`), and the fields of one session (`Session` and `Mapping`). -/

namespace Fakemote

open Bytes Program

instance neZeroTwo : @NeZero Nat Zero.ofOfNat0 2 := ⟨Nat.succ_ne_zero 1⟩

/-- Indices of `fake_wiimotes`; there are `MAX_FAKE_WIIMOTES` of them. -/
abbrev WiimoteId := Fin 2

theorem zero_or_one : ∀ w : WiimoteId, w = 0 ∨ w = 1 := by decide

/-- Indices of `input_devices`; there are `MAX_INPUT_DEVS` of them. -/
abbrev SlotId := Fin 2

inductive BasebandState
  | inactive
  | requestConnection
  | complete
  deriving DecidableEq, Repr

inductive AclState
  | inactive
  | linking
  deriving DecidableEq, Repr

inductive L2capChannelState
  | inactive
  | configPend
  | complete
  deriving DecidableEq, Repr

structure L2capChannelInfo where
  valid : Bool
  state : L2capChannelState
  psm : UInt16
  localCid : UInt16
  remoteCid : UInt16
  remoteMtu : UInt16
  deriving DecidableEq, Repr

/-- The fields of `fake_wiimote_t` about its connection and its controller. -/
structure Link where
  active : Bool
  bdaddr : BdAddr
  hciConHandle : UInt16
  basebandState : BasebandState
  numCompletedAclDataPackets : UInt32
  inputDevice : Option SlotId
  deriving DecidableEq, Repr

structure ReadRequest where
  space : UInt8
  slaveAddress : UInt8
  address : UInt16
  size : UInt16
  deriving DecidableEq, Repr

/-- The fields of `fake_wiimote_t` that only its L2CAP and HID session uses. -/
structure Session where
  aclState : AclState
  psmSdpChn : L2capChannelInfo
  psmHidCntlChn : L2capChannelInfo
  psmHidIntrChn : L2capChannelInfo
  reportingMode : UInt8
  reportingContinuous : Bool
  leds : UInt8
  ir : Bool
  buttons : UInt16
  inputDirty : Bool
  accX : UInt16
  accY : UInt16
  accZ : UInt16
  rumbleOn : Bool
  irRegs : Registers
  extensionRegs : Registers
  extensionKey : WiimoteEncryptionKey
  extensionKeyDirty : Bool
  curExtension : WiimoteExt
  newExtension : WiimoteExt
  eeprom : Registers
  readRequest : ReadRequest

structure EgcDescription where
  availableButtons : UInt32
  numTouchPoints : Nat
  numAccelerometers : Nat
  deriving DecidableEq, Repr

/-- A game controller; `id` stands for the address of its `egc_input_device_t`. -/
structure EgcDevice where
  id : Nat
  desc : EgcDescription
  deriving DecidableEq, Repr

structure Gamepad where
  buttons : UInt32
  axes : Nat → Int16
  touchX : Int16
  touchY : Int16
  accelX : UInt16
  accelY : UInt16
  accelZ : UInt16

/-- The fields of `input_device_t` about its controller and its fake Wiimote. -/
structure Slot where
  device : Option EgcDevice
  assignedWiimote : Option WiimoteId
  reconnectDelay : UInt32
  deriving DecidableEq, Repr

/-- The fields of `input_device_t` about the mapping of its inputs. -/
structure Mapping where
  switchMappingCombo : UInt32
  switchIrEmuModeCombo : UInt32
  irEmuState : BmIrEmulationState
  switchMapping : Bool
  switchIrEmuMode : Bool
  extension : WiimoteExt
  irEmuModeIdx : Nat
  deriving DecidableEq, Repr

/-- Who owns which connection and which controller. -/
structure Core where
  hci : HciState
  links : WiimoteId → Link
  slots : SlotId → Slot

namespace Core

def setLink (core : Core) (w : WiimoteId) (f : Link → Link) : Core :=
  { core with links := Function.update core.links w (f (core.links w)) }

def setSlot (core : Core) (d : SlotId) (f : Slot → Slot) : Core :=
  { core with slots := Function.update core.slots d (f (core.slots d)) }

end Core

/-- The injection heap. `outcome n` is the answer to the `n`-th allocation: NULL, or a block with
what its memory holds. Blocks are named by the call that allocated them; `blocks` is history. -/
structure Heap where
  outcome : Nat → Option (Nat → UInt8)
  calls : Nat
  blocks : List Nat

/-- What the code gets from outside: the button and axis numbers of the controller library, the
bytes that follow the S-boxes in memory, the bytes that uninitialised locals hold, and the library
function `memmismatch`, which gives the first index at which two blocks of one size differ, or the
size. -/
structure Platform where
  buttonCount : Nat
  axisCount : Nat
  north : Nat
  east : Nat
  south : Nat
  west : Nat
  dpadUp : Nat
  dpadDown : Nat
  dpadLeft : Nat
  dpadRight : Nat
  start : Nat
  back : Nat
  leftStick : Nat
  rightStick : Nat
  leftShoulder : Nat
  rightShoulder : Nat
  leftPaddle1 : Nat
  rightPaddle1 : Nat
  axisLeftX : Nat
  axisLeftY : Nat
  axisRightX : Nat
  axisRightY : Nat
  touchRes : Int
  memory : Nat → UInt8
  stack : Nat → UInt8
  memmismatch : List UInt8 → List UInt8 → Nat
  memmismatch_first : ∀ a b, a.length = b.length → memmismatch a b = DiffCopy.firstDifference a b

inductive EgcCall
  | resume (device : Option EgcDevice)
  | suspend (device : Option EgcDevice)
  | setLeds (device : Option EgcDevice) (leds : UInt8)
  | setRumble (device : Option EgcDevice) (on : Bool)
  deriving DecidableEq, Repr

/-- What the sessions read and write, the ACL-in endpoint included. `egcCalls` is history. -/
structure Periphery where
  sessions : WiimoteId → Session
  mappings : SlotId → Mapping
  gamepads : Nat → Gamepad
  bulkIn : Endpoint
  heap : Heap
  startingId : UInt16
  sensorBarPositionTop : Bool
  platform : Platform
  stackReads : Nat
  egcCalls : List EgcCall

def Periphery.suspends (p : Periphery) : List (Option EgcDevice) :=
  p.egcCalls.filterMap fun
    | .suspend device => some device
    | _ => none

/-- `events` and `lostEvents` are history: the events injected, and the codes of those that were
not for want of memory or of room in the queue. -/
structure World where
  core : Core
  intr : Endpoint
  periphery : Periphery
  events : List (List UInt8)
  lostEvents : List UInt8

abbrev M (α : Type) := Prog World Fault α

/-- Session code reads the core and does not change it. -/
abbrev P (α : Type) := Prog Periphery Fault α

def withPeriphery {α : Type} (body : Core → P α) : M α := fun s =>
  zoom World.periphery (fun s p => { s with periphery := p }) (body s.core) s

def modifyCore (f : Core → Core) : M Unit := modify fun s => { s with core := f s.core }

def modifyHci (f : HciState → HciState) : M Unit :=
  modifyCore fun core => { core with hci := f core.hci }

def modifyLink (w : WiimoteId) (f : Link → Link) : M Unit :=
  modifyCore fun core => core.setLink w f

def modifySlot (d : SlotId) (f : Slot → Slot) : M Unit :=
  modifyCore fun core => core.setSlot d f

def getLink (w : WiimoteId) : M Link := do
  let s ← get
  return s.core.links w

def modifySession (w : WiimoteId) (f : Session → Session) : P Unit :=
  modify fun p => { p with sessions := Function.update p.sessions w (f (p.sessions w)) }

def modifyMapping (d : SlotId) (f : Mapping → Mapping) : P Unit :=
  modify fun p => { p with mappings := Function.update p.mappings d (f (p.mappings d)) }

def getSession (w : WiimoteId) : P Session := do
  let p ← get
  return p.sessions w

def callEgc (call : EgcCall) : P Unit :=
  modify fun p => { p with egcCalls := p.egcCalls ++ [call] }

def stackBytes (count : Nat) : P (List UInt8) := do
  let p ← get
  modify fun p => { p with stackReads := p.stackReads + count }
  return (List.range count).map fun i => p.platform.stack (p.stackReads + i)

def deref {α : Type} : Option α → Except Fault α
  | some a => .ok a
  | none => .error .nullPointer

end Fakemote
