import Fakemote.FakeWiimoteMgr

/-! The handlers of host packets of `hci_state.c`, the hooks of `main.c`, and the module as a
machine that takes one message, reply or timer event after the other. -/

namespace Fakemote

open Bytes Program

-- Host packets. The results are `fwd_to_usb` and the packet as it is forwarded.

def hciStateHandleHciCmdFromHost (data : List UInt8) : M (Bool × List UInt8) := do
  let opcode := le16toh (← load16 data 0)
  let handled ← fakeWiimoteMgrHandleHciCmdFromHost opcode (data.drop hciCmdHdrSize)
  if handled then return (false, data)
  else do
    let s ← get
    let (hci, data) ← snoopHciCmd s.core.hci opcode data
    modifyHci fun _ => hci
    return (true, data)

def hciStateHandleAclDataOutRequestFromHost (data : List UInt8) : M (Bool × List UInt8) := do
  let handlePbBc := le16toh (← load16 data 0)
  let virt := hciConHandle handlePbBc
  let handled ← fakeWiimoteMgrHandleAclDataOutRequestFromHost virt data
  if handled then return (false, data)
  else do
    let s ← get
    let data ← translateAclOut s.core.hci data
    return (true, data)

inductive EndpointId
  | intr
  | bulkIn
  deriving DecidableEq, Repr

def modifyEndpoint (ep : EndpointId) (f : Endpoint → Endpoint) : M Unit :=
  match ep with
  | .intr => modify fun s => { s with intr := f s.intr }
  | .bulkIn => modify fun s =>
      { s with periphery := { s.periphery with bulkIn := f s.periphery.bulkIn } }

def World.endpoint (s : World) : EndpointId → Endpoint
  | .intr => s.intr
  | .bulkIn => s.periphery.bulkIn

def handleBufferRequest (ep : EndpointId) (msg : IpcMessage) : M Unit := do
  let s ← get
  let (e, _) ← (s.endpoint ep).receiveMessage msg
  modifyEndpoint ep fun _ => e

/-- Let the HCI tracker see what came from the dongle; a length that is not positive is an
error. -/
def trackReply (ep : EndpointId) (retval : Int) (buffer : List UInt8) : M (List UInt8) :=
  if 0 < retval then do
    let s ← get
    match ep with
    | .intr => do
        let (hci, buffer) ← hciStateHandleHciEventFromController s.core.hci buffer
        modifyHci fun _ => hci
        return buffer
    | .bulkIn => do
        let buffer ← hciStateHandleAclDataInResponseFromController s.core.hci buffer
        return buffer
  else return buffer

/-- `OH1_IOS_ResourceReply_hook` for a hand-down message; OH1 wrote `written` to its buffer. -/
def oh1ResourceReply (ep : EndpointId) (retval : Int) (written : List UInt8) : M Unit := do
  let s ← get
  let buffer ← trackReply ep retval ((s.endpoint ep).filled written)
  modifyEndpoint ep fun e => (e.resourceReply retval buffer).1

inductive EgcEvent
  | added (device : EgcDevice)
  | removed (device : Nat)
  | input (device : Nat) (state : Gamepad)

def handleEgcEvent : EgcEvent → M Unit
  | .added device => inputDeviceHandleAdded device
  | .removed device => inputDeviceHandleRemoved device
  | .input device state => withPeriphery fun _ => modify fun p =>
      { p with gamepads := Function.update p.gamepads device state }

def egcHandleEvents : List EgcEvent → M Unit
  | [] => pure ()
  | event :: events => do
      handleEgcEvent event
      egcHandleEvents events

def periodicTimer (events : List EgcEvent) : M Unit := do
  egcHandleEvents events
  inputDevicesTick
  fakeWiimoteMgrTickDevices

-- The machine. Host packets are the memory from their first byte.

inductive Input
  | hciCommand (data : List UInt8)
  | aclOut (data : List UInt8)
  | bufferRequest (ep : EndpointId) (msg : IpcMessage)
  | handDownReply (ep : EndpointId) (retval : Int) (written : List UInt8)
  | timer (events : List EgcEvent)

def handleInput : Input → M Unit
  | .hciCommand data => do
      let _ ← hciStateHandleHciCmdFromHost data
  | .aclOut data => do
      let _ ← hciStateHandleAclDataOutRequestFromHost data
  | .bufferRequest ep msg => handleBufferRequest ep msg
  | .handDownReply ep retval written => oh1ResourceReply ep retval written
  | .timer events => periodicTimer events

def step (s : World) (input : Input) : Except Fault World :=
  match handleInput input s with
  | .ok (_, t) => .ok t
  | .error fault => .error fault

/-- OH1 replies to a hand-down message only once, and writes no more than the buffer holds. -/
def Possible (s : World) : Input → Prop
  | .handDownReply ep _ written =>
      0 < (s.endpoint ep).outstanding ∧ written.length ≤ handDownMsgDataSize
  | _ => True

/-- What the outside world decides once: the answers of IOS, the platform, the configured
position of the sensor bar, and what the library knows of the game controllers. -/
structure Environment where
  heap : Nat → Option (Nat → UInt8)
  refuseIntr : Nat → Bool
  refuseBulkIn : Nat → Bool
  platform : Platform
  sensorBarPositionTop : Bool
  gamepads : Nat → Gamepad

def Link.zero : Link := ⟨false, ⟨[0, 0, 0, 0, 0, 0], rfl⟩, 0, .inactive, 0, none⟩

/-- The state after `ensure_initalized`. -/
def World.init (env : Environment) : World where
  core :=
    { hci := .init
      links := fun w => fakeWiimoteInit (fakeWiimoteBdaddr w) .zero
      slots := inputDevicesInit fun _ => ⟨none, none, 0⟩ }
  intr := .init 8 8 env.refuseIntr
  periphery :=
    { sessions := fun _ => .zero
      mappings := fun _ => .zero
      gamepads := env.gamepads
      bulkIn := .init 16 16 env.refuseBulkIn
      heap := ⟨env.heap, 0, []⟩
      startingId := 0x40
      sensorBarPositionTop := env.sensorBarPositionTop
      platform := env.platform
      stackReads := 0
      egcCalls := [] }
  events := []
  lostEvents := []

end Fakemote
