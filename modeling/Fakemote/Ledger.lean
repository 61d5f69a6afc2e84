import Fakemote.Main
import Fakemote.Library.Labelled

/-! The module as a ledger of who owns which connection and which controller: an abstract machine
over the core, the events placed in the host's queue and the controllers suspended, that leaves
out memory, queues and sessions. -/

namespace Fakemote

open Bytes

def conReqEvent (bdaddr : BdAddr) : List UInt8 :=
  [hciEventConReq, 10] ++ (bdaddr.val ++ [wiimoteHciClass0, wiimoteHciClass1, wiimoteHciClass2,
    hciLinkAcl])

def conComplEvent (bdaddr : BdAddr) (conHandle : UInt16) : List UInt8 :=
  [hciEventConCompl, 11] ++
    ([0] ++ bytes16 (htole16 conHandle) ++ bdaddr.val ++ [hciLinkAcl, hciEncryptionModeNone])

def disconComplEvent (conHandle : UInt16) : List UInt8 :=
  [hciEventDisconCompl, 4] ++ ([0] ++ bytes16 (htole16 conHandle) ++ [0x13])

def numComplPktsEvent (entries : List (UInt16 × UInt16)) : List UInt8 :=
  let numConHandles := UInt8.ofNat entries.length
  [hciEventNumComplPkts, 1 + numConHandles * 4] ++
    ([numConHandles] ++
      entries.flatMap fun e => bytes16 (htole16 e.1) ++ bytes16 (htole16 e.2))

def ledgerCodes : List UInt8 :=
  [hciEventConReq, hciEventConCompl, hciEventDisconCompl, hciEventNumComplPkts]

/-- A controller that lost its fake Wiimote waits before it gets another. -/
def Core.release (core : Core) (d : SlotId) : Core :=
  core.setSlot d fun slot =>
    { slot with assignedWiimote := none, reconnectDelay := reconnectDelayTicks }

structure Ledger where
  core : Core
  events : List (List UInt8)
  lost : List UInt8
  produced : List Reply
  suspends : List (Option EgcDevice)

def World.ledger (s : World) : Ledger where
  core := s.core
  events := s.events
  lost := s.lostEvents
  produced := s.intr.produced
  suspends := s.periphery.suspends

@[simp] theorem ledger_core (s : World) : s.ledger.core = s.core := rfl

/-- The moves of the ledger. `placed` tells whether the event of the move reached the queue. -/
inductive Label
  | event (code : UInt8) (data : List UInt8) (placed : Bool)
  | snoop (hci : HciState)
  | assign (w : WiimoteId) (d : SlotId)
  | request (w : WiimoteId) (placed : Bool)
  | accept (w : WiimoteId)
  | disconnect (w : WiimoteId) (placed : Bool)
  | forget (w : WiimoteId)
  | consume (w : WiimoteId)
  | credit (placed : Bool)
  | plug (d : SlotId) (device : EgcDevice)
  | remove (d : SlotId) (placed : Bool)
  | tickSlots
  | reset
  | reply (retval : Int) (buffer tracked : List UInt8) (hci : HciState) (placed : Bool)

namespace Ledger

def place (a : Ledger) (code : UInt8) (data : List UInt8) (placed : Bool) : Ledger :=
  if placed then
    { a with events := a.events ++ [data], produced := a.produced ++ [⟨data.length, data⟩] }
  else { a with lost := a.lost ++ [code] }

def release (a : Ledger) : Option SlotId → Ledger
  | some d =>
      { a with
        core := a.core.release d
        suspends := a.suspends ++ [(a.core.slots d).device] }
  | none => a

def disconnect (a : Ledger) (w : WiimoteId) (placed : Bool) : Ledger :=
  let link := a.core.links w
  let released : Ledger :=
    release { a with core := a.core.setLink w fun link => { link with active := false } }
      link.inputDevice
  if link.basebandState = .complete then
    released.place hciEventDisconCompl (disconComplEvent link.hciConHandle) placed
  else released

def creditTotal (core : Core) : UInt32 :=
  ((connectedLinks core).map (·.numCompletedAclDataPackets)).foldl (· + ·) 0

def resetCount (link : Link) : Link :=
  if link.isConnected then { link with numCompletedAclDataPackets := 0 } else link

def remove (a : Ledger) (d : SlotId) (placed : Bool) : Ledger :=
  let unassigned : Ledger :=
    match (a.core.slots d).assignedWiimote with
    | some w =>
        disconnect { a with core := a.core.setLink w fun link => { link with inputDevice := none } }
          w placed
    | none => a
  { unassigned with core := unassigned.core.setSlot d fun slot => { slot with device := none } }

def act (a : Ledger) : Label → Ledger
  | .event code data placed => a.place code data placed
  | .snoop hci => { a with core := { a.core with hci := hci } }
  | .assign w d =>
      { a with
        core := (a.core.setSlot d fun slot => { slot with assignedWiimote := some w }).setLink w
          fun link =>
            { link with
              active := true
              basebandState := .requestConnection
              numCompletedAclDataPackets := 0
              inputDevice := some d } }
  | .request w placed =>
      let requested := a.place hciEventConReq (conReqEvent (a.core.links w).bdaddr) placed
      if placed then
        { requested with
          core := a.core.setLink w fun link => { link with basebandState := .inactive } }
      else requested
  | .accept w =>
      let (handle, hci) := hciConHandleVirtAlloc a.core.hci
      let core := { a.core with hci := hci }.setLink w fun link =>
        { link with basebandState := .complete, hciConHandle := handle }
      place { a with core := core } hciEventConCompl
        (conComplEvent (a.core.links w).bdaddr handle) true
  | .disconnect w placed => a.disconnect w placed
  | .forget w =>
      if (a.core.links w).active then
        let released := a.release (a.core.links w).inputDevice
        { released with
          core := released.core.setLink w fun link => { link with active := false } }
      else a
  | .consume w =>
      { a with
        core := a.core.setLink w fun link =>
          { link with numCompletedAclDataPackets := link.numCompletedAclDataPackets + 1 } }
  | .credit placed =>
      let core := (a.core.setLink 0 resetCount).setLink 1 resetCount
      if creditTotal a.core > 0 then
        place { a with core := core } hciEventNumComplPkts
          (numComplPktsEvent ((connectedLinks a.core).map numComplPktsEntry)) placed
      else { a with core := core }
  | .plug d device => { a with core := a.core.setSlot d fun _ => ⟨some device, none, 0⟩ }
  | .remove d placed => a.remove d placed
  | .tickSlots => { a with core := (a.core.setSlot 0 Slot.tick).setSlot 1 Slot.tick }
  | .reset => { a with core := { a.core with hci := hciStateReset a.core.hci } }
  | .reply retval _ tracked hci placed =>
      { a with
        core := { a.core with hci := hci }
        produced :=
          if placed then a.produced ++ [Endpoint.handDownContent retval tracked]
          else a.produced }

/-- What the module has made sure of when it makes a move. -/
def Enabled (a : Ledger) : Label → Prop
  | .event code data placed =>
      code ∉ ledgerCodes ∧ (placed = true → ∃ rest, data = code :: rest)
  | .snoop hci =>
      hci.table = a.core.hci.table ∧ hci.allocated = a.core.hci.allocated ∧
        hci.lastHciVirtConHandle = a.core.hci.lastHciVirtConHandle
  | .assign w d =>
      (a.core.links w).active = false ∧ inputDeviceGetUnassigned a.core = some d
  | .request w _ =>
      (a.core.links w).active = true ∧ (a.core.links w).basebandState = .requestConnection
  | .consume w => (a.core.links w).isConnected = true
  | .plug d _ => freeSlot a.core = some d
  | .remove d _ => (a.core.slots d).device.isSome
  | .reply retval buffer tracked hci _ =>
      if 0 < retval then
        hciStateHandleHciEventFromController a.core.hci buffer = .ok (hci, tracked)
      else hci = a.core.hci ∧ tracked = buffer
  | _ => True

abbrev Path (a : Ledger) (labels : List Label) (b : Ledger) : Prop :=
  Labelled.Path Enabled act a labels b

abbrev Along (safe : Core → Label → Prop) (a : Ledger) (labels : List Label) : Prop :=
  Labelled.Along act (fun a => safe a.core) a labels

end Ledger

end Fakemote
