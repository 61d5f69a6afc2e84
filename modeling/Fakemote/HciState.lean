import Fakemote.Base
import Fakemote.Library.FirstMatch

/-! `hci_state.c`: the snooped HCI state, the map between the connection handles of the host
(virtual) and of the dongle (physical), and what is done to the packets of the dongle. -/

namespace Fakemote

open Bytes FirstMatch

def maxHciConnections : Nat := 32

def maxFakeWiimotes : Nat := 2

structure MapEntry where
  valid : Bool
  virt : UInt16
  phys : UInt16
  deriving DecidableEq, Repr

/-- `hci_virt_con_handle_map_table` -/
structure ConHandleMap where
  entries : List MapEntry
  size : entries.length = maxHciConnections

namespace ConHandleMap

def empty : ConHandleMap := ⟨List.replicate maxHciConnections ⟨false, 0, 0⟩, by simp⟩

def live (table : ConHandleMap) : List MapEntry := table.entries.filter (·.valid)

def invalidate (table : ConHandleMap) : ConHandleMap :=
  ⟨table.entries.map fun e => { e with valid := false }, by simp [table.size]⟩

def hciVirtConHandleMap (table : ConHandleMap) (phys virt : UInt16) : Option ConHandleMap :=
  if table.entries.any fun e => !e.valid then
    some ⟨replaceFirst (fun e => !e.valid) (fun _ => ⟨true, virt, phys⟩) table.entries,
      by simp [table.size]⟩
  else none

def hciVirtConHandleUnmapVirt (table : ConHandleMap) (virt : UInt16) : Option ConHandleMap :=
  if table.entries.any fun e => e.valid && e.virt == virt then
    some ⟨replaceFirst (fun e => e.valid && e.virt == virt) (fun e => { e with valid := false })
        table.entries,
      by simp [table.size]⟩
  else none

def hciVirtConHandleGetVirt (table : ConHandleMap) (phys : UInt16) : Option UInt16 :=
  (table.entries.find? fun e => e.valid && e.phys == phys).map (·.virt)

def hciVirtConHandleGetPhys (table : ConHandleMap) (virt : UInt16) : Option UInt16 :=
  (table.entries.find? fun e => e.valid && e.virt == virt).map (·.phys)

end ConHandleMap

/-- `allocated` is history: the virtual handles given out since the last reset. -/
structure HciState where
  hciUnitClass : List UInt8
  hciPageScanEnable : UInt8
  hciReadStoredLinkKeyReadAll : UInt8
  lastHciVirtConHandle : UInt16
  table : ConHandleMap
  allocated : List UInt16

def HciState.init : HciState where
  hciUnitClass := List.replicate hciClassSize 0
  hciPageScanEnable := 0
  hciReadStoredLinkKeyReadAll := 0
  lastHciVirtConHandle := 0
  table := .empty
  allocated := []

def hciStateReset (hci : HciState) : HciState where
  hciUnitClass := List.replicate hciClassSize 0
  hciPageScanEnable := 0
  hciReadStoredLinkKeyReadAll := 0
  lastHciVirtConHandle := 0
  table := hci.table.invalidate
  allocated := []

def hciConHandleVirtAlloc (hci : HciState) : UInt16 × HciState :=
  (hci.lastHciVirtConHandle,
    { hci with
      lastHciVirtConHandle := (hci.lastHciVirtConHandle + 1) &&& (0x0EFF : UInt16)
      allocated := hci.allocated ++ [hci.lastHciVirtConHandle] })

def hciCanRequestConnection (hci : HciState) : Bool :=
  hci.hciPageScanEnable &&& hciPageScanEnable ≠ 0

/-- The events whose handle is only translated, with its offset in the parameters. -/
def translatedEvents : List (UInt8 × Nat) :=
  [(hciEventAuthCompl, 1), (hciEventEncryptionChange, 1), (hciEventChangeConLinkKeyCompl, 1),
   (hciEventMasterLinkKeyCompl, 1), (hciEventReadRemoteFeaturesCompl, 1),
   (hciEventReadRemoteVerInfoCompl, 1), (hciEventQosSetupCompl, 1), (hciEventFlushOccur, 0),
   (hciEventModeChange, 1), (hciEventMaxSlotChange, 0), (hciEventReadClockOffsetCompl, 1),
   (hciEventConPktTypeChanged, 1), (hciEventQosViolation, 0), (hciEventFlowSpecificationCompl, 1),
   (hciEventReadRemoteExtendedFeatures, 1), (hciEventScoConCompl, 1), (hciEventScoConChanged, 1),
   (hciEventSniffSubrating, 1), (hciEventEncryptionKeyRefresh, 1),
   (hciEventLinkSupervisionToChanged, 0), (hciEventEnhancedFlushCompl, 0)]

def translateToVirt (table : ConHandleMap) (data : List UInt8) (offset : Nat) :
    Except Fault (List UInt8) := do
  let phys := le16toh (← load16 data offset)
  let virt ← orFault (.assertion .conHandleGetVirt) (table.hciVirtConHandleGetVirt phys)
  store16 data offset (htole16 virt)

/-- The entries of a Number Of Completed Packets event, from the `count`-th last on. -/
def translateNumComplPkts (table : ConHandleMap) :
    (count offset : Nat) → List UInt8 → Except Fault (List UInt8)
  | 0, _, data => .ok data
  | count + 1, offset, data => do
      let data ← translateToVirt table data offset
      translateNumComplPkts table count (offset + 4) data

def handleConCompl (hci : HciState) (data : List UInt8) :
    Except Fault (HciState × List UInt8) := do
  let status ← load8 data (hciEventHdrSize + 0)
  if status = 0 then do
    let phys ← load16 data (hciEventHdrSize + 1)
    let (virt, hci) := hciConHandleVirtAlloc hci
    let table ← orFault (.assertion .conHandleMap)
      (hci.table.hciVirtConHandleMap (le16toh phys) virt)
    let data ← store16 data (hciEventHdrSize + 1) (htole16 virt)
    return ({ hci with table := table }, data)
  else return (hci, data)

def handleDisconCompl (hci : HciState) (data : List UInt8) :
    Except Fault (HciState × List UInt8) := do
  let status ← load8 data (hciEventHdrSize + 0)
  if status = 0 then do
    let phys ← load16 data (hciEventHdrSize + 1)
    let virt ← orFault (.assertion .conHandleGetVirt)
      (hci.table.hciVirtConHandleGetVirt (le16toh phys))
    let table ← orFault (.assertion .conHandleUnmap) (hci.table.hciVirtConHandleUnmapVirt virt)
    let data ← store16 data (hciEventHdrSize + 1) (htole16 virt)
    return ({ hci with table := table }, data)
  else return (hci, data)

/-- Only the reply to Read Stored Link Key is patched, to count the fake Wiimotes' keys. -/
def handleCommandCompl (hci : HciState) (data : List UInt8) :
    Except Fault (HciState × List UInt8) := do
  let opcode := le16toh (← load16 data (hciEventHdrSize + 1))
  if opcode = hciCmdReadStoredLinkKey then do
    let maxNumKeys := le16toh (← load16 data (hciEventHdrSize + 4))
    let numKeysRead := le16toh (← load16 data (hciEventHdrSize + 6))
    if hci.hciReadStoredLinkKeyReadAll ≠ 0 then do
      let more := UInt16.ofNat maxFakeWiimotes
      let data ← store16 data (hciEventHdrSize + 4) (htole16 (maxNumKeys + more))
      let data ← store16 data (hciEventHdrSize + 6) (htole16 (numKeysRead + more))
      return (hci, data)
    else return (hci, data)
  else return (hci, data)

def hciStateHandleHciEventFromController (hci : HciState) (data : List UInt8) :
    Except Fault (HciState × List UInt8) := do
  let event ← load8 data 0
  if event = hciEventConCompl then handleConCompl hci data
  else if event = hciEventDisconCompl then handleDisconCompl hci data
  else if event = hciEventCommandCompl then handleCommandCompl hci data
  else if event = hciEventNumComplPkts then do
    let count ← load8 data hciEventHdrSize
    let data ← translateNumComplPkts hci.table count.toNat (hciEventHdrSize + 1) data
    return (hci, data)
  else
    match translatedEvents.lookup event with
    | some offset => do
        let data ← translateToVirt hci.table data (hciEventHdrSize + offset)
        return (hci, data)
    | none => return (hci, data)

def hciStateHandleAclDataInResponseFromController (hci : HciState) (data : List UInt8) :
    Except Fault (List UInt8) := do
  let handlePbBc := le16toh (← load16 data 0)
  let phys := hciConHandle handlePbBc
  let virt ← orFault (.assertion .conHandleGetVirt) (hci.table.hciVirtConHandleGetVirt phys)
  store16 data 0 (htole16 (hciMkConHandle virt (hciPbFlag handlePbBc) (hciBcFlag handlePbBc)))

/-- The commands whose handle is translated; it is always the first parameter. -/
def translatedCommands : List UInt16 :=
  [hciCmdDisconnect, hciCmdAddScoCon, hciCmdChangeConPacketType, hciCmdAuthReq,
   hciCmdSetConEncryption, hciCmdChangeConLinkKey, hciCmdReadRemoteFeatures,
   hciCmdReadRemoteExtendedFeatures, hciCmdReadRemoteVerInfo, hciCmdReadClockOffset,
   hciCmdReadLmpHandle, hciCmdSetupScoCon, hciCmdHoldMode, hciCmdSniffMode, hciCmdExitSniffMode,
   hciCmdParkMode, hciCmdExitParkMode, hciCmdQosSetup, hciCmdRoleDiscovery,
   hciCmdReadLinkPolicySettings, hciCmdWriteLinkPolicySettings, hciCmdFlowSpecification,
   hciCmdSniffSubrating, hciCmdFlush, hciCmdReadAutoFlushTimeout, hciCmdWriteAutoFlushTimeout,
   hciCmdReadXmitLevel, hciCmdReadLinkSupervisionTimeout, hciCmdWriteLinkSupervisionTimeout,
   hciCmdRefreshEncryptionKey, hciCmdEnhancedFlush, hciCmdReadFailedContactCntr,
   hciCmdResetFailedContactCntr, hciCmdReadLinkQuality, hciCmdReadRssi, hciCmdReadAfhChannelMap,
   hciCmdReadClock]

def translateToPhys (table : ConHandleMap) (data : List UInt8) (offset : Nat) :
    Except Fault (List UInt8) := do
  let virt := le16toh (← load16 data offset)
  let phys ← orFault (.assertion .conHandleGetPhys) (table.hciVirtConHandleGetPhys virt)
  store16 data offset (htole16 phys)

/-- What is left to do with a command that no fake Wiimote handled. -/
def snoopHciCmd (hci : HciState) (opcode : UInt16) (data : List UInt8) :
    Except Fault (HciState × List UInt8) := do
  if opcode = hciCmdCreateCon then .error (.assertion .createCon)
  else if opcode = hciCmdWriteScanEnable then do
    let scanEnable ← load8 data hciCmdHdrSize
    return ({ hci with hciPageScanEnable := scanEnable }, data)
  else if opcode = hciCmdWriteUnitClass then do
    let uclass ← loadBytes data hciCmdHdrSize hciClassSize
    return ({ hci with hciUnitClass := uclass }, data)
  else if opcode = hciCmdReset then return (hciStateReset hci, data)
  else if opcode = hciCmdReadStoredLinkKey then do
    let readAll ← load8 data (hciCmdHdrSize + 6)
    return ({ hci with hciReadStoredLinkKeyReadAll := readAll }, data)
  else if opcode = hciCmdHostNumComplPkts then .error (.assertion .hostNumComplPkts)
  else if opcode ∈ translatedCommands then do
    let data ← translateToPhys hci.table data hciCmdHdrSize
    return (hci, data)
  else return (hci, data)

def translateAclOut (hci : HciState) (data : List UInt8) : Except Fault (List UInt8) := do
  let handlePbBc := le16toh (← load16 data 0)
  let virt := hciConHandle handlePbBc
  let phys ← orFault (.assertion .conHandleGetPhys) (hci.table.hciVirtConHandleGetPhys virt)
  store16 data 0 (htole16 (hciMkConHandle phys (hciPbFlag handlePbBc) (hciBcFlag handlePbBc)))

end Fakemote
