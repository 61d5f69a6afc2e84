import Fakemote.World

/-! `injmessage.c`: messages for the host are allocated on the injection heap, filled and given to
the endpoint. Each writes its fields without a gap from the start of the block; what it does not
reach keeps the bytes of the heap. -/

namespace Fakemote

open Bytes Program

/-- What an injection allocates and writes. The bytes may come from memory that is not there. -/
structure Packet where
  size : UInt16
  bytes : Except Fault (List UInt8)

def Heap.injmessageAlloc (heap : Heap) (size : UInt16) : Heap × Option InjMessage :=
  match heap.outcome heap.calls with
  | none => ({ heap with calls := heap.calls + 1 }, none)
  | some junk =>
      ({ heap with calls := heap.calls + 1, blocks := heap.blocks ++ [heap.calls] },
        some ⟨heap.calls, (List.range size.toNat).map junk⟩)

def fillMessage (msg : InjMessage) (bytes : List UInt8) : Except Fault InjMessage :=
  if bytes.length ≤ msg.data.length then
    .ok { msg with data := bytes ++ msg.data.drop bytes.length }
  else .error .heapOverflow

/-- Allocate, fill and deliver; `data` is what the message held. -/
structure Injection where
  heap : Heap
  endpoint : Endpoint
  data : List UInt8
  ret : IosResult

def inject (heap : Heap) (endpoint : Endpoint) (packet : Packet) : Except Fault Injection := do
  match heap.injmessageAlloc packet.size with
  | (heap, none) => return ⟨heap, endpoint, [], .iosEnomem⟩
  | (heap, some msg) => do
      let msg ← fillMessage msg (← packet.bytes)
      let (endpoint, ret) := endpoint.handleBulkIntrReadyMessage (.injected msg)
      return ⟨heap, endpoint, msg.data, ret⟩

def hciEventMsg (event eventSize : UInt8) (fields : List UInt8) : Packet :=
  ⟨UInt16.ofNat (hciEventHdrSize + eventSize.toNat), .ok ([event, eventSize] ++ fields)⟩

def injectHciEvent (event eventSize : UInt8) (fields : List UInt8) : M IosResult := do
  let s ← get
  let done ← inject s.periphery.heap s.intr (hciEventMsg event eventSize fields)
  let placed := done.ret = .iosOk
  set { s with
    intr := done.endpoint
    periphery := { s.periphery with heap := done.heap }
    events := if placed then s.events ++ [done.data] else s.events
    lostEvents := if placed then s.lostEvents else s.lostEvents ++ [event] }
  return done.ret

def injectHciEventCommandStatus (opcode : UInt16) : M IosResult :=
  injectHciEvent hciEventCommandStatus 4 ([0, 1] ++ bytes16 (htole16 opcode))

def injectHciEventCommandCompl (opcode : UInt16) (payload : List UInt8) : M IosResult :=
  injectHciEvent hciEventCommandCompl (UInt8.ofNat (3 + payload.length))
    ([1] ++ bytes16 (htole16 opcode) ++ payload)

def injectHciEventConReq (bdaddr : BdAddr) (uclass0 uclass1 uclass2 linkType : UInt8) :
    M IosResult :=
  injectHciEvent hciEventConReq 10 (bdaddr.val ++ [uclass0, uclass1, uclass2, linkType])

def injectHciEventDisconCompl (conHandle : UInt16) (status reason : UInt8) : M IosResult :=
  injectHciEvent hciEventDisconCompl 4 ([status] ++ bytes16 (htole16 conHandle) ++ [reason])

def injectHciEventConCompl (bdaddr : BdAddr) (conHandle : UInt16) (status : UInt8) :
    M IosResult :=
  injectHciEvent hciEventConCompl 11
    ([status] ++ bytes16 (htole16 conHandle) ++ bdaddr.val ++ [hciLinkAcl, hciEncryptionModeNone])

def injectHciEventRoleChange (bdaddr : BdAddr) (role : UInt8) : M IosResult :=
  injectHciEvent hciEventRoleChange 8 ([0] ++ bdaddr.val ++ [role])

def injectHciEventNumComplPkts (entries : List (UInt16 × UInt16)) : M IosResult :=
  let numConHandles := UInt8.ofNat entries.length
  injectHciEvent hciEventNumComplPkts (1 + numConHandles * 4)
    ([numConHandles] ++
      entries.flatMap fun e => bytes16 (htole16 e.1) ++ bytes16 (htole16 e.2))

def injectHciEventModeChange (conHandle : UInt16) (unitMode : UInt8) (interval : UInt16) :
    M IosResult :=
  injectHciEvent hciEventModeChange 6
    ([0] ++ bytes16 (htole16 conHandle) ++ [unitMode] ++ bytes16 (htole16 interval))

def injectHciEventReturnLinkKeys (entries : List (BdAddr × List UInt8)) : M IosResult :=
  let numKeys := UInt8.ofNat entries.length
  injectHciEvent hciEventReturnLinkKeys (1 + numKeys * UInt8.ofNat (6 + hciKeySize))
    ([numKeys] ++ entries.flatMap fun e => e.1.val ++ e.2)

def injectHciEventConPktTypeChanged (conHandle pktType : UInt16) : M IosResult :=
  injectHciEvent hciEventConPktTypeChanged 5
    ([0] ++ bytes16 (htole16 conHandle) ++ bytes16 (htole16 pktType))

def injectHciEventAuthCompl (status : UInt8) (conHandle : UInt16) : M IosResult :=
  injectHciEvent hciEventAuthCompl 3 ([status] ++ bytes16 (htole16 conHandle))

/-- `name` ends with its NUL. -/
def injectHciEventRemoteNameReqCompl (status : UInt8) (bdaddr : BdAddr) (name : List UInt8) :
    M IosResult :=
  injectHciEvent hciEventRemoteNameReqCompl (UInt8.ofNat (1 + 6 + hciUnitNameSize))
    ([status] ++ bdaddr.val ++ name)

def injectHciEventReadRemoteFeaturesCompl (conHandle : UInt16) (features : List UInt8) :
    M IosResult :=
  injectHciEvent hciEventReadRemoteFeaturesCompl 11
    ([0] ++ bytes16 (htole16 conHandle) ++ features)

def injectHciEventReadRemoteVerInfoCompl (conHandle : UInt16) (lmpVersion : UInt8)
    (manufacturer lmpSubversion : UInt16) : M IosResult :=
  injectHciEvent hciEventReadRemoteVerInfoCompl 8
    ([0] ++ bytes16 (htole16 conHandle) ++ [lmpVersion] ++ bytes16 (htole16 manufacturer) ++
      bytes16 (htole16 lmpSubversion))

def injectHciEventReadClockOffsetCompl (conHandle clockOffset : UInt16) : M IosResult :=
  injectHciEvent hciEventReadClockOffsetCompl 5
    ([0] ++ bytes16 (htole16 conHandle) ++ bytes16 (htole16 clockOffset))

-- L2CAP packets, on the ACL-in endpoint. Sizes are `u16` and may wrap.

def hciAclMsg (hciConHandle aclPayloadSize : UInt16) (payload : Except Fault (List UInt8)) :
    Packet :=
  ⟨UInt16.ofNat hciAclDataHdrSize + aclPayloadSize, do
    return bytes16 (htole16 (hciMkConHandle hciConHandle hciPacketStart hciPoint2Point)) ++
      bytes16 (htole16 aclPayloadSize) ++ (← payload)⟩

def l2capMsg (hciConHandle dcid size : UInt16) (payload : Except Fault (List UInt8)) : Packet :=
  hciAclMsg hciConHandle (UInt16.ofNat l2capHdrSize + size) do
    return bytes16 (htole16 size) ++ bytes16 (htole16 dcid) ++ (← payload)

def l2capCmdMsg (hciConHandle : UInt16) (code ident : UInt8) (size : UInt16)
    (payload : Except Fault (List UInt8)) : Packet :=
  l2capMsg hciConHandle l2capSignalCid (UInt16.ofNat l2capCmdHdrSize + size) do
    return [code, ident] ++ bytes16 (htole16 size) ++ (← payload)

def injectBulkIn (packet : Packet) : P IosResult := do
  let p ← get
  let done ← inject p.heap p.bulkIn packet
  set { p with heap := done.heap, bulkIn := done.endpoint }
  return done.ret

def injectL2capPacket (hciConHandle dcid : UInt16) (data : List UInt8) : P IosResult :=
  injectBulkIn (l2capMsg hciConHandle dcid (UInt16.ofNat data.length) (.ok data))

def injectL2capConnectReq (hciConHandle psm scid : UInt16) : P IosResult :=
  injectBulkIn (l2capCmdMsg hciConHandle l2capConnectReq l2capConnectReq 4
    (.ok (bytes16 (htole16 psm) ++ bytes16 (htole16 scid))))

def injectL2capDisconnectReq (hciConHandle dcid scid : UInt16) : P IosResult :=
  injectBulkIn (l2capCmdMsg hciConHandle l2capDisconnectReq l2capDisconnectReq 4
    (.ok (bytes16 (htole16 dcid) ++ bytes16 (htole16 scid))))

def injectL2capDisconnectRsp (hciConHandle : UInt16) (ident : UInt8) (dcid scid : UInt16) :
    P IosResult :=
  injectBulkIn (l2capCmdMsg hciConHandle l2capDisconnectRsp ident 4
    (.ok (bytes16 (htole16 dcid) ++ bytes16 (htole16 scid))))

def injectL2capConfigReq (hciConHandle remoteCid mtu flushTimeOut : UInt16) : P IosResult :=
  let mtuOption :=
    if mtu ≠ l2capMtuDefault then [l2capOptMtu, l2capOptMtuSize] ++ bytes16 (htole16 mtu) else []
  let flushOption :=
    if flushTimeOut ≠ l2capFlushTimoDefault then
      [l2capOptFlushTimo, l2capOptFlushTimoSize] ++ bytes16 (htole16 flushTimeOut)
    else []
  injectBulkIn (l2capCmdMsg hciConHandle l2capConfigReq l2capConfigReq
    (UInt16.ofNat (l2capCfgReqCpSize + mtuOption.length + flushOption.length))
    (.ok (bytes16 (htole16 remoteCid) ++ bytes16 (htole16 0) ++ mtuOption ++ flushOption)))

/-- The options are `optionsLen` bytes from the start of `options`. -/
def injectL2capConfigRsp (hciConHandle remoteCid : UInt16) (ident : UInt8) (options : List UInt8)
    (optionsLen : UInt16) : P IosResult :=
  injectBulkIn (l2capCmdMsg hciConHandle l2capConfigRsp ident
    (UInt16.ofNat l2capCfgRspCpSize + optionsLen) do
      let copied ← loadBytes options 0 optionsLen.toNat
      return bytes16 (htole16 remoteCid) ++ bytes16 (htole16 0) ++ bytes16 (htole16 l2capSuccess) ++
        copied)

end Fakemote
