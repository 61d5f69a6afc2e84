import Fakemote.ControllerEvents
import Fakemote.Runs

/-! The packets that `injmessage.c` builds, byte for byte, and that they decode to what was meant. -/

namespace Fakemote

open Bytes Program

structure Packet.Fills (packet : Packet) (bytes : List UInt8) : Prop where
  writes : packet.bytes = .ok bytes
  size : packet.size.toNat = bytes.length

def Heap.allocated (heap : Heap) : Heap :=
  { heap with calls := heap.calls + 1, blocks := heap.blocks ++ [heap.calls] }

def Heap.message (heap : Heap) (bytes : List UInt8) : InjMessage := ⟨heap.calls, bytes⟩

theorem fillMessage_ok {msg filled : InjMessage} {bytes : List UInt8} :
    fillMessage msg bytes = .ok filled ↔ bytes.length ≤ msg.data.length ∧
      filled = { msg with data := bytes ++ msg.data.drop bytes.length } := by
  unfold fillMessage
  split
  · rename_i room
    constructor
    · intro same
      exact ⟨room, (Except.ok.inj same).symm⟩
    · intro same
      rw [same.2]
  · rename_i overflow
    constructor
    · intro same
      cases same
    · intro same
      exact absurd same.1 overflow

theorem inject_allocates {heap : Heap} {endpoint : Endpoint} {packet : Packet} {done : Injection}
    {junk : Nat → UInt8} (allocates : heap.outcome heap.calls = some junk) :
    inject heap endpoint packet = .ok done ↔
      ∃ bytes, packet.bytes = .ok bytes ∧ bytes.length ≤ packet.size.toNat ∧
        done = ⟨heap.allocated,
          (endpoint.handleBulkIntrReadyMessage (.injected (heap.message done.data))).1,
          bytes ++ ((List.range packet.size.toNat).map junk).drop bytes.length,
          (endpoint.handleBulkIntrReadyMessage (.injected (heap.message done.data))).2⟩ := by
  unfold inject Heap.injmessageAlloc
  rw [allocates]
  dsimp only
  constructor
  · intro run
    obtain ⟨bytes, source, run⟩ := except_bind_ok.mp run
    obtain ⟨msg, filling, run⟩ := except_bind_ok.mp run
    obtain ⟨room, rfl⟩ := fillMessage_ok.mp filling
    rw [List.length_map, List.length_range] at room
    cases run
    exact ⟨bytes, source, room, rfl⟩
  · rintro ⟨bytes, source, room, result⟩
    rw [source, except_ok_bind]
    have data : done.data =
        bytes ++ ((List.range packet.size.toNat).map junk).drop bytes.length := by rw [result]
    have filling : fillMessage ⟨heap.calls, (List.range packet.size.toNat).map junk⟩ bytes =
        .ok (heap.message done.data) := by
      refine fillMessage_ok.mpr ⟨?_, ?_⟩
      · rw [List.length_map, List.length_range]
        exact room
      · rw [Heap.message, data]
    rw [filling, except_ok_bind, result, ← data]
    rfl

theorem inject_fills {heap : Heap} {endpoint : Endpoint} {packet : Packet} {bytes : List UInt8}
    {junk : Nat → UInt8} (fills : packet.Fills bytes)
    (allocates : heap.outcome heap.calls = some junk) :
    inject heap endpoint packet =
      .ok ⟨heap.allocated,
        (endpoint.handleBulkIntrReadyMessage (.injected (heap.message bytes))).1, bytes,
        (endpoint.handleBulkIntrReadyMessage (.injected (heap.message bytes))).2⟩ := by
  refine (inject_allocates allocates).mpr ⟨bytes, fills.writes, Nat.le_of_eq fills.size.symm, ?_⟩
  have none : ((List.range packet.size.toNat).map junk).drop bytes.length = [] := by
    apply List.drop_eq_nil_of_le
    rw [List.length_map, List.length_range]
    exact Nat.le_of_eq fills.size
  rw [none, List.append_nil]

def Periphery.deliver (p : Periphery) (bytes : List UInt8) : IosResult × Periphery :=
  let (endpoint, ret) := p.bulkIn.handleBulkIntrReadyMessage (.injected (p.heap.message bytes))
  (ret, { p with heap := p.heap.allocated, bulkIn := endpoint })

/-- With memory, the program gives the host a message of these bytes. -/
def Builds (m : P IosResult) (bytes : List UInt8) : Prop :=
  ∀ (p : Periphery) (junk : Nat → UInt8), p.heap.outcome p.heap.calls = some junk →
    m p = .ok (p.deliver bytes)

theorem builds_of_fills {packet : Packet} {bytes : List UInt8} (fills : packet.Fills bytes) :
    Builds (injectBulkIn packet) bytes := by
  intro p junk allocates
  unfold injectBulkIn
  rw [bind_run (get_run p), inject_fills fills allocates, bind_run (lift_run_ok _ p)]
  rfl

def aclPacket (handle : UInt16) (payload : List UInt8) : List UInt8 :=
  bytes16 (htole16 (hciMkConHandle handle hciPacketStart hciPoint2Point)) ++
    bytes16 (htole16 (UInt16.ofNat payload.length)) ++ payload

def l2capFrame (dcid : UInt16) (payload : List UInt8) : List UInt8 :=
  bytes16 (htole16 (UInt16.ofNat payload.length)) ++ bytes16 (htole16 dcid) ++ payload

def l2capCommand (code ident : UInt8) (payload : List UInt8) : List UInt8 :=
  [code, ident] ++ bytes16 (htole16 (UInt16.ofNat payload.length)) ++ payload

@[simp] theorem bytes16_length (word : UInt16) : (bytes16 word).length = 2 := rfl

@[simp] theorem aclPacket_length (handle : UInt16) (payload : List UInt8) :
    (aclPacket handle payload).length = payload.length + 4 := by
  simp [aclPacket]
  omega

@[simp] theorem l2capFrame_length (dcid : UInt16) (payload : List UInt8) :
    (l2capFrame dcid payload).length = payload.length + 4 := by
  simp [l2capFrame]
  omega

@[simp] theorem l2capCommand_length (code ident : UInt8) (payload : List UInt8) :
    (l2capCommand code ident payload).length = payload.length + 4 := by
  simp [l2capCommand]
  omega

theorem ofNat_add_four (n : Nat) : UInt16.ofNat 4 + UInt16.ofNat n = UInt16.ofNat (n + 4) := by
  rw [Nat.add_comm n 4, UInt16.ofNat_add]

theorem hciAclMsg_eq (handle : UInt16) (payload : List UInt8) :
    hciAclMsg handle (UInt16.ofNat payload.length) (.ok payload) =
      ⟨UInt16.ofNat (payload.length + 4), .ok (aclPacket handle payload)⟩ := by
  rw [← ofNat_add_four]
  rfl

theorem l2capMsg_eq (handle dcid : UInt16) (payload : List UInt8) :
    l2capMsg handle dcid (UInt16.ofNat payload.length) (.ok payload) =
      ⟨UInt16.ofNat (payload.length + 8), .ok (aclPacket handle (l2capFrame dcid payload))⟩ := by
  have frame := hciAclMsg_eq handle (l2capFrame dcid payload)
  rw [l2capFrame_length, ← ofNat_add_four] at frame
  exact frame

def signalPacket (handle : UInt16) (code ident : UInt8) (payload : List UInt8) : List UInt8 :=
  aclPacket handle (l2capFrame l2capSignalCid (l2capCommand code ident payload))

theorem l2capCmdMsg_eq (handle : UInt16) (code ident : UInt8) (payload : List UInt8) :
    l2capCmdMsg handle code ident (UInt16.ofNat payload.length) (.ok payload) =
      ⟨UInt16.ofNat (payload.length + 12), .ok (signalPacket handle code ident payload)⟩ := by
  have command := l2capMsg_eq handle l2capSignalCid (l2capCommand code ident payload)
  rw [l2capCommand_length, ← ofNat_add_four] at command
  exact command

theorem fills_l2capMsg {handle dcid : UInt16} {payload : List UInt8}
    (fits : payload.length + 8 < 65536) :
    (l2capMsg handle dcid (UInt16.ofNat payload.length) (.ok payload)).Fills
      (aclPacket handle (l2capFrame dcid payload)) := by
  rw [l2capMsg_eq]
  refine ⟨rfl, ?_⟩
  rw [UInt16.toNat_ofNat_of_lt' fits, aclPacket_length, l2capFrame_length]

theorem fills_l2capCmdMsg {handle : UInt16} {code ident : UInt8} {payload : List UInt8}
    (fits : payload.length + 12 < 65536) :
    (l2capCmdMsg handle code ident (UInt16.ofNat payload.length) (.ok payload)).Fills
      (signalPacket handle code ident payload) := by
  rw [l2capCmdMsg_eq]
  refine ⟨rfl, ?_⟩
  rw [UInt16.toNat_ofNat_of_lt' fits, signalPacket, aclPacket_length, l2capFrame_length,
    l2capCommand_length]

theorem builds_l2capPacket {handle dcid : UInt16} {data : List UInt8}
    (fits : data.length + 8 < 65536) :
    Builds (injectL2capPacket handle dcid data) (aclPacket handle (l2capFrame dcid data)) :=
  builds_of_fills (fills_l2capMsg fits)

def connectReqPayload (psm scid : UInt16) : List UInt8 :=
  bytes16 (htole16 psm) ++ bytes16 (htole16 scid)

def disconnectPayload (dcid scid : UInt16) : List UInt8 :=
  bytes16 (htole16 dcid) ++ bytes16 (htole16 scid)

/-- The options of a Config Request: values that are the default are left out. -/
def configReqOptions (mtu flushTimeOut : UInt16) : List UInt8 :=
  (if mtu ≠ l2capMtuDefault then [l2capOptMtu, l2capOptMtuSize] ++ bytes16 (htole16 mtu) else []) ++
    (if flushTimeOut ≠ l2capFlushTimoDefault then
      [l2capOptFlushTimo, l2capOptFlushTimoSize] ++ bytes16 (htole16 flushTimeOut) else [])

def configReqPayload (remoteCid mtu flushTimeOut : UInt16) : List UInt8 :=
  bytes16 (htole16 remoteCid) ++ bytes16 (htole16 0) ++ configReqOptions mtu flushTimeOut

def configRspPayload (remoteCid : UInt16) (options : List UInt8) : List UInt8 :=
  bytes16 (htole16 remoteCid) ++ bytes16 (htole16 0) ++ bytes16 (htole16 l2capSuccess) ++ options

theorem builds_signal {handle : UInt16} {code ident : UInt8} (payload : List UInt8)
    (fits : payload.length + 12 < 65536) :
    Builds (injectBulkIn
      (l2capCmdMsg handle code ident (UInt16.ofNat payload.length) (.ok payload)))
      (signalPacket handle code ident payload) :=
  builds_of_fills (fills_l2capCmdMsg fits)

theorem builds_connectReq (handle psm scid : UInt16) :
    Builds (injectL2capConnectReq handle psm scid)
      (signalPacket handle l2capConnectReq l2capConnectReq (connectReqPayload psm scid)) :=
  builds_signal (connectReqPayload psm scid) (show 4 + 12 < 65536 by decide)

theorem builds_disconnectReq (handle dcid scid : UInt16) :
    Builds (injectL2capDisconnectReq handle dcid scid)
      (signalPacket handle l2capDisconnectReq l2capDisconnectReq (disconnectPayload dcid scid)) :=
  builds_signal (disconnectPayload dcid scid) (show 4 + 12 < 65536 by decide)

theorem builds_disconnectRsp (handle : UInt16) (ident : UInt8) (dcid scid : UInt16) :
    Builds (injectL2capDisconnectRsp handle ident dcid scid)
      (signalPacket handle l2capDisconnectRsp ident (disconnectPayload dcid scid)) :=
  builds_signal (disconnectPayload dcid scid) (show 4 + 12 < 65536 by decide)

theorem configReqOptions_short (mtu flushTimeOut : UInt16) :
    (configReqOptions mtu flushTimeOut).length ≤ 8 := by
  unfold configReqOptions
  split <;> split <;> simp

theorem injectL2capConfigReq_eq (handle remoteCid mtu flushTimeOut : UInt16) :
    injectL2capConfigReq handle remoteCid mtu flushTimeOut =
      injectBulkIn (l2capCmdMsg handle l2capConfigReq l2capConfigReq
        (UInt16.ofNat (configReqPayload remoteCid mtu flushTimeOut).length)
        (.ok (configReqPayload remoteCid mtu flushTimeOut))) := by
  simp only [injectL2capConfigReq, configReqPayload, configReqOptions, List.length_append,
    bytes16_length, List.append_assoc, Nat.add_assoc, l2capCfgReqCpSize]
  rw [← Nat.add_assoc 2 2]

theorem configReqPayload_short (remoteCid mtu flushTimeOut : UInt16) :
    (configReqPayload remoteCid mtu flushTimeOut).length + 12 < 65536 := by
  have short := configReqOptions_short mtu flushTimeOut
  simp only [configReqPayload, List.length_append, bytes16_length]
  omega

theorem builds_configReq (handle remoteCid mtu flushTimeOut : UInt16) :
    Builds (injectL2capConfigReq handle remoteCid mtu flushTimeOut)
      (signalPacket handle l2capConfigReq l2capConfigReq
        (configReqPayload remoteCid mtu flushTimeOut)) := by
  rw [injectL2capConfigReq_eq]
  exact builds_signal _ (configReqPayload_short _ _ _)

theorem builds_configRsp (handle remoteCid : UInt16) (ident : UInt8) {options : List UInt8}
    (fits : options.length + 18 < 65536) :
    Builds (injectL2capConfigRsp handle remoteCid ident options (UInt16.ofNat options.length))
      (signalPacket handle l2capConfigRsp ident (configRspPayload remoteCid options)) := by
  have length : (configRspPayload remoteCid options).length = options.length + 6 := by
    simp only [configRspPayload, List.length_append, bytes16_length]
    omega
  have copied : loadBytes options 0 (UInt16.ofNat options.length).toNat = .ok options := by
    rw [UInt16.toNat_ofNat_of_lt' (show options.length < 65536 by omega)]
    simp [loadBytes, Bytes.loadBytes, orFault]
  have size : UInt16.ofNat l2capCfgRspCpSize + UInt16.ofNat options.length =
      UInt16.ofNat (configRspPayload remoteCid options).length := by
    rw [length, Nat.add_comm, UInt16.ofNat_add]
    rfl
  have same : injectL2capConfigRsp handle remoteCid ident options (UInt16.ofNat options.length) =
      injectBulkIn (l2capCmdMsg handle l2capConfigRsp ident
        (UInt16.ofNat (configRspPayload remoteCid options).length)
        (.ok (configRspPayload remoteCid options))) := by
    unfold injectL2capConfigRsp
    rw [size, copied]
    rfl
  rw [same]
  apply builds_signal
  rw [length]
  omega

theorem load16_of_bytes {buffer : List UInt8} {offset : Nat} {word : UInt16}
    (high : buffer[offset]? = some (highByte word))
    (low : buffer[offset + 1]? = some (lowByte word)) : load16 buffer offset = .ok word := by
  simp [load16, Bytes.load16, high, low, orFault]

/-- The fields of the two headers, and what follows them. -/
structure L2capPacket where
  handle : UInt16
  pb : UInt16
  bc : UInt16
  aclLength : UInt16
  length : UInt16
  dcid : UInt16
  payload : List UInt8
  deriving DecidableEq, Repr

def decodeL2cap (data : List UInt8) : Except Fault L2capPacket := do
  let handlePbBc := le16toh (← load16 data 0)
  let aclLength := le16toh (← load16 data 2)
  let length := le16toh (← load16 data 4)
  let dcid := le16toh (← load16 data 6)
  return ⟨hciConHandle handlePbBc, hciPbFlag handlePbBc, hciBcFlag handlePbBc, aclLength, length,
    dcid, data.drop (hciAclDataHdrSize + l2capHdrSize)⟩

theorem decodeL2cap_packet {handle : UInt16} (narrow : handle.toNat < 4096) (dcid : UInt16)
    (payload : List UInt8) :
    decodeL2cap (aclPacket handle (l2capFrame dcid payload)) =
      .ok ⟨handle, hciPacketStart, hciPoint2Point, UInt16.ofNat (payload.length + 4),
        UInt16.ofNat payload.length, dcid, payload⟩ := by
  have header : load16 (aclPacket handle (l2capFrame dcid payload)) 0 =
      .ok (htole16 (hciMkConHandle handle hciPacketStart hciPoint2Point)) :=
    load16_of_bytes rfl rfl
  have aclLength : load16 (aclPacket handle (l2capFrame dcid payload)) 2 =
      .ok (htole16 (UInt16.ofNat (l2capFrame dcid payload).length)) :=
    load16_of_bytes rfl rfl
  have length : load16 (aclPacket handle (l2capFrame dcid payload)) 4 =
      .ok (htole16 (UInt16.ofNat payload.length)) :=
    load16_of_bytes rfl rfl
  have channel : load16 (aclPacket handle (l2capFrame dcid payload)) 6 = .ok (htole16 dcid) :=
    load16_of_bytes rfl rfl
  simp only [decodeL2cap, header, aclLength, length, channel, bind, Except.bind, le16toh_htole16,
    hciConHandle_mk narrow, hciPbFlag_mk _ (show hciPacketStart.toNat < 4 by decide),
    hciBcFlag_mk _ _ (show hciPoint2Point.toNat < 4 by decide), l2capFrame_length]
  rfl

theorem walk_command (w : WiimoteId) (code ident : UInt8) {payload : List UInt8}
    (fits : payload.length + 4 < 65536) (fuel : Nat) :
    handleL2capSignalChannelRequest w (fuel + 2) (l2capCommand code ident payload)
        (UInt16.ofNat (payload.length + 4)) =
      handleL2capSignalChannel w code ident payload (UInt16.ofNat payload.length) := by
  have size : le16toh (htole16 (UInt16.ofNat payload.length)) = UInt16.ofNat payload.length :=
    le16toh_htole16 _
  have whole : (UInt16.ofNat (payload.length + 4)).toNat = payload.length + 4 :=
    UInt16.toNat_ofNat_of_lt' fits
  have sizeAt : load16 (l2capCommand code ident payload) 2 =
      .ok (htole16 (UInt16.ofNat payload.length)) :=
    load16_of_bytes rfl rfl
  have left : UInt16.ofNat (payload.length + 4) -
      (UInt16.ofNat l2capCmdHdrSize + UInt16.ofNat payload.length) = 0 := by
    rw [l2capCmdHdrSize, ofNat_add_four, UInt16.sub_self]
  funext s
  unfold handleL2capSignalChannelRequest
  rw [if_neg (by rw [whole, l2capCmdHdrSize]; omega)]
  rw [show load8 (l2capCommand code ident payload) 0 = .ok code from rfl, bind_run (lift_run_ok _ s),
    show load8 (l2capCommand code ident payload) 1 = .ok ident from rfl, bind_run (lift_run_ok _ s),
    sizeAt, bind_run (lift_run_ok _ s)]
  rw [size, left, show (l2capCommand code ident payload).drop l2capCmdHdrSize = payload from rfl]
  have ends (data : List UInt8) : handleL2capSignalChannelRequest w (fuel + 1) data 0 = pure () := by
    unfold handleL2capSignalChannelRequest
    exact if_pos (by decide)
  rw [ends, bind_pure_unit]

/-- The bytes are an ACL packet with one L2CAP packet, whose lengths agree. -/
structure Carries (bytes : List UInt8) (handle dcid : UInt16) (payload : List UInt8)
    (packet : L2capPacket) : Prop where
  decodes : decodeL2cap bytes = .ok packet
  handle : packet.handle = handle
  flags : packet.pb = hciPacketStart ∧ packet.bc = hciPoint2Point
  channel : packet.dcid = dcid
  payload : packet.payload = payload
  aclLength : bytes.length = packet.aclLength.toNat + 4
  length : packet.aclLength.toNat = packet.length.toNat + 4

theorem carries_packet {handle : UInt16} (narrow : handle.toNat < 4096) (dcid : UInt16)
    {payload : List UInt8} (fits : payload.length + 8 < 65536) :
    Carries (aclPacket handle (l2capFrame dcid payload)) handle dcid payload
      ⟨handle, hciPacketStart, hciPoint2Point, UInt16.ofNat (payload.length + 4),
        UInt16.ofNat payload.length, dcid, payload⟩ := by
  have aclSize : (UInt16.ofNat (payload.length + 4)).toNat = payload.length + 4 :=
    UInt16.toNat_ofNat_of_lt' (show payload.length + 4 < 65536 by omega)
  have size : (UInt16.ofNat payload.length).toNat = payload.length :=
    UInt16.toNat_ofNat_of_lt' (show payload.length < 65536 by omega)
  refine ⟨decodeL2cap_packet narrow dcid payload, rfl, ⟨rfl, rfl⟩, rfl, rfl, ?_, ?_⟩
  · rw [aclPacket_length, l2capFrame_length, aclSize]
  · rw [aclSize, size]

/-- With memory, the program builds a signalling packet in which the walk finds this command and
no other. -/
def BuildsCommand (m : P IosResult) (handle : UInt16) (code ident : UInt8) (payload : List UInt8) :
    Prop :=
  ∃ bytes packet, Builds m bytes ∧
    Carries bytes handle l2capSignalCid (l2capCommand code ident payload) packet ∧
    ∀ w fuel, handleL2capSignalChannelRequest w (fuel + 2) packet.payload packet.length =
      handleL2capSignalChannel w code ident payload (UInt16.ofNat payload.length)

theorem buildsCommand {m : P IosResult} {handle : UInt16} {code ident : UInt8}
    {payload : List UInt8} (narrow : handle.toNat < 4096) (fits : payload.length + 12 < 65536)
    (builds : Builds m (signalPacket handle code ident payload)) :
    BuildsCommand m handle code ident payload := by
  have room : (l2capCommand code ident payload).length + 8 < 65536 := by
    rw [l2capCommand_length]
    omega
  refine ⟨_, _, builds, carries_packet narrow l2capSignalCid room, ?_⟩
  intro w fuel
  dsimp only
  rw [l2capCommand_length]
  exact walk_command w code ident (by omega) fuel

theorem configOptions_end (fuel : Nat) (options : List UInt8) (size : Nat) (remoteMtu : UInt16) :
    Device.configOptions (fuel + 1) options size size remoteMtu = .ok remoteMtu := by
  unfold Device.configOptions
  exact if_neg (Nat.lt_irrefl size)

theorem configOptions_mtu {options : List UInt8} {offset size : Nat} {mtu : UInt16} (fuel : Nat)
    (remoteMtu : UInt16) (inside : offset < size)
    (type : load8 options offset = .ok l2capOptMtu)
    (length : load8 options (offset + 1) = .ok l2capOptMtuSize)
    (value : load16 options (offset + l2capCfgOptSize) = .ok (htole16 mtu)) :
    Device.configOptions (fuel + 1) options offset size remoteMtu =
      Device.configOptions fuel options (offset + 4) size mtu := by
  rw [Device.configOptions, if_pos inside, type, except_ok_bind, length, except_ok_bind]
  dsimp only
  rw [if_pos rfl, if_pos rfl, value, except_ok_bind, le16toh_htole16]
  rfl

theorem configOptions_flush {options : List UInt8} {offset size : Nat} (fuel : Nat)
    (remoteMtu : UInt16) (inside : offset < size)
    (type : load8 options offset = .ok l2capOptFlushTimo)
    (length : load8 options (offset + 1) = .ok l2capOptFlushTimoSize) :
    Device.configOptions (fuel + 1) options offset size remoteMtu =
      Device.configOptions fuel options (offset + 4) size remoteMtu := by
  rw [Device.configOptions, if_pos inside, type, except_ok_bind, length, except_ok_bind]
  dsimp only
  rw [if_neg (by decide), if_pos rfl, if_pos rfl]
  rfl

theorem configOptions_read (mtu flushTimeOut : UInt16) (fuel : Nat) :
    Device.configOptions (fuel + 3) (configReqOptions mtu flushTimeOut) 0
      (configReqOptions mtu flushTimeOut).length l2capMtuDefault = .ok mtu := by
  unfold configReqOptions
  by_cases same : mtu = l2capMtuDefault
  · rw [if_neg (not_not.mpr same), List.nil_append, same]
    by_cases never : flushTimeOut = l2capFlushTimoDefault
    · rw [if_neg (not_not.mpr never)]
      exact configOptions_end _ _ _ _
    · rw [if_pos never]
      exact (configOptions_flush _ _ (Nat.zero_lt_succ 3) rfl rfl).trans
        (configOptions_end _ _ _ _)
  · rw [if_pos same]
    have value (rest : List UInt8) : load16 ([l2capOptMtu, l2capOptMtuSize] ++
        bytes16 (htole16 mtu) ++ rest) (0 + l2capCfgOptSize) = .ok (htole16 mtu) :=
      load16_of_bytes rfl rfl
    by_cases never : flushTimeOut = l2capFlushTimoDefault
    · rw [if_neg (not_not.mpr never)]
      exact (configOptions_mtu _ _ (Nat.zero_lt_succ 3) rfl rfl (value [])).trans
        (configOptions_end _ _ _ _)
    · rw [if_pos never]
      apply (configOptions_mtu _ _ (Nat.zero_lt_succ 7) rfl rfl (value _)).trans
      exact (configOptions_flush _ _ (show 0 + 4 < 8 by decide) rfl rfl).trans
        (configOptions_end _ _ _ _)

theorem injectHciEvent_length {event eventSize : UInt8} {fields : List UInt8} {s t : World}
    {ret : IosResult} {junk : Nat → UInt8}
    (allocates : s.periphery.heap.outcome s.periphery.heap.calls = some junk)
    (run : injectHciEvent event eventSize fields s = .ok (ret, t)) :
    ∃ data, t.intr = (s.intr.handleBulkIntrReadyMessage
        (.injected (s.periphery.heap.message data))).1 ∧
      load8 data 0 = .ok event ∧ load8 data 1 = .ok eventSize ∧
      data.length = hciEventHdrSize + eventSize.toNat := by
  obtain ⟨_, _, got, run⟩ := bind_ok.mp run
  cases got
  obtain ⟨done, _, first, run⟩ := bind_ok.mp run
  obtain ⟨injected, rfl⟩ := lift_ok.mp first
  cases run
  have size : (UInt16.ofNat (hciEventHdrSize + eventSize.toNat)).toNat =
      hciEventHdrSize + eventSize.toNat := by
    have small := eventSize.toNat_lt
    exact UInt16.toNat_ofNat_of_lt' (show hciEventHdrSize + eventSize.toNat < 65536 by
      rw [hciEventHdrSize]; omega)
  obtain ⟨bytes, source, room, result⟩ := (inject_allocates allocates).mp injected
  cases source
  have data : done.data = [event, eventSize] ++ fields ++ ((List.range (UInt16.ofNat
      (hciEventHdrSize + eventSize.toNat)).toNat).map junk).drop _ := congrArg (·.data) result
  refine ⟨done.data, ?_, ?_, ?_, ?_⟩
  · exact congrArg (·.endpoint) result
  · rw [data]
    rfl
  · rw [data]
    rfl
  · rw [data]
    simp only [hciEventMsg, List.length_append, List.length_drop, List.length_map,
      List.length_range, size] at room ⊢
    omega

/-- Every packet and event that is injected with memory decodes to what was meant. -/
theorem injected_packets_decode :
    (∀ (handle dcid : UInt16) (data : List UInt8), handle.toNat < 4096 →
      data.length + 8 < 65536 → ∃ bytes packet,
        Builds (injectL2capPacket handle dcid data) bytes ∧
          Carries bytes handle dcid data packet) ∧
    (∀ handle : UInt16, handle.toNat < 4096 →
      (∀ psm scid, BuildsCommand (injectL2capConnectReq handle psm scid) handle
        l2capConnectReq l2capConnectReq (connectReqPayload psm scid)) ∧
      (∀ dcid scid, BuildsCommand (injectL2capDisconnectReq handle dcid scid) handle
        l2capDisconnectReq l2capDisconnectReq (disconnectPayload dcid scid)) ∧
      (∀ ident dcid scid, BuildsCommand (injectL2capDisconnectRsp handle ident dcid scid) handle
        l2capDisconnectRsp ident (disconnectPayload dcid scid)) ∧
      (∀ remoteCid mtu flushTimeOut,
        BuildsCommand (injectL2capConfigReq handle remoteCid mtu flushTimeOut) handle
            l2capConfigReq l2capConfigReq (configReqPayload remoteCid mtu flushTimeOut) ∧
          ∀ fuel, Device.configOptions (fuel + 3) (configReqOptions mtu flushTimeOut) 0
            (configReqOptions mtu flushTimeOut).length l2capMtuDefault = .ok mtu) ∧
      ∀ remoteCid ident (options : List UInt8), options.length + 18 < 65536 →
        BuildsCommand
          (injectL2capConfigRsp handle remoteCid ident options (UInt16.ofNat options.length)) handle
          l2capConfigRsp ident (configRspPayload remoteCid options)) ∧
    ∀ (event eventSize : UInt8) (fields : List UInt8) (s t : World) (ret : IosResult)
      (junk : Nat → UInt8), s.periphery.heap.outcome s.periphery.heap.calls = some junk →
      injectHciEvent event eventSize fields s = .ok (ret, t) →
      ∃ data, t.intr = (s.intr.handleBulkIntrReadyMessage
          (.injected (s.periphery.heap.message data))).1 ∧
        load8 data 0 = .ok event ∧ load8 data 1 = .ok eventSize ∧
        data.length = hciEventHdrSize + eventSize.toNat := by
  refine ⟨?_, ?_, fun _ _ _ _ _ _ _ allocates run => injectHciEvent_length allocates run⟩
  · intro handle dcid data narrow fits
    exact ⟨_, _, builds_l2capPacket fits, carries_packet narrow dcid fits⟩
  · intro handle narrow
    refine ⟨?_, ?_, ?_, ?_, ?_⟩
    · intro psm scid
      exact buildsCommand narrow (show 4 + 12 < 65536 by decide) (builds_connectReq _ _ _)
    · intro dcid scid
      exact buildsCommand narrow (show 4 + 12 < 65536 by decide) (builds_disconnectReq _ _ _)
    · intro ident dcid scid
      exact buildsCommand narrow (show 4 + 12 < 65536 by decide) (builds_disconnectRsp _ _ _ _)
    · intro remoteCid mtu flushTimeOut
      exact ⟨buildsCommand narrow (configReqPayload_short _ _ _) (builds_configReq _ _ _ _),
        configOptions_read mtu flushTimeOut⟩
    · intro remoteCid ident options fits
      refine buildsCommand narrow ?_ (builds_configRsp _ _ _ fits)
      simp only [configRspPayload, List.length_append, bytes16_length]
      omega

/-- A data report, a Config Response that repeats an MTU option, and a Command Status event. -/
theorem injected_packets_decode_samples :
    (∃ bytes packet, Builds (injectL2capPacket 0x100 0x41 [0xA1, 0x30, 0, 8]) bytes ∧
      Carries bytes 0x100 0x41 [0xA1, 0x30, 0, 8] packet) ∧
    BuildsCommand (injectL2capConfigRsp 0x100 0x41 7 [1, 2, 0xB9, 0] 4) 0x100 l2capConfigRsp 7
      (configRspPayload 0x41 [1, 2, 0xB9, 0]) ∧
    ∃ ret t data, injectHciEvent hciEventCommandStatus 4 [0, 1, 0x09, 0x04]
        (World.init .lenient) = .ok (ret, t) ∧
      load8 data 1 = .ok 4 ∧ data.length = hciEventHdrSize + 4 := by
  obtain ⟨packets, commands, events⟩ := injected_packets_decode
  refine ⟨packets 0x100 0x41 _ (by decide) (by decide), ?_, ?_⟩
  · exact (commands 0x100 (by decide)).2.2.2.2 0x41 7 [1, 2, 0xB9, 0] (by decide)
  · obtain ⟨data, -, -, size, length⟩ := events hciEventCommandStatus 4 [0, 1, 0x09, 0x04]
      (World.init .lenient) _ _ (fun _ => 0) rfl rfl
    exact ⟨_, _, data, rfl, size, length⟩

end Fakemote

